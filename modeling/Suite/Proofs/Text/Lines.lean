import Suite.Proofs.Text.Pieces

/-!
# Lines of texts

`Text.lines` cuts a text at its line feeds and mends the pieces. `IsLines` says from the front which
lines a text is made of: every line has its end, which may hold a carriage return, and only the last
one may lack it. The lines of a text are the only ones that it is made of (`lines_eq_iff`), so what
is shown of the last lines can be proved along them.

## Key results

- `lines_eq_iff`: the lines of a text are those that it is made of
- `lastLines_eq`: the last lines, as many as there are
- `suffix_lastLines_succ`: with one line more, the others stand behind it
- `suffix_lastLines_of_noReturn`: without carriage returns the last lines are the end of the text
-/

namespace Suite.Text

/-- The text is made of these lines. A line ends with a line feed, or with a carriage return and a
line feed, neither of which belongs to it; the end of the last one may be missing. -/
inductive IsLines : String → List String → Prop
  | nil : IsLines "" []
  /-- The last line, without its end. -/
  | unended {line : String} (hne : line ≠ "") (hfeed : '\n' ∉ line.toList) : IsLines line [line]
  /-- A line that only a line feed ends. -/
  | feed {line rest : String} {more : List String} (hfeed : '\n' ∉ line.toList)
    (hreturn : line.toList.getLast? ≠ some '\r') (hrest : IsLines rest more) :
    IsLines (line ++ "\n" ++ rest) (line :: more)
  /-- A line that a carriage return and a line feed end. -/
  | returnFeed {line rest : String} {more : List String} (hfeed : '\n' ∉ line.toList)
    (hrest : IsLines rest more) : IsLines (line ++ "\r\n" ++ rest) (line :: more)

/-! ### Cutting into lines -/

/-- The empty text has no lines. -/
private theorem lines_empty : lines "" = [] := by
  simp [lines, pieces]

/-- A text without a line feed is one line, if there is anything in it. -/
private theorem lines_of_noFeed {s : String} (hne : s ≠ "") (hfeed : '\n' ∉ s.toList) :
    lines s = [s] := by
  simp [lines, pieces_of_notMem hfeed, hne]

/-- The first line feed ends the first line. -/
private theorem lines_append_feed {line : String} (rest : String) (hfeed : '\n' ∉ line.toList) :
    lines (line ++ "\n" ++ rest) = String.ofList (dropReturn line.toList) :: lines rest := by
  have hne := pieces_ne_nil '\n' rest.toList
  have hpieces : pieces '\n' (line ++ "\n" ++ rest).toList =
      line.toList :: pieces '\n' rest.toList := by
    have hcut := pieces_append_cons '\n' line.toList rest.toList
    rw [pieces_of_notMem hfeed] at hcut
    simpa [String.toList_append] using hcut
  simp only [lines, hpieces, List.dropLast_cons_of_ne_nil hne, List.getLast_cons hne]
  simp

/-- A line that does not end with a return stays as it is. -/
private theorem dropReturn_of_getLast?_ne {line : List Char} (h : line.getLast? ≠ some '\r') :
    dropReturn line = line := if_neg h

/-- A return at the end of a line is dropped. -/
private theorem dropReturn_append_return (line : List Char) :
    dropReturn (line ++ ['\r']) = line := by
  simp [dropReturn]

/-- A text is made of its lines. -/
private theorem isLines_lines (s : String) : IsLines s (lines s) := by
  -- Induction on the length: behind the first line feed the text is shorter.
  induction hlength : s.toList.length using Nat.strongRecOn generalizing s with
  | ind n ih =>
    by_cases hmem : '\n' ∈ s.toList
    · obtain ⟨front, back, hcut, hfront⟩ := List.eq_append_cons_of_mem hmem
      have hshorter : (String.ofList back).toList.length < n := by
        rw [← hlength, hcut, String.toList_ofList, List.length_append, List.length_cons]
        omega
      have hrest := ih _ hshorter (String.ofList back) rfl
      have hs : s = String.ofList front ++ "\n" ++ String.ofList back := by
        apply String.toList_inj.1
        simp [hcut]
      have hfeed : '\n' ∉ (String.ofList front).toList := by simpa using hfront
      rw [hs, lines_append_feed _ hfeed, String.toList_ofList]
      -- A return in front of the line feed belongs to the end of the line.
      by_cases hreturn : front.getLast? = some '\r'
      · obtain ⟨line, rfl⟩ := List.getLast?_eq_some_iff.1 hreturn
        have hline : '\n' ∉ (String.ofList line).toList := fun h =>
          hfront (List.mem_append_left ['\r'] (by simpa using h))
        have hend : String.ofList (line ++ ['\r']) ++ "\n" = String.ofList line ++ "\r\n" := by
          apply String.toList_inj.1
          simp
        rw [dropReturn_append_return, hend]
        exact .returnFeed hline hrest
      · rw [dropReturn_of_getLast?_ne hreturn]
        exact .feed hfeed (by simpa using hreturn) hrest
    · by_cases hne : s = ""
      · rw [hne, lines_empty]
        exact .nil
      · rw [lines_of_noFeed hne hmem]
        exact .unended hne hmem

/-- What a text is made of is cut out of it. -/
private theorem IsLines.lines_eq {s : String} {ls : List String} (h : IsLines s ls) :
    lines s = ls := by
  -- By induction on how the text falls into lines, with a case for each way that a line can end.
  induction h with
  | nil => exact lines_empty
  | unended hne hfeed => exact lines_of_noFeed hne hfeed
  | @feed line rest more hfeed hreturn _ ih =>
    rw [lines_append_feed rest hfeed, dropReturn_of_getLast?_ne hreturn, String.ofList_toList, ih]
  | @returnFeed line rest more hfeed _ ih =>
    have hfeed' : '\n' ∉ (line ++ "\r").toList := by simpa using hfeed
    have hend : line ++ "\r\n" ++ rest = (line ++ "\r") ++ "\n" ++ rest := by
      apply String.toList_inj.1
      simp
    have hline : (line ++ "\r").toList = line.toList ++ ['\r'] := by simp
    rw [hend, lines_append_feed rest hfeed', hline, dropReturn_append_return,
      String.ofList_toList, ih]

/-- The lines of a text are the only ones that it is made of. -/
theorem lines_eq_iff {s : String} {ls : List String} : lines s = ls ↔ IsLines s ls :=
  ⟨fun h => h ▸ isLines_lines s, IsLines.lines_eq⟩

/-! ### The last lines -/

/-- The last lines are as many as asked for, or all there are, joined by line feeds. -/
theorem lastLines_eq (n : Nat) (s : String) :
    ∃ shown, shown <:+ lines s ∧ shown.length = min n (lines s).length ∧
      lastLines n s = "\n".intercalate shown := by
  refine ⟨(lines s).drop ((lines s).length - n), List.drop_suffix _ _, ?_, rfl⟩
  rw [List.length_drop]
  omega

/-- Joined parts end with what the last of them are joined to. -/
private theorem exists_intercalate_eq_append {shown all : List String} (sep : String)
    (h : shown <:+ all) : ∃ front, sep.intercalate all = front ++ sep.intercalate shown := by
  obtain ⟨before, rfl⟩ := h
  -- By induction on the parts that are not shown.
  induction before with
  | nil => exact ⟨"", by simp⟩
  | cons part before ih =>
    obtain ⟨front, hfront⟩ := ih
    rw [List.cons_append]
    by_cases hnil : before ++ shown = []
    · -- Nothing is joined to the part, so nothing is shown.
      obtain ⟨rfl, rfl⟩ := List.append_eq_nil_iff.1 hnil
      exact ⟨part, by simp⟩
    · refine ⟨part ++ sep ++ front, ?_⟩
      rw [String.intercalate_cons_of_ne_nil hnil, hfront, String.append_assoc, String.append_assoc,
        String.append_assoc]

/-- With one line more, what was shown stands at the end. -/
theorem suffix_lastLines_succ (n : Nat) (s : String) :
    ∃ front, lastLines (n + 1) s = front ++ lastLines n s := by
  have hdrop : (lines s).drop ((lines s).length - n) <:+
      (lines s).drop ((lines s).length - (n + 1)) := by
    have hle : (lines s).length - (n + 1) ≤ (lines s).length - n := by omega
    exact List.drop_suffix_drop_left _ hle
  exact exists_intercalate_eq_append "\n" hdrop

/-! ### Texts without carriage returns -/

/-- The text without the line feed at its end, if there is one. -/
def withoutFinalFeed (s : String) : String := (withoutEnd? "\n" s).getD s

/-- A line feed at the end is dropped. -/
private theorem withoutFinalFeed_append_feed (s : String) : withoutFinalFeed (s ++ "\n") = s := by
  rw [withoutFinalFeed, withoutEnd?_append, Option.getD_some]

/-- A text that does not end with a line feed stays as it is. -/
private theorem withoutFinalFeed_of_getLast?_ne {s : String} (h : s.toList.getLast? ≠ some '\n') :
    withoutFinalFeed s = s := by
  have hnone : withoutEnd? "\n" s = none := by
    rw [Option.eq_none_iff_forall_ne_some]
    intro rest hrest
    rw [withoutEnd?_eq_some_iff.1 hrest] at h
    exact h (by simp)
  rw [withoutFinalFeed, hnone, Option.getD_none]

/-- What stands in front of a text does not count for its end. -/
private theorem withoutFinalFeed_append (front : String) {s : String} (hne : s ≠ "") :
    withoutFinalFeed (front ++ s) = front ++ withoutFinalFeed s := by
  -- The last sign is that of the second text, so the same is dropped from both.
  by_cases hend : s.toList.getLast? = some '\n'
  · obtain ⟨before, hbefore⟩ := List.getLast?_eq_some_iff.1 hend
    have hs : s = String.ofList before ++ "\n" := by
      apply String.toList_inj.1
      simp [hbefore]
    rw [hs, ← String.append_assoc, withoutFinalFeed_append_feed, withoutFinalFeed_append_feed]
  · have hlast : (front ++ s).toList.getLast? = s.toList.getLast? := by
      rw [String.toList_append, List.getLast?_append,
        List.getLast?_eq_some_getLast (l := s.toList) (by simpa using hne), Option.some_or]
    rw [withoutFinalFeed_of_getLast?_ne hend, withoutFinalFeed_of_getLast?_ne (hlast ▸ hend)]

/-- Lines joined by line feeds are the text without the last of these, if it has no carriage
returns that are lost. -/
private theorem IsLines.intercalate_eq {s : String} {ls : List String} (h : IsLines s ls)
    (hreturn : '\r' ∉ s.toList) : "\n".intercalate ls = withoutFinalFeed s := by
  -- By induction on how the text falls into lines; without returns a line feed is the only end.
  induction h with
  | nil => rfl
  | unended hne hfeed =>
    rw [String.intercalate_singleton, withoutFinalFeed_of_getLast?_ne]
    exact fun hlast => hfeed (List.mem_of_getLast? hlast)
  | @feed line rest more hfeed _ hrest ih =>
    by_cases hnil : rest = ""
    · -- The line feed behind the line is the last one.
      subst hnil
      obtain rfl : more = [] := hrest.lines_eq.symm.trans lines_empty
      rw [String.intercalate_singleton, String.append_empty, withoutFinalFeed_append_feed]
    · have hmore : more ≠ [] := by
        rintro rfl
        cases hrest
        exact hnil rfl
      have hrest' : '\r' ∉ rest.toList := fun hmem => hreturn (by simp [hmem])
      rw [String.intercalate_cons_of_ne_nil hmore, ih hrest', withoutFinalFeed_append _ hnil]
  | returnFeed _ _ _ => simp at hreturn

/-- Without carriage returns the last lines are the end of the text, without its last line feed. -/
theorem suffix_lastLines_of_noReturn (n : Nat) {s : String} (h : '\r' ∉ s.toList) :
    ∃ front, withoutFinalFeed s = front ++ lastLines n s := by
  obtain ⟨shown, hshown, -, hlast⟩ := lastLines_eq n s
  rw [← (isLines_lines s).intercalate_eq h, hlast]
  exact exists_intercalate_eq_append "\n" hshown

end Suite.Text
