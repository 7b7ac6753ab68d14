import Suite.Text.Pieces

/-!
# Cutting texts and joining them

`Text.pieces` cuts a text where `List.splitOn` cuts the list of its characters, so the laws of the
library about splitting are laws about pieces.

## Key results

- `pieces_append_cons`: a separator ends a piece, whatever stands around it
- `pieces_rewritten`: what keeps the separators can be done piece by piece
- `head?_eq_some_iff`: the texts that begin with the separator
- `pieces_intercalate_iff`: joined parts are found again exactly if none holds the separator
- `afterLast_append`: what stands before some separator does not count for the last piece
- `exists_cut`, `beforeLast?_append`: the last separator, and what stands before it
-/

namespace Suite.Text

section Pieces

variable {α : Type} [DecidableEq α] {sep : α}

/-- The pieces are those of the library. -/
theorem pieces_eq_splitOn (sep : α) (s : List α) : pieces sep s = s.splitOn sep := by
  induction s with
  | nil => rfl
  | cons c rest ih =>
    rw [pieces, List.splitOn_cons_eq_if_modifyHead, ← ih]
    by_cases h : c = sep
    · rw [if_pos h, if_pos (by simpa using h)]
    · rw [if_neg h, if_neg (by simpa using h)]
      -- There is a first piece always, so the next sign can be put in front of it.
      cases hp : pieces sep rest with
      | nil => exact absurd hp (pieces_ne_nil sep rest)
      | cons piece more => rfl

/-- A separator ends a piece, and the next one begins behind it. -/
theorem pieces_append_cons (sep : α) (a b : List α) :
    pieces sep (a ++ sep :: b) = pieces sep a ++ pieces sep b := by
  simp only [pieces_eq_splitOn, List.splitOn_append_cons_self]

/-- No piece holds the separator. -/
theorem notMem_of_mem_pieces {s piece : List α} (h : piece ∈ pieces sep s) : sep ∉ piece := by
  -- By induction on the list: a separator ends a piece, and any other sign goes on with the first.
  induction s generalizing piece with
  | nil =>
    obtain rfl : piece = [] := by simpa [pieces] using h
    exact List.not_mem_nil
  | cons c rest ih =>
    unfold pieces at h
    split at h
    · rcases List.mem_cons.1 h with rfl | h
      · exact List.not_mem_nil
      · exact ih h
    · rename_i hne
      cases hp : pieces sep rest with
      | nil => exact absurd hp (pieces_ne_nil sep rest)
      | cons first more =>
        rw [hp] at h ih
        rcases List.mem_cons.1 h with rfl | h
        · -- The first piece goes on with a character that is no separator.
          intro hmem
          rcases List.mem_cons.1 hmem with heq | hmem
          · exact hne heq.symm
          · exact ih List.mem_cons_self hmem
        · exact ih (List.mem_cons_of_mem first h)

/-- Parts that are joined by a separator are the pieces of the joined text exactly if none of them
holds the separator. -/
theorem pieces_intercalate_iff {parts : List (List α)} (hne : parts ≠ []) :
    pieces sep ([sep].intercalate parts) = parts ↔ ∀ part ∈ parts, sep ∉ part := by
  constructor
  · intro h part hpart
    rw [← h] at hpart
    exact notMem_of_mem_pieces hpart
  · intro h
    rw [pieces_eq_splitOn]
    exact List.splitOn_intercalate sep h hne

/-- A text without the separator is its only piece. -/
theorem pieces_of_notMem {s : List α} (h : sep ∉ s) : pieces sep s = [s] := by
  rw [pieces_eq_splitOn, List.splitOn_eq_singleton h]

/-- A text is rewritten piece by piece if rewriting keeps the separators where they are. -/
theorem pieces_rewritten {β : Type} [DecidableEq β] {sep' : β} {f : List α → List β}
    (hmem : ∀ s, sep' ∈ f s ↔ sep ∈ s)
    (hcut : ∀ front back, f (front ++ sep :: back) = f front ++ sep' :: f back) (s : List α) :
    pieces sep' (f s) = (pieces sep s).map f := by
  by_cases h : sep ∈ s
  · -- Up to the first separator stands one piece; behind it the text is shorter.
    obtain ⟨front, back, rfl, hfront⟩ := List.eq_append_cons_of_mem h
    have hback := pieces_rewritten hmem hcut back
    have hfront' : sep' ∉ f front := fun h' => hfront ((hmem front).1 h')
    rw [hcut, pieces_append_cons, pieces_append_cons, hback, List.map_append,
      pieces_of_notMem hfront, pieces_of_notMem hfront', List.map_singleton]
  · have h' : sep' ∉ f s := fun h' => h ((hmem s).1 h')
    rw [pieces_of_notMem h, pieces_of_notMem h', List.map_singleton]
  termination_by s.length

/-- A text begins with the separator exactly if its first piece is empty and not the only one. -/
theorem head?_eq_some_iff {s : List α} :
    s.head? = some sep ↔ ∃ rest, rest ≠ [] ∧ pieces sep s = [] :: rest := by
  cases s with
  | nil => simp [pieces]
  | cons c rest =>
    by_cases hc : c = sep
    · simp [pieces, hc, pieces_ne_nil]
    · cases hp : pieces sep rest <;> simp [pieces, hc, hp]

end Pieces

variable {sep : Char}

/-- The text after the last separator is all that counts of the text after any separator. -/
theorem afterLast_append (sep : Char) (front s : String) :
    afterLast sep (front ++ String.singleton sep ++ s) = afterLast sep s := by
  have hpieces : pieces sep (front ++ String.singleton sep ++ s).toList =
      pieces sep front.toList ++ pieces sep s.toList := by
    simpa [String.toList_append] using pieces_append_cons sep front.toList s.toList
  simp only [afterLast, hpieces]
  rw [List.getLast_append_of_ne_nil _ (pieces_ne_nil sep s.toList)]

/-- What stands after the last separator holds none. -/
theorem notMem_afterLast (sep : Char) (s : String) : sep ∉ (afterLast sep s).toList := by
  rw [afterLast, String.toList_ofList]
  exact notMem_of_mem_pieces (List.getLast_mem _)

/-! ### The last separator -/

/-- A text with a separator in it has a last one. -/
theorem exists_cut {s : String} (h : sep ∈ s.toList) :
    ∃ front back, s = front ++ String.singleton sep ++ back ∧ sep ∉ back.toList := by
  -- The last separator is the first one from behind.
  obtain ⟨behind, before, hreverse, hbehind⟩ :=
    List.eq_append_cons_of_mem (List.mem_reverse.2 h)
  refine ⟨String.ofList before.reverse, String.ofList behind.reverse, ?_, by simpa using hbehind⟩
  apply String.toList_inj.1
  rw [← List.reverse_reverse s.toList, hreverse]
  simp [String.toList_append]

/-- A text without the separator is what stands after the last one. -/
theorem afterLast_of_notMem {s : String} (h : sep ∉ s.toList) : afterLast sep s = s := by
  simp [afterLast, pieces_of_notMem h]

/-- Nothing stands before a separator that is not there. -/
theorem beforeLast?_of_notMem {s : String} (h : sep ∉ s.toList) : beforeLast? sep s = none := by
  simp [beforeLast?, pieces_of_notMem h]

/-- What stands before the last separator is all of it, with the separators in it. -/
theorem beforeLast?_append (front : String) {back : String} (h : sep ∉ back.toList) :
    beforeLast? sep (front ++ String.singleton sep ++ back) = some front := by
  have hpieces : pieces sep (front ++ String.singleton sep ++ back).toList =
      pieces sep front.toList ++ [back.toList] := by
    rw [← pieces_of_notMem h]
    simpa [String.toList_append] using pieces_append_cons sep front.toList back.toList
  have hne := pieces_ne_nil sep front.toList
  rw [beforeLast?, hpieces, List.dropLast_concat]
  split
  · contradiction
  · rw [intercalate_pieces, String.ofList_toList]

end Suite.Text
