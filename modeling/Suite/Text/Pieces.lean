import Suite.Text.Blank

/-!
# Texts cut at a character

`pieces` cuts at every occurrence of a character, so a text of `n` separators has `n + 1` pieces.
Comma-separated lists (`entries`) and the lines of a program's output (`lines`) are read with it.
Texts that are given as bytes are cut at a byte in the same way.
-/

namespace Suite.Text

section Pieces

variable {α : Type} [DecidableEq α]

/-- The pieces of a text between the occurrences of `sep`. -/
def pieces (sep : α) : List α → List (List α)
  | [] => [[]]
  | c :: rest =>
    if c = sep then [] :: pieces sep rest
    else match pieces sep rest with
      | [] => [[c]]
      | piece :: more => (c :: piece) :: more

theorem pieces_ne_nil (sep : α) (s : List α) : pieces sep s ≠ [] := by
  cases s with
  | nil => simp [pieces]
  | cons c rest =>
    unfold pieces
    split
    · simp
    · split <;> simp

/-- The pieces joined by the separator are the text. -/
theorem intercalate_pieces (sep : α) (s : List α) :
    [sep].intercalate (pieces sep s) = s := by
  induction s with
  | nil => simp [pieces, List.intercalate]
  | cons c rest ih =>
    have hne := pieces_ne_nil sep rest
    unfold pieces
    split
    · rename_i h
      subst h
      cases hp : pieces c rest with
      | nil => exact absurd hp hne
      | cons p ps => simpa [List.intercalate, hp] using ih
    · cases hp : pieces sep rest with
      | nil => exact absurd hp hne
      | cons p ps =>
        cases ps with
        | nil => simp_all [List.intercalate]
        | cons q qs => simp_all [List.intercalate]

end Pieces

/-- The entries of a comma-separated list: its pieces, trimmed, without the blank ones. -/
def entries (s : String) : List String :=
  (((pieces ',' s.toList).map trimChars).filter (fun e => !e.isEmpty)).map String.ofList

/-- The text of `s` after the last `sep`, all of it if there is none. -/
def afterLast (sep : Char) (s : String) : String :=
  String.ofList ((pieces sep s.toList).getLast (pieces_ne_nil sep s.toList))

/-- The text of `s` before the last `sep`, if there is one. -/
def beforeLast? (sep : Char) (s : String) : Option String :=
  match (pieces sep s.toList).dropLast with
  | [] => none
  | init => some (String.ofList ([sep].intercalate init))

/-- The text without `front`, if it begins with it. -/
def withoutFront? (front s : String) : Option String :=
  if front.toList.isPrefixOf s.toList then some (String.ofList (s.toList.drop front.toList.length))
  else none

theorem withoutFront?_append (front s : String) : withoutFront? front (front ++ s) = some s := by
  simp [withoutFront?, String.toList_append]

/-- Nothing but the front is missing. -/
theorem withoutFront?_eq_some_iff {front s rest : String} :
    withoutFront? front s = some rest ↔ s = front ++ rest := by
  constructor
  · intro h
    unfold withoutFront? at h
    split at h
    · rename_i hfront
      obtain ⟨tail, htail⟩ := List.isPrefixOf_iff_prefix.1 hfront
      apply String.toList_inj.1
      rw [← Option.some.inj h, String.toList_append, ← htail]
      simp
    · cases h
  · rintro rfl
    exact withoutFront?_append front rest

/-- The text without `back`, if it ends with it. -/
def withoutEnd? (back s : String) : Option String :=
  if back.toList.isSuffixOf s.toList then
    some (String.ofList (s.toList.take (s.toList.length - back.toList.length)))
  else none

theorem withoutEnd?_append (s back : String) : withoutEnd? back (s ++ back) = some s := by
  have hback : back.toList.isSuffixOf (s ++ back).toList = true :=
    List.isSuffixOf_iff_suffix.2 ⟨s.toList, by simp⟩
  rw [withoutEnd?, if_pos hback]
  simp

/-- Nothing but the end is missing. -/
theorem withoutEnd?_eq_some_iff {back s rest : String} :
    withoutEnd? back s = some rest ↔ s = rest ++ back := by
  constructor
  · intro h
    unfold withoutEnd? at h
    split at h
    · rename_i hback
      obtain ⟨before, hbefore⟩ := List.isSuffixOf_iff_suffix.1 hback
      apply String.toList_inj.1
      rw [← Option.some.inj h, String.toList_append, ← hbefore]
      simp
    · cases h
  · rintro rfl
    exact withoutEnd?_append rest back

/-- A line without the carriage return at its end. -/
def dropReturn (line : List Char) : List Char :=
  if line.getLast? = some '\r' then line.dropLast else line

/-- The lines of a text: what stands before each line feed, less one carriage return directly
before it, and what stands after the last line feed unless that is empty. -/
def lines (s : String) : List String :=
  let ps := pieces '\n' s.toList
  let last := ps.getLast (pieces_ne_nil '\n' s.toList)
  (ps.dropLast.map dropReturn ++ if last.isEmpty then [] else [last]).map String.ofList

/-- The last `n` lines of a text, or all of them, joined by line feeds. -/
def lastLines (n : Nat) (s : String) : String :=
  let all := lines s
  "\n".intercalate (all.drop (all.length - n))

end Suite.Text
