import Mathlib.Data.List.DropRight
import Suite.Proofs.Text.Pieces

/-!
# Comma-separated lists

A text is read as a list by what stands between its commas: `entries` takes the blanks off these
segments and leaves out those of which nothing stays. `Spells` tells the same the other way round,
as a relation between segments and the words that they are written for. A list of words is read
from a text exactly if the text is one that spells it (`entries_eq_iff`), and only some words can be
spelled at all (`IsEntry`).

## Key results

- `trim_of_isEntry`: blanks around an entry are taken off, and nothing else
- `entries_append_comma`: lists that are put together
- `entries_intercalate`, `spells_entries`: what is spelled is read, and what is read is spelled
- `entries_eq_iff`: both in one
-/

namespace Suite.Text

/-- All characters of the text are blank, if it has any. -/
def Blank (s : String) : Prop := ∀ c ∈ s.toList, isBlank c = true

/-- A text that can be an entry: it is not empty, has no comma, and a blank neither in front nor at
its end. -/
structure IsEntry (word : String) : Prop where
  ne_empty : word ≠ ""
  noComma : ',' ∉ word.toList
  first : ∀ c ∈ word.toList.head?, isBlank c = false
  last : ∀ c ∈ word.toList.getLast?, isBlank c = false

instance (s : String) : Decidable (Blank s) :=
  decidable_of_iff (s.toList.all isBlank = true) List.all_eq_true

/-- The form in which it is decided whether a text can be an entry. -/
private theorem isEntry_iff {word : String} :
    IsEntry word ↔ word ≠ "" ∧ ',' ∉ word.toList ∧
      (word.toList.head?.all fun c => !isBlank c) = true ∧
      (word.toList.getLast?.all fun c => !isBlank c) = true := by
  simp only [Option.all_eq_true, Bool.not_eq_true']
  constructor
  · rintro ⟨hne, hcomma, hfirst, hlast⟩
    exact ⟨hne, hcomma, hfirst, hlast⟩
  · rintro ⟨hne, hcomma, hfirst, hlast⟩
    exact ⟨hne, hcomma, hfirst, hlast⟩

instance (word : String) : Decidable (IsEntry word) := decidable_of_iff' _ isEntry_iff

/-- What stands between the commas of a text. -/
def segments (s : String) : List String := (s.toList.splitOn ',').map String.ofList

/-- The segments spell the words: in their order there is one segment for each word, which may have
blanks around it, and all other segments are blank. -/
inductive Spells : List String → List String → Prop
  | nil : Spells [] []
  | blank {segment : String} {rest words : List String} (hblank : Blank segment)
      (hrest : Spells rest words) : Spells (segment :: rest) words
  | word {front back : String} {rest words : List String} (word : String) (hfront : Blank front)
      (hback : Blank back) (hrest : Spells rest words) :
      Spells ((front ++ word ++ back) :: rest) (word :: words)

/-! ### Trimming -/

/-- The empty text is blank. -/
theorem blank_empty : Blank "" := fun c hc => by simp at hc

/-- A comma is not blank. -/
private theorem Blank.noComma {s : String} (h : Blank s) : ',' ∉ s.toList := fun hmem => by
  have hcomma := h ',' hmem
  revert hcomma
  decide

/-- Trimming drops blanks in front and at the end. -/
private theorem trimChars_eq (s : List Char) :
    trimChars s = (s.dropWhile isBlank).rdropWhile isBlank := rfl

/-- Blanks around an entry are taken off, and nothing else. -/
theorem trim_of_isEntry {front word back : String} (hword : IsEntry word) (hfront : Blank front)
    (hback : Blank back) : trim (front ++ word ++ back) = word := by
  have hne : word.toList ≠ [] := fun h => hword.ne_empty (by simpa using h)
  obtain ⟨c, tail, hcons⟩ := List.exists_cons_of_ne_nil hne
  have hfirst : ¬ isBlank c = true := by
    simp [hword.first c (by simp [hcons])]
  have hlast : ¬ isBlank (word.toList.getLast hne) = true := by
    simp [hword.last _ (List.getLast_mem_getLast? hne)]
  -- The blanks in front go up to the first character of the word.
  have hleft : (front ++ word ++ back).toList.dropWhile isBlank = word.toList ++ back.toList := by
    rw [String.toList_append, String.toList_append, List.append_assoc,
      List.dropWhile_append_of_pos hfront, hcons, List.cons_append,
      List.dropWhile_cons_of_neg hfirst]
  -- From behind, those at the end go up to its last one.
  have hright : (word.toList ++ back.toList).rdropWhile isBlank = word.toList := by
    rw [List.rdropWhile, List.reverse_append,
      List.dropWhile_append_of_pos (by simpa [Blank] using hback)]
    exact List.rdropWhile_eq_self_iff.2 fun _ => hlast
  rw [trim, trimChars_eq, hleft, hright, String.ofList_toList]

/-- A text is its trimmed self with blanks around it. -/
private theorem exists_blanks (s : String) :
    ∃ front back, s = front ++ trim s ++ back ∧ Blank front ∧ Blank back := by
  refine ⟨String.ofList (s.toList.takeWhile isBlank),
    String.ofList ((s.toList.dropWhile isBlank).rtakeWhile isBlank), ?_, ?_, ?_⟩
  · apply String.toList_inj.1
    simp only [trim, trimChars_eq, String.toList_append, String.toList_ofList, List.append_assoc,
      List.rdropWhile_append_rtakeWhile, List.takeWhile_append_dropWhile]
  · intro c hc
    exact List.mem_takeWhile_imp (by simpa using hc)
  · intro c hc
    exact List.mem_rtakeWhile_imp (by simpa using hc)

/-- Nothing stays of a text exactly if it is blank. -/
theorem trim_eq_empty_iff {s : String} : trim s = "" ↔ Blank s := by
  constructor
  · intro h
    -- If nothing is left, the text is made of the blanks that were trimmed off.
    obtain ⟨front, back, hs, hfront, hback⟩ := exists_blanks s
    intro c hc
    rw [hs, h] at hc
    simp only [String.append_empty, String.toList_append, List.mem_append] at hc
    exact hc.elim (hfront c) (hback c)
  · intro h
    have hnil : s.toList.dropWhile isBlank = [] := List.dropWhile_eq_nil_iff.2 h
    rw [trim, trimChars_eq, hnil]
    rfl

/-- What stays of a text without commas can be an entry. -/
private theorem isEntry_trim {s : String} (hcomma : ',' ∉ s.toList) (hblank : ¬ Blank s) :
    IsEntry (trim s) where
  ne_empty h := hblank (trim_eq_empty_iff.1 h)
  noComma hmem := by
    obtain ⟨front, back, hs, -, -⟩ := exists_blanks s
    rw [hs] at hcomma
    simp [hmem] at hcomma
  first c hc := by
    -- Trimming at the end takes nothing from the front.
    have hprefix : (trim s).toList <+: s.toList.dropWhile isBlank := by
      rw [trim, trimChars_eq, String.toList_ofList]
      exact List.rdropWhile_prefix isBlank _
    have hhead : c ∈ (s.toList.dropWhile isBlank).head? := by
      obtain ⟨rest, hrest⟩ := hprefix
      rw [← hrest, List.head?_append]
      simp [Option.mem_def.1 hc]
    have hnot := List.head?_dropWhile_not isBlank s.toList
    simpa only [Option.mem_def.1 hhead] using hnot
  last c hc := by
    rw [trim, trimChars_eq, String.toList_ofList] at hc
    -- Trimming stops at the last sign that is not blank.
    obtain ⟨hne, hlast⟩ := List.mem_getLast?_eq_getLast hc
    have hnot := List.rdropWhile_last_not isBlank (s.toList.dropWhile isBlank) hne
    rw [← hlast] at hnot
    simpa using hnot

/-! ### Segments -/

/-- Segments are the pieces between commas. -/
private theorem segments_eq (s : String) :
    segments s = (pieces ',' s.toList).map String.ofList := by
  rw [segments, pieces_eq_splitOn]

/-- A segment has no comma. -/
private theorem noComma_of_mem_segments {s segment : String} (h : segment ∈ segments s) :
    ',' ∉ segment.toList := by
  rw [segments_eq] at h
  obtain ⟨piece, hpiece, rfl⟩ := List.mem_map.1 h
  rw [String.toList_ofList]
  exact notMem_of_mem_pieces hpiece

/-- The segments joined by commas are the text. -/
private theorem intercalate_segments (s : String) : ",".intercalate (segments s) = s := by
  apply String.toList_inj.1
  rw [String.toList_intercalate, segments_eq, List.map_map]
  simp [Function.comp_def, intercalate_pieces]

/-- Texts without commas are found again between the commas that join them. -/
private theorem segments_intercalate {parts : List String} (hne : parts ≠ [])
    (hcomma : ∀ part ∈ parts, ',' ∉ part.toList) : segments (",".intercalate parts) = parts := by
  have hpieces : pieces ',' (",".intercalate parts).toList = parts.map String.toList := by
    rw [String.toList_intercalate]
    exact (pieces_intercalate_iff (by simpa using hne)).2 (by simpa using hcomma)
  rw [segments_eq, hpieces, List.map_map]
  simp [Function.comp_def]

/-- The segments of two texts with a comma between them are those of the one and of the other. -/
private theorem segments_append_comma (s t : String) :
    segments (s ++ "," ++ t) = segments s ++ segments t := by
  have hpieces := pieces_append_cons ',' s.toList t.toList
  rw [segments_eq, segments_eq, segments_eq, ← List.map_append, ← hpieces]
  simp [String.toList_append]

/-! ### Entries -/

/-- The entries are the trimmed segments, without those of which nothing stays. -/
theorem entries_eq (s : String) :
    entries s = ((segments s).map trim).filter (· ≠ "") := by
  have hkept : ((fun e : List Char => !e.isEmpty) ∘ trimChars) =
      (fun e => decide (e ≠ "")) ∘ trim ∘ String.ofList := by
    funext piece
    cases h : trimChars piece <;> simp [trim, h]
  rw [entries, segments_eq, List.map_map, List.filter_map, List.filter_map, List.map_map, hkept]
  simp [trim, Function.comp_def]

/-- The entries of two texts with a comma between them are those of the one and of the other. -/
theorem entries_append_comma (s t : String) : entries (s ++ "," ++ t) = entries s ++ entries t := by
  rw [entries_eq, entries_eq, entries_eq, segments_append_comma, List.map_append,
    List.filter_append]

/-- Entries are the trimmed segments that are not blank. -/
theorem mem_entries_iff {s word : String} :
    word ∈ entries s ↔ ∃ segment ∈ segments s, ¬ Blank segment ∧ word = trim segment := by
  rw [entries_eq, List.mem_filter, List.mem_map]
  constructor
  · rintro ⟨⟨segment, hmem, rfl⟩, hne⟩
    exact ⟨segment, hmem, fun h => by simp [trim_eq_empty_iff.2 h] at hne, rfl⟩
  · rintro ⟨segment, hmem, hblank, rfl⟩
    exact ⟨⟨segment, hmem, rfl⟩, by simpa [trim_eq_empty_iff] using hblank⟩

/-- An entry is a text that can be written between commas. -/
theorem isEntry_of_mem_entries {s word : String} (h : word ∈ entries s) : IsEntry word := by
  obtain ⟨segment, hmem, hblank, rfl⟩ := mem_entries_iff.1 h
  exact isEntry_trim (noComma_of_mem_segments hmem) hblank

/-! ### Spelling -/

/-- Segments spell their trimmed texts, but for those that are blank. -/
private theorem spells_map_trim (segments : List String) :
    Spells segments ((segments.map trim).filter (· ≠ "")) := by
  induction segments with
  | nil => exact .nil
  | cons segment rest ih =>
    by_cases h : trim segment = ""
    · rw [List.map_cons, List.filter_cons_of_neg (by simpa using h)]
      exact .blank (trim_eq_empty_iff.1 h) ih
    · -- What was trimmed off are the blanks around the word.
      obtain ⟨front, back, hsegment, hfront, hback⟩ := exists_blanks segment
      rw [List.map_cons, List.filter_cons_of_pos (by simpa using h)]
      have hspells := Spells.word (trim segment) hfront hback ih
      rwa [← hsegment] at hspells

/-- The segments of a text spell what is read from it. -/
theorem spells_entries (s : String) : Spells (segments s) (entries s) :=
  entries_eq s ▸ spells_map_trim (segments s)

variable {parts words : List String}

/-- Trimming the segments that spell entries leaves the entries. -/
private theorem Spells.filter_map_trim (h : Spells parts words)
    (hwords : ∀ word ∈ words, IsEntry word) :
    (parts.map trim).filter (· ≠ "") = words := by
  -- By induction on the spelling: blank parts are dropped, and a word is what its part is trimmed
  -- to.
  induction h with
  | nil => rfl
  | blank hblank _ ih =>
    rw [List.map_cons, List.filter_cons_of_neg (by simpa using trim_eq_empty_iff.2 hblank)]
    exact ih hwords
  | word word hfront hback _ ih =>
    obtain ⟨hword, hrest⟩ := List.forall_mem_cons.1 hwords
    have htrim := trim_of_isEntry hword hfront hback
    rw [List.map_cons, htrim, List.filter_cons_of_pos (by simpa using hword.ne_empty), ih hrest]

/-- No comma comes in with the blanks. -/
private theorem Spells.noComma (h : Spells parts words) (hwords : ∀ word ∈ words, IsEntry word) :
    ∀ part ∈ parts, ',' ∉ part.toList := by
  -- By induction on the spelling: neither the blanks nor a word have a comma.
  induction h with
  | nil => exact fun part hpart => absurd hpart List.not_mem_nil
  | blank hblank _ ih => exact List.forall_mem_cons.2 ⟨hblank.noComma, ih hwords⟩
  | word word hfront hback _ ih =>
    obtain ⟨hword, hrest⟩ := List.forall_mem_cons.1 hwords
    refine List.forall_mem_cons.2 ⟨?_, ih hrest⟩
    simp [String.toList_append, hfront.noComma, hback.noComma, hword.noComma]

/-- Entries are read from any text that spells them. -/
theorem entries_intercalate (h : Spells parts words) (hwords : ∀ word ∈ words, IsEntry word) :
    entries (",".intercalate parts) = words := by
  -- No segments at all are joined to the empty text, which has one blank segment.
  by_cases hne : parts = []
  · subst hne
    cases h
    rfl
  · rw [entries_eq, segments_intercalate hne (h.noComma hwords), h.filter_map_trim hwords]

/-- Words are read from a text exactly if each of them can be an entry and the text spells them. -/
theorem entries_eq_iff {s : String} {words : List String} :
    entries s = words ↔
      (∀ word ∈ words, IsEntry word) ∧ ∃ parts, s = ",".intercalate parts ∧ Spells parts words := by
  constructor
  · rintro rfl
    exact ⟨fun word => isEntry_of_mem_entries, segments s, (intercalate_segments s).symm,
      spells_entries s⟩
  · rintro ⟨hwords, parts, rfl, hspells⟩
    exact entries_intercalate hspells hwords

/-- Words joined as they are spell themselves. -/
theorem spells_self (words : List String) : Spells words words := by
  induction words with
  | nil => exact .nil
  | cons word rest ih =>
    have hspells := Spells.word word blank_empty blank_empty ih
    rwa [String.empty_append, String.append_empty] at hspells

end Suite.Text
