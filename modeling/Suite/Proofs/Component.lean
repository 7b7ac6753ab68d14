import Suite.Cli.Run
import Suite.Proofs.Failing
import Suite.Proofs.Text.Entries

/-!
# Lists of components

A list of components is read from the ids between the commas of a text. It fails at the first
segment that is neither blank nor an id, and otherwise holds the component of every segment that is
not blank. The ids of components, as a profile is shown with them, are read as these components,
however they are spaced and whatever blank segments stand between them.

## Key results

- `parseList_eq_ok_iff`, `parseList_eq_error_iff`: what is read of a text
- `parseList_append_comma`: lists that are put together
- `parseList_reads_ids`: all of it, with the ids of any components read back
-/

namespace Suite.Component

open Text (IsEntry Spells segments trim)

/-- Something stays of the segment once it is trimmed, but it is no id. -/
def IsUnknown (segment : String) : Prop := trim segment ≠ "" ∧ ∀ c : Component, c.id ≠ trim segment

/-! ### Ids -/

/-- An id stands for the component that has it. -/
theorem ofId_eq_ok_iff {s : String} {c : Component} : ofId s = .ok c ↔ c.id = s := by
  rw [ofId]
  constructor
  · intro h
    cases hid : ofId? s with
    | none => simp [hid] at h
    | some d =>
      obtain rfl : d = c := by simpa [hid] using h
      exact id_of_ofId? hid
  · rintro rfl
    rw [ofId?_id]

/-- Exactly the texts that are the id of no component are unknown. -/
theorem ofId_eq_error_iff {s : String} {e : Error} :
    ofId s = .error e ↔ (∀ c : Component, c.id ≠ s) ∧ e = .unknownComponent s := by
  rw [ofId]
  cases hid : ofId? s with
  | none =>
    have hno : ∀ c : Component, c.id ≠ s := by
      rintro c rfl
      rw [ofId?_id] at hid
      cases hid
    simp [hno, eq_comm]
  | some d => simpa using fun hno => absurd (id_of_ofId? hid) (hno d)

/-- No id loses anything by being trimmed, or is cut at a comma. -/
theorem isEntry_id (c : Component) : IsEntry c.id := by
  cases c <;> decide +kernel

/-! ### Lists -/

/-- Texts stand for components exactly if they are the ids of these. -/
theorem mapM_ofId_eq_ok_iff {words : List String} {cs : List Component} :
    words.mapM ofId = .ok cs ↔ cs.map id = words := by
  -- By induction on the words: each of them is read by itself.
  induction words generalizing cs with
  | nil => simp [pure, Except.pure, eq_comm]
  | cons word rest ih =>
    rw [List.mapM_cons, Except.bind_eq_ok_iff]
    simp only [ofId_eq_ok_iff, Except.bind_eq_ok_iff, ih]
    constructor
    · rintro ⟨c, rfl, ds, rfl, hcs⟩
      obtain rfl := Except.ok.inj hcs
      rfl
    · intro hcs
      obtain ⟨c, ds, rfl, hc, hds⟩ := List.map_eq_cons_iff.1 hcs
      exact ⟨c, hc, ds, hds, rfl⟩

/-- The components that are read are those with the ids in the text. -/
theorem parseList_eq_ok_iff {s : String} {cs : List Component} :
    parseList s = .ok cs ↔ cs.map id = Text.entries s := mapM_ofId_eq_ok_iff

/-- The error is about the first segment that is neither blank nor an id. -/
theorem parseList_eq_error_iff {s : String} {e : Error} :
    parseList s = .error e ↔
      ∃ before segment after, segments s = before ++ segment :: after ∧
        (∀ other ∈ before, ¬ IsUnknown other) ∧ IsUnknown segment ∧
        e = .unknownComponent (trim segment) := by
  have hparse : parseList s =
      ((segments s).filter fun segment => trim segment ≠ "").mapM (ofId ∘ trim) := by
    rw [parseList, Text.entries_eq, List.filter_map, List.mapM_map]
    rfl
  -- An entry that makes no error is one for which there is a component.
  have hknown (other : String) :
      (trim other ≠ "" → ∃ c, ofId (trim other) = .ok c) ↔ ¬ IsUnknown other := by
    simp only [IsUnknown, not_and, not_forall, not_not, ofId_eq_ok_iff]
  rw [hparse, Except.mapM_filter_eq_error_iff]
  simp only [Function.comp_apply, decide_eq_true_eq, hknown, ofId_eq_error_iff, IsUnknown,
    and_assoc]

/-- Of two lists that are put together, the first one to fail counts. -/
theorem parseList_append_comma (s t : String) :
    parseList (s ++ "," ++ t) = do
      let cs ← parseList s
      let ds ← parseList t
      return cs ++ ds := by
  rw [parseList, Text.entries_append_comma, List.mapM_append]
  rfl

/-- Ids are read as the components that have them, whatever blanks and blank segments there are. -/
theorem parseList_intercalate {parts : List String} {cs : List Component}
    (h : Spells parts (cs.map id)) : parseList (",".intercalate parts) = .ok cs := by
  have hwords : ∀ word ∈ cs.map id, IsEntry word :=
    List.forall_mem_map.2 fun c _ => isEntry_id c
  rw [parseList_eq_ok_iff, Text.entries_intercalate h hwords]

/-- Reading a list fails exactly if some segment is neither blank nor an id, and the error names the
first one; otherwise the list has the component of every other segment, in their order and with
repetitions. The ids of any components are read as these components, however they are spaced and
whatever blank segments stand between them, and so are those that a profile is shown with. Of two
lists that are put together, the first one to fail counts. -/
theorem parseList_reads_ids :
    (∀ s, (∃ e, parseList s = .error e) ↔ ∃ segment ∈ segments s, IsUnknown segment) ∧
    (∀ s e, parseList s = .error e ↔
      ∃ before segment after, segments s = before ++ segment :: after ∧
        (∀ other ∈ before, ¬ IsUnknown other) ∧ IsUnknown segment ∧
        e = .unknownComponent (trim segment)) ∧
    (∀ s cs, parseList s = .ok cs ↔ cs.map id = ((segments s).map trim).filter (· ≠ "")) ∧
    (∀ cs parts, Spells parts (cs.map id) → parseList (",".intercalate parts) = .ok cs) ∧
    (∀ p : Profile, ∃ shown, parseList shown = .ok p.components ∧
      Cli.profileText p = Cli.lineTexts
        ["Profile: " ++ p.name, "Components: " ++ shown, "Env file: " ++ p.envFile]) ∧
    ∀ s t, parseList (s ++ "," ++ t) = do
      let cs ← parseList s
      let ds ← parseList t
      return cs ++ ds := by
  refine ⟨fun s => ?_, fun s e => parseList_eq_error_iff, fun s cs => ?_,
    fun cs parts => parseList_intercalate, fun p => ?_, parseList_append_comma⟩
  · constructor
    · rintro ⟨e, he⟩
      obtain ⟨before, segment, after, hs, -, hunknown, -⟩ := parseList_eq_error_iff.1 he
      exact ⟨segment, by simp [hs], hunknown⟩
    · rintro ⟨segment, hmem, hne, hno⟩
      cases hs : parseList s with
      | error e => exact ⟨e, rfl⟩
      | ok cs =>
        -- If nothing failed, every segment that is not blank would be an id.
        have hentry : trim segment ∈ Text.entries s :=
          Text.mem_entries_iff.2 ⟨segment, hmem, fun h => hne (Text.trim_eq_empty_iff.2 h), rfl⟩
        rw [← parseList_eq_ok_iff.1 hs] at hentry
        obtain ⟨c, -, hc⟩ := List.mem_map.1 hentry
        exact absurd hc (hno c)
  · rw [parseList_eq_ok_iff, Text.entries_eq]
  · exact ⟨",".intercalate (p.components.map id), parseList_intercalate (Text.spells_self _), rfl⟩

/-- Ids are read between blanks and empty segments. -/
theorem parseList_reads_ids_spaced :
    let parts := [" tfl", "", "java\u00a0", "tfl"]
    Spells parts ([.truffle, .java, .truffle].map id) ∧
    parseList (",".intercalate parts) = .ok [.truffle, .java, .truffle] := by
  intro parts
  have hblanks : Text.Blank " " ∧ Text.Blank "\u00a0" := by decide +kernel
  have hspells : Spells parts ([.truffle, .java, .truffle].map id) :=
    .word "tfl" hblanks.1 Text.blank_empty (.blank Text.blank_empty
      (.word "java" Text.blank_empty hblanks.2 (Text.spells_self ["tfl"])))
  exact ⟨hspells, parseList_reads_ids.2.2.2.1 _ parts hspells⟩

end Suite.Component
