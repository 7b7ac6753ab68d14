import Suite.Proofs.Gate.Reports
import Suite.Proofs.Text.Entries

/-!
# Filters from lists of tags

The filter of a run is read from a list of tags. Put together, two lists give the union of their
filters, and a filter comes from some list exactly if each of its tags can stand in one. Whether a
task is selected does not follow the union as simply, since an empty filter selects every task: a
list without tags adds nothing to the other one, but selects everything alone.

## Key results

- `mem_parseTags_append_comma`: the filter of two lists put together
- `exists_parseTags_eq_iff`, `parseTags_intercalate`: which filters there are, and the lists for one
- `parseTags_unites_lists`: both, and what they say about the selection of tasks
-/

namespace Suite.Gate

open Text (Blank IsEntry Spells segments)

variable {σ : Type}

/-- The tags of a text are its entries. -/
private theorem mem_parseTags_iff {s tag : String} : tag ∈ parseTags s ↔ tag ∈ Text.entries s :=
  TextSet.mem_ofList_iff

/-- Two lists that are put together give the union of their filters. -/
theorem mem_parseTags_append_comma (s t tag : String) :
    tag ∈ parseTags (s ++ "," ++ t) ↔ tag ∈ parseTags s ∨ tag ∈ parseTags t := by
  rw [mem_parseTags_iff, mem_parseTags_iff, mem_parseTags_iff, Text.entries_append_comma,
    List.mem_append]

/-- Two lists with a comma between have a tag exactly if one of them has. -/
private theorem exists_mem_parseTags_append_comma {s t : String} :
    (∃ tag, tag ∈ parseTags (s ++ "," ++ t)) ↔
      (∃ tag, tag ∈ parseTags s) ∨ ∃ tag, tag ∈ parseTags t := by
  simp only [mem_parseTags_append_comma, exists_or]

/-- A list has tags exactly if one of its segments is not blank. -/
private theorem exists_mem_parseTags_iff {s : String} :
    (∃ tag, tag ∈ parseTags s) ↔ ∃ segment ∈ segments s, ¬ Blank segment := by
  simp only [mem_parseTags_iff, Text.mem_entries_iff]
  constructor
  · rintro ⟨_, segment, hmem, hblank, -⟩
    exact ⟨segment, hmem, hblank⟩
  · rintro ⟨segment, hmem, hblank⟩
    exact ⟨_, segment, hmem, hblank, rfl⟩

section Filters

variable {tags : TextSet}

/-- A filter is read from every text that spells its tags, in any order and any of them several
times. -/
theorem parseTags_intercalate {parts words : List String} (htags : ∀ tag ∈ tags, IsEntry tag)
    (hwords : ∀ tag, tag ∈ words ↔ tag ∈ tags) (hspells : Spells parts words) :
    parseTags (",".intercalate parts) = tags := by
  refine Keyed.ext_mem fun tag => ?_
  rw [mem_parseTags_iff,
    Text.entries_intercalate hspells fun word hword => htags word ((hwords word).1 hword)]
  exact hwords tag

/-- A filter is read from some text exactly if each of its tags can be an entry. -/
theorem exists_parseTags_eq_iff : (∃ s, parseTags s = tags) ↔ ∀ tag ∈ tags, IsEntry tag := by
  constructor
  · rintro ⟨s, rfl⟩ tag htag
    exact Text.isEntry_of_mem_entries (mem_parseTags_iff.1 htag)
  · intro htags
    exact ⟨_, parseTags_intercalate htags (fun _ => Iff.rfl) (Text.spells_self tags.toList)⟩

end Filters

/-! ### Tasks -/

/-- A task selected by one of two lists is selected by both together, and the other way round,
unless just one of the lists has no tags. -/
private theorem Task.appliesTo_append_comma_iff (t : Task σ) {s₁ s₂ : String}
    (h : (∃ tag, tag ∈ parseTags s₁) ↔ ∃ tag, tag ∈ parseTags s₂) :
    t.appliesTo (parseTags (s₁ ++ "," ++ s₂)) = true ↔
      t.appliesTo (parseTags s₁) = true ∨ t.appliesTo (parseTags s₂) = true := by
  have hmeets : (∃ tag ∈ parseTags (s₁ ++ "," ++ s₂), tag ∈ t.tags) ↔
      (∃ tag ∈ parseTags s₁, tag ∈ t.tags) ∨ ∃ tag ∈ parseTags s₂, tag ∈ t.tags := by
    simp only [mem_parseTags_append_comma, or_and_right, exists_or]
  rw [appliesTo_iff, appliesTo_iff, appliesTo_iff, exists_mem_parseTags_append_comma, hmeets, h,
    or_self]
  exact or_or_distrib_left

/-- A task without tags is selected only by filters without tags. -/
private theorem Task.appliesTo_iff_of_untagged {t : Task σ} (h : t.tags = Keyed.empty)
    (filter : TextSet) :
    t.appliesTo filter = true ↔ ¬ ∃ tag, tag ∈ filter := by
  have hnone : ¬ ∃ tag ∈ filter, tag ∈ t.tags := by
    rintro ⟨tag, -, htag⟩
    rw [h] at htag
    exact absurd htag List.not_mem_nil
  rw [appliesTo_iff, or_iff_left hnone]

/-- Two lists of tags that are put together give the union of their filters. A filter comes from
some list exactly if none of its tags is empty, has a comma or has a blank at either end; it then
comes from every list of its tags, in any order, with repetitions, blanks around them and blank
segments. Two lists together select the tasks that one of them selects, exactly if both have a tag
or none of them has one. -/
theorem parseTags_unites_lists :
    (∀ s t tag, tag ∈ parseTags (s ++ "," ++ t) ↔ tag ∈ parseTags s ∨ tag ∈ parseTags t) ∧
    (∀ tags : TextSet, (∃ s, parseTags s = tags) ↔ ∀ tag ∈ tags, IsEntry tag) ∧
    (∀ (tags : TextSet) parts words, (∀ tag ∈ tags, IsEntry tag) →
      (∀ tag, tag ∈ words ↔ tag ∈ tags) → Spells parts words →
      parseTags (",".intercalate parts) = tags) ∧
    ∀ s₁ s₂,
      (∀ t : Task σ, t.appliesTo (parseTags (s₁ ++ "," ++ s₂)) = true ↔
        t.appliesTo (parseTags s₁) = true ∨ t.appliesTo (parseTags s₂) = true) ↔
      ((∃ segment ∈ segments s₁, ¬ Blank segment) ↔ ∃ segment ∈ segments s₂, ¬ Blank segment) := by
  refine ⟨mem_parseTags_append_comma, fun tags => exists_parseTags_eq_iff,
    fun tags parts words htags hwords => parseTags_intercalate htags hwords, fun s₁ s₂ => ?_⟩
  rw [← exists_mem_parseTags_iff, ← exists_mem_parseTags_iff]
  constructor
  · intro h
    -- A task without tags tells the lists that have some from those that have none.
    let t : Task σ := ⟨"", Keyed.empty, fun s => (⟨.success, 0⟩, s)⟩
    have huntagged (filter : TextSet) : t.appliesTo filter = true ↔ ¬ ∃ tag, tag ∈ filter :=
      Task.appliesTo_iff_of_untagged rfl filter
    have hneither := h t
    rw [huntagged, huntagged, huntagged, exists_mem_parseTags_append_comma] at hneither
    constructor
    · intro h₁
      by_contra h₂
      exact hneither.2 (.inr h₂) (.inl h₁)
    · intro h₂
      by_contra h₁
      exact hneither.2 (.inl h₁) (.inr h₂)
  · exact fun h t => t.appliesTo_append_comma_iff h

/-- Tags are read between blanks, repeated or not. -/
theorem parseTags_unites_lists_spaced :
    let tags : TextSet := Keyed.ofList ["a", "b"]
    let parts := [" b\t", "\u00a0", "a", "b"]
    (∀ tag ∈ tags, IsEntry tag) ∧ (∀ tag, tag ∈ ["b", "a", "b"] ↔ tag ∈ tags) ∧
    Spells parts ["b", "a", "b"] ∧ parseTags (",".intercalate parts) = tags := by
  intro tags parts
  have hmem : ∀ tag, tag ∈ ["b", "a", "b"] ↔ tag ∈ tags := fun tag => by
    rw [TextSet.mem_ofList_iff]
    simp only [List.mem_cons, List.not_mem_nil, or_false]
    grind
  have hentries : ∀ tag ∈ tags, IsEntry tag := fun tag htag => by
    rw [← hmem] at htag
    simp only [List.mem_cons, List.not_mem_nil, or_false] at htag
    rcases htag with rfl | rfl | rfl <;> decide +kernel
  -- One part is blank, and blanks stand around another.
  have hspells : Spells parts ["b", "a", "b"] := by
    have hblanks : Blank " " ∧ Blank "\t" ∧ Blank "\u00a0" := by decide +kernel
    obtain ⟨hfront, hback, hbetween⟩ := hblanks
    exact .word "b" hfront hback (.blank hbetween (Text.spells_self ["a", "b"]))
  exact ⟨hentries, hmem, hspells,
    (@parseTags_unites_lists Unit).2.2.1 tags parts _ hentries hmem hspells⟩

-- Blanks alone select every task, but add nothing to a tag.
example :
    let t : Task Unit := ⟨"A", Keyed.ofList ["a"], fun s => (⟨.success, 0⟩, s)⟩
    t.appliesTo (parseTags " , ") = true ∧ t.appliesTo (parseTags " , ,b") = false := by
  decide +kernel

end Suite.Gate
