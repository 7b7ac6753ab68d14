import Mathlib.Data.List.Destutter
import Suite.Proofs.Launch.Requests

/-!
# The ids of a standalone launch

A standalone launch asks for the language jars and then for the jars of the launcher. Of these an id
is left out if it is the one directly before it (`dropRepeats`). One that comes again further behind
is asked for again. So the list has every id once only where equal ids stand together. A classpath
does not show the difference, since a walk goes past what it has met.

## Key results

- `dropRepeats_eq_destutter`: dropping repeats, as the library knows it
- `eraseDups_dropRepeats`: which ids there are, and which comes first, stays as it was
- `nodup_dropRepeats_iff`: every id is there once exactly if equal ones stand together
- `standaloneArtifacts_drop_neighbours`: the ids of a standalone launch
-/

namespace Suite

/-! ### Dropping repeats -/

/-- Dropping an id that equals the one before is what `List.destutter` does. -/
theorem dropRepeats_eq_destutter (xs : List String) : dropRepeats xs = xs.destutter (· ≠ ·) := by
  -- The cases are those of the recursion: a pair of neighbours is equal or not.
  induction xs using dropRepeats.induct with
  | case1 => rfl
  | case2 x => rfl
  | case3 x rest ih =>
    rw [dropRepeats, if_pos rfl, ih, List.destutter_cons_cons, if_neg (not_not.2 rfl),
      List.destutter_cons']
  | case4 x y rest hne ih =>
    rw [dropRepeats, if_neg hne, ih, List.destutter_cons_cons, if_pos hne, List.destutter_cons']

/-- Dropping the repeats before all other repetitions changes nothing. -/
theorem eraseDups_dropRepeats (xs : List String) : (dropRepeats xs).eraseDups = xs.eraseDups := by
  -- A repetition that is dropped beside its neighbour would be erased later anyway.
  induction xs using dropRepeats.induct with
  | case1 => rfl
  | case2 x => rfl
  | case3 x rest ih =>
    rw [dropRepeats, if_pos rfl, ih]
    simp [List.eraseDups_cons]
  | case4 x y rest hne ih =>
    rw [dropRepeats, if_neg hne, List.eraseDups_cons, List.eraseDups_filter, ih,
      ← List.eraseDups_filter, ← List.eraseDups_cons]

/-- No id gets lost. -/
private theorem mem_dropRepeats {xs : List String} {x : String} : x ∈ dropRepeats xs ↔ x ∈ xs := by
  rw [← List.mem_eraseDups, eraseDups_dropRepeats, List.mem_eraseDups]

/-- Repeats do not matter for what is found first. -/
theorem find?_dropRepeats (p : String → Bool) (xs : List String) :
    (dropRepeats xs).find? p = xs.find? p := by
  rw [← List.find?_eraseDups, eraseDups_dropRepeats, List.find?_eraseDups]

/-- Equal elements stand together: there is no other one between two of them. -/
def Together (xs : List String) : Prop := ∀ x other, [x, other, x].Sublist xs → other = x

/-- A repeat stands together with what it repeats. -/
private theorem together_cons_self {x : String} {rest : List String} :
    Together (x :: x :: rest) ↔ Together (x :: rest) := by
  constructor
  · exact fun h y other hsub => h y other (hsub.cons x)
  · intro h y other hsub
    rcases List.sublist_cons_iff.1 hsub with hsub | ⟨tail, heq, hsub⟩
    · exact h y other hsub
    · obtain ⟨rfl, rfl⟩ := List.cons.inj heq
      -- What is between the first element and an equal one behind is the repeat or behind it.
      rcases List.sublist_cons_iff.1 hsub with hsub | ⟨tail, heq, -⟩
      · exact h y other (hsub.cons_cons y)
      · exact (List.cons.inj heq).1

/-- An element that is followed by another one must not come again. -/
private theorem together_cons_of_ne {x y : String} {rest : List String} (hne : x ≠ y) :
    Together (x :: y :: rest) ↔ x ∉ y :: rest ∧ Together (y :: rest) := by
  constructor
  · intro h
    refine ⟨fun hmem => ?_, fun z other hsub => h z other (hsub.cons x)⟩
    -- A later copy of the first id would have the second one in between.
    have hrest : x ∈ rest := (List.mem_cons.1 hmem).resolve_left hne
    exact hne (h x y (((List.singleton_sublist.2 hrest).cons_cons y).cons_cons x)).symm
  · rintro ⟨hnotMem, h⟩ z other hsub
    rcases List.sublist_cons_iff.1 hsub with hsub | ⟨tail, heq, hsub⟩
    · exact h z other hsub
    · obtain ⟨rfl, rfl⟩ := List.cons.inj heq
      exact absurd (hsub.subset (by simp)) hnotMem

/-- Without repeats every element is there once exactly if equal ones stand together. -/
theorem nodup_dropRepeats_iff (xs : List String) : (dropRepeats xs).Nodup ↔ Together xs := by
  -- The first id of the list is gone for good once a different one follows it.
  induction xs using dropRepeats.induct with
  | case1 => exact iff_of_true List.nodup_nil fun x other hsub => nomatch hsub
  | case2 x =>
    refine iff_of_true (List.nodup_singleton x) fun y other hsub => ?_
    have hlength := hsub.length_le
    simp at hlength
  | case3 x rest ih => rw [dropRepeats, if_pos rfl, ih, together_cons_self]
  | case4 x y rest hne ih =>
    rw [dropRepeats, if_neg hne, List.nodup_cons, mem_dropRepeats, ih, together_cons_of_ne hne]

/-- All repetitions are dropped exactly if equal ids stand together. -/
private theorem dropRepeats_eq_eraseDups_iff (xs : List String) :
    dropRepeats xs = xs.eraseDups ↔ Together xs := by
  rw [← nodup_dropRepeats_iff]
  constructor
  · intro h
    rw [h]
    exact List.nodup_eraseDups xs
  · intro h
    rw [← eraseDups_dropRepeats, List.eraseDups_of_nodup h]

/-! ### Standalone launches -/

namespace Config

/-- The ids of a standalone launch are those of the language jars and then of the launcher's jars,
without those that are the same as the one directly before. So all of them are there, in the order
in which they come first, and each of them is there once exactly if equal ids stand together. The
classpath is that for all of them once. -/
theorem standaloneArtifacts_drop_neighbours (c : Config) :
    let ids := c.component.languageJars ++ c.component.launcher.jars
    c.standaloneArtifacts = ids.destutter (· ≠ ·) ∧
    (∀ id, id ∈ c.standaloneArtifacts ↔
      id ∈ c.component.languageJars ∨ id ∈ c.component.launcher.jars) ∧
    c.standaloneArtifacts.eraseDups = ids.eraseDups ∧
    (c.standaloneArtifacts = ids.eraseDups ↔
      ∀ id other, [id, other, id].Sublist ids → other = id) ∧
    ∀ root, c.classpath root c.standaloneArtifacts = c.classpath root ids.eraseDups := by
  intro ids
  have hfirst : c.standaloneArtifacts.eraseDups = ids.eraseDups := eraseDups_dropRepeats ids
  refine ⟨dropRepeats_eq_destutter ids, fun id => ?_, hfirst, dropRepeats_eq_eraseDups_iff ids,
    fun root => ?_⟩
  · rw [standaloneArtifacts, mem_dropRepeats, List.mem_append]
  -- The walk passes over an id that it has met, so only the first of several counts.
  · have hwalk : c.preorder c.standaloneArtifacts [] = c.preorder ids.eraseDups [] := by
      rw [← hfirst, preorder_eraseDups]
    exact classpath_congr hwalk

/-- A description whose launcher needs one of the language jars, but not the last. -/
def interleaved : Config where
  distributions := Keyed.ofList [("A", {}), ("B", {})]
  component := { defaultComponent with
    languageJars := ["A", "B"]
    launcher := { defaultComponent.launcher with jars := ["A"] } }

/-- An id that comes again behind another one is there twice. -/
theorem standaloneArtifacts_interleaved :
    interleaved.standaloneArtifacts = ["A", "B", "A"] ∧
      (interleaved.component.languageJars ++ interleaved.component.launcher.jars).eraseDups =
        ["A", "B"] ∧
      ¬ interleaved.standaloneArtifacts.Nodup :=
  ⟨by decide +kernel, by decide +kernel, by decide +kernel⟩

end Config

end Suite
