import Mathlib.Data.Set.Finite.List
import Mathlib.Logic.Relation
import Suite.Proofs.Launch.Aliases
import Suite.Proofs.Repetitions

/-!
# Walks without a memory

Where no distribution depends on itself, a walk that does not remember what it has met comes to an
end too. `Config.Unfolds` lists the ids on such a walk, each as often as it is met. The walk that
skips what it has met lists them once, where they come first, and since repeated jars are dropped
anyway, both have the same classpath. So the memory of a walk, which tells the spellings of an id
apart, does not show.

## Key results

- `exists_unfolds`: without cycles there is a walk without a memory from everywhere
- `preorder_eq_of_unfolds`: what is left of it when repetitions are dropped
- `classpath_of_unfolds`: the classpath, or the error, read off the walk without a memory
-/

namespace Suite

namespace Config

variable {c : Config} {root : Path}

/-- The distribution of the one id depends directly on that of the other, whatever spelling is used
for it. -/
def DependsOn (c : Config) (a b : String) : Prop := ∃ dep ∈ c.needs a, c.SameId dep b

/-- No distribution depends on itself, neither directly nor by way of others. -/
def Acyclic (c : Config) : Prop := ∀ id, ¬ Relation.TransGen c.DependsOn id id

/-- The second list has the ids met on a walk without a memory along the first: with every id all
that it leads to is met again. -/
inductive Unfolds (c : Config) : List String → List String → Prop
  | nil : Unfolds c [] []
  | cons {id : String} {rest below behind : List String} (hbelow : Unfolds c (c.needs id) below)
      (hbehind : Unfolds c rest behind) : Unfolds c (id :: rest) (id :: (below ++ behind))

/-! ### Existence -/

/-- What an id needs it depends on. -/
private theorem dependsOn_of_mem_needs {id dep : String} (h : dep ∈ c.needs id) :
    c.DependsOn id dep :=
  ⟨dep, h, .refl dep⟩

/-- Only an id that stands for a distribution needs anything. -/
private theorem mem_spellings_of_mem_needs {id dep : String} (h : dep ∈ c.needs id) :
    id ∈ c.spellings := by
  obtain ⟨d, hd, -⟩ := mem_needs.1 h
  exact mem_spellings hd

/-- Without cycles every path along dependencies comes to an end. -/
private theorem Acyclic.wellFounded (h : c.Acyclic) :
    WellFounded fun dep id => dep ∈ c.needs id := by
  -- Only finitely many ids need anything, so that a path with no end would come back to one.
  let further (b a : { id // id ∈ c.spellings }) : Prop := Relation.TransGen c.DependsOn a b
  have : Finite { id // id ∈ c.spellings } := (List.finite_toSet c.spellings).to_subtype
  have : IsTrans _ further := ⟨fun _ _ _ hab hbc => Relation.TransGen.trans hbc hab⟩
  have : Std.Irrefl further := ⟨fun id => h id⟩
  have hwf : WellFounded further := Finite.wellFounded_of_trans_of_irrefl further
  have hleaf (id : String) (hid : id ∉ c.spellings) : Acc (fun dep id => dep ∈ c.needs id) id :=
    Acc.intro id fun dep hdep => absurd (mem_spellings_of_mem_needs hdep) hid
  have hspelling (a : { id // id ∈ c.spellings }) :
      Acc (fun dep id => dep ∈ c.needs id) a.val := by
    induction a using hwf.induction with
    | _ a ih =>
      refine Acc.intro a.val fun dep hdep => ?_
      by_cases hspelled : dep ∈ c.spellings
      · exact ih ⟨dep, hspelled⟩ (.single (dependsOn_of_mem_needs hdep))
      · exact hleaf dep hspelled
  refine ⟨fun id => ?_⟩
  by_cases hid : id ∈ c.spellings
  · exact hspelling ⟨id, hid⟩
  · exact hleaf id hid

/-- Walks without a memory from each of some ids make up one along all of them. -/
private theorem exists_unfolds_of_forall {ids : List String}
    (h : ∀ id ∈ ids, ∃ below, c.Unfolds (c.needs id) below) : ∃ all, c.Unfolds ids all := by
  induction ids with
  | nil => exact ⟨[], .nil⟩
  | cons id rest ih =>
    obtain ⟨below, hbelow⟩ := h id List.mem_cons_self
    obtain ⟨behind, hbehind⟩ := ih fun x hx => h x (List.mem_cons_of_mem id hx)
    exact ⟨_, .cons hbelow hbehind⟩

/-- Without cycles there is a walk without a memory along any ids. -/
theorem exists_unfolds (h : c.Acyclic) (ids : List String) : ∃ all, c.Unfolds ids all := by
  -- Without cycles needing is well founded, and what an id needs unfolds before it does.
  have hbelow (id : String) : ∃ below, c.Unfolds (c.needs id) below := by
    induction id using h.wellFounded.induction with
    | _ id ih => exact exists_unfolds_of_forall ih
  exact exists_unfolds_of_forall fun id _ => hbelow id

/-! ### What is met -/

/-- A walk without a memory meets what its ids lead to. -/
theorem Unfolds.reached {ids all : List String} (h : c.Unfolds ids all) {id : String}
    (hid : id ∈ all) : c.Reached ids id := by
  -- By induction on the unfolding: an id is the head, below the head or behind it.
  induction h with
  | nil => cases hid
  | @cons x rest below behind _ _ ihbelow ihbehind =>
    rcases List.mem_cons.1 hid with rfl | hid
    · exact .start List.mem_cons_self
    rcases List.mem_append.1 hid with hid | hid
    · exact (ihbelow hid).trans fun y hy => Reached.needs (.start List.mem_cons_self) hy
    · exact (ihbehind hid).trans fun y hy => .start (List.mem_cons_of_mem x hy)

/-- An unfolding begins with the ids that are unfolded. -/
private theorem Unfolds.mem_of_mem {ids all : List String} (h : c.Unfolds ids all) {id : String}
    (hid : id ∈ ids) : id ∈ all := by
  induction h with
  | nil => cases hid
  | @cons x rest below behind _ _ _ ihbehind =>
    rcases List.mem_cons.1 hid with rfl | hid
    · exact List.mem_cons_self
    · exact List.mem_cons_of_mem x (List.mem_append_right below (ihbehind hid))

/-- What an id on a walk without a memory needs is on it too. -/
private theorem Unfolds.mem_of_mem_needs {ids all : List String} (h : c.Unfolds ids all)
    {id dep : String}
    (hid : id ∈ all) (hdep : dep ∈ c.needs id) : dep ∈ all := by
  -- By induction on the unfolding: below the head stands all that it needs.
  induction h with
  | nil => cases hid
  | @cons x rest below behind hbelow _ ihbelow ihbehind =>
    refine List.mem_cons_of_mem x (List.mem_append.2 ?_)
    rcases List.mem_cons.1 hid with rfl | hid
    · exact .inl (hbelow.mem_of_mem hdep)
    · exact (List.mem_append.1 hid).imp ihbelow ihbehind

/-- An unfolding has exactly the ids that are reached. -/
theorem Unfolds.mem_iff {ids all : List String} (h : c.Unfolds ids all) {id : String} :
    id ∈ all ↔ c.Reached ids id := by
  refine ⟨h.reached, fun hid => ?_⟩
  induction hid with
  | start hmem => exact h.mem_of_mem hmem
  | next _ hd hdep ih => exact h.mem_of_mem_needs ih (mem_needs.2 ⟨_, hd, hdep⟩)

/-- Without cycles an id is not met again among what it leads to. -/
private theorem Acyclic.not_reached_needs (h : c.Acyclic) (id : String) :
    ¬ c.Reached (c.needs id) id := by
  -- A way from what an id needs is a path of one step or more from the id itself.
  have hpath {x : String} (hx : c.Reached (c.needs id) x) : Relation.TransGen c.DependsOn id x := by
    induction hx with
    | start hmem => exact .single (dependsOn_of_mem_needs hmem)
    | next _ hd hdep ih => exact ih.tail (dependsOn_of_mem_needs (mem_needs.2 ⟨_, hd, hdep⟩))
  exact fun hid => h id (hpath hid)

/-! ### Repetitions -/

/-- Of some ids, those that are met have nothing below them that is still to be met. -/
def Done (c : Config) (ids met : List String) : Prop :=
  ∀ id ∈ ids, id ∈ met → ∀ x, c.Reached (c.needs id) x → x ∈ met

/-- An id that is met anew does not come again among what it leads to. -/
theorem Done.below (hacyclic : c.Acyclic) {id : String} {below met : List String}
    (hbelow : c.Unfolds (c.needs id) below) (h : c.Done below met) : c.Done below (id :: met) := by
  intro x hx hmet y hy
  rcases List.mem_cons.1 hmet with rfl | hmet
  · exact absurd (hbelow.reached hx) (hacyclic.not_reached_needs x)
  · exact List.mem_cons_of_mem id (h x hx hmet y hy)

/-- When all below an id is met as well, nothing below it is still to be met. -/
theorem Done.behind {id : String} {below behind met after : List String}
    (hbelow : c.Unfolds (c.needs id) below) (h : c.Done behind met)
    (hafter : ∀ x, x ∈ after ↔ x ∈ below ∨ x ∈ id :: met) : c.Done behind after := by
  intro x hx hmet y hy
  rw [hafter] at hmet ⊢
  rcases hmet with hmet | hmet
  · -- What an id below leads to lies below too.
    exact .inl (hbelow.mem_iff.2 (hy.trans fun z hz => (hbelow.reached hmet).needs hz))
  rcases List.mem_cons.1 hmet with rfl | hmet
  · exact .inl (hbelow.mem_iff.2 hy)
  · exact .inr (List.mem_cons_of_mem id (h x hx hmet y hy))

/-- Repetitions are dropped as if a list were read part by part, with what was read so far kept in
mind. -/
private theorem eraseDups_filter_cons_append {id : String} {met after : List String}
    (hid : id ∉ met)
    (below behind : List String) (hafter : ∀ x, x ∈ after ↔ x ∈ below ∨ x ∈ id :: met) :
    ((id :: (below ++ behind)).filter (· ∉ met)).eraseDups =
      id :: ((below.filter (· ∉ id :: met)).eraseDups ++
        (behind.filter (· ∉ after)).eraseDups) := by
  -- Below the head both filters drop the head and what is met.
  have hbelow : (below.filter (· ∉ met)).filter (fun x => !x == id) =
      below.filter (· ∉ id :: met) := by
    rw [List.filter_filter]
    refine List.filter_congr fun x _ => ?_
    by_cases hx : x = id <;> simp [hx]
  -- Behind it everything is dropped that stands below.
  have hbehind : ((behind.filter (· ∉ met)).filter (fun x => !x == id)).removeAll
      (below.filter (· ∉ id :: met)) = behind.filter (· ∉ after) := by
    rw [List.removeAll, List.filter_filter, List.filter_filter]
    refine List.filter_congr fun x _ => ?_
    rw [Bool.eq_iff_iff]
    simp [hafter]
    tauto
  rw [List.filter_cons_of_pos (by simpa using hid), List.eraseDups_cons, List.filter_append,
    List.filter_append, hbelow, List.eraseDups_append, hbehind]

/-- What is left of a walk without a memory when the ids met before and all repetitions are dropped
is the walk that skips what it has met. -/
theorem preorder_eq_of_unfolds (hacyclic : c.Acyclic) {ids all : List String}
    (h : c.Unfolds ids all) {met : List String} (hdone : c.Done all met) :
    c.preorder ids met = (all.filter (· ∉ met)).eraseDups := by
  -- By induction on the unfolding; what is met is closed under needing at each point of the walk.
  induction h generalizing met with
  | nil => simp
  | @cons id rest below behind hbelow hbehind ihbelow ihbehind =>
    have hdone_below : c.Done below met := fun x hx =>
      hdone x (List.mem_cons_of_mem id (List.mem_append_left behind hx))
    have hdone_behind : c.Done behind met := fun x hx =>
      hdone x (List.mem_cons_of_mem id (List.mem_append_right below hx))
    by_cases hid : id ∈ met
    · -- The id is met, and with it all that it leads to.
      have hskipped : below.filter (· ∉ met) = [] := by
        refine List.filter_eq_nil_iff.2 fun x hx => ?_
        have hmet := hdone id List.mem_cons_self hid x (hbelow.reached hx)
        simpa using hmet
      rw [preorder_cons_of_mem c rest hid, ihbehind hdone_behind,
        List.filter_cons_of_neg (by simpa using hid), List.filter_append, hskipped, List.nil_append]
    · have hpre := ihbelow (hdone_below.below hacyclic hbelow)
      have hafter (x : String) : x ∈ (c.preorder (c.needs id) (id :: met)).reverse ++ id :: met ↔
          x ∈ below ∨ x ∈ id :: met := by
        rw [List.mem_append, List.mem_reverse, hpre, List.mem_eraseDups, List.mem_filter]
        by_cases hx : x ∈ id :: met <;> simp [hx]
      rw [preorder_cons_of_notMem c rest hid, preorder_append,
        ihbehind (hdone_behind.behind hbelow hafter), eraseDups_filter_cons_append hid _ _ hafter,
        hpre]

/-! ### Classpaths -/

/-- Ids that repeat others add no entries to a classpath. -/
private theorem foldl_addEntry_eraseDups (jar? : String → Option Path) (ids : List String)
    (entries : List Path) :
    (ids.eraseDups.filterMap jar?).foldl addEntry entries =
      (ids.filterMap jar?).foldl addEntry entries := by
  induction ids using List.reverseRecOn with
  | nil => rfl
  | append_singleton ids id ih =>
    rw [List.eraseDups_concat, List.filterMap_append, List.foldl_append]
    split
    · rename_i hid
      rw [ih]
      cases hjar : jar? id with
      | none => simp [hjar]
      | some p =>
        -- The jar is on the classpath since the id came first.
        have hmem : p ∈ ids.filterMap jar? := List.mem_filterMap.2 ⟨id, hid, hjar⟩
        have hsame : ∃ e ∈ (ids.filterMap jar?).foldl addEntry entries, p.same e :=
          (exists_same_foldl_addEntry _ _ p).2 (.inr ⟨p, hmem, Path.same_refl p⟩)
        simp [hjar, addEntry_of_exists_same hsame]
    · rw [List.filterMap_append, List.foldl_append, ih]

/-- Without cycles the classpath is the one of a walk without a memory, and so is the error. -/
theorem classpath_of_unfolds (hacyclic : c.Acyclic) {ids all : List String}
    (h : c.Unfolds ids all) :
    c.classpath root ids =
      match all.find? c.isUnresolved with
      | some id => .error (.unresolvedDistribution id)
      | none => .ok ((all.filterMap (c.jar? root)).foldl addEntry []) := by
  have hpre : c.preorder ids [] = all.eraseDups := by
    rw [preorder_eq_of_unfolds hacyclic h fun id _ hid => absurd hid List.not_mem_nil]
    simp
  -- Neither the first id that does not resolve nor the places depend on repetitions.
  cases hfind : all.find? c.isUnresolved with
  | some id => rw [classpath_eq, hpre, List.find?_eraseDups, hfind]
  | none => rw [classpath_eq, hpre, List.find?_eraseDups, foldl_addEntry_eraseDups, hfind]

end Config

end Suite
