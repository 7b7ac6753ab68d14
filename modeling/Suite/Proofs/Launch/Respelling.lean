import Mathlib.Data.List.Forall2
import Suite.Proofs.Config.Validity
import Suite.Proofs.Launch.Unfolding

/-!
# Spelling ids otherwise

Ids may be replaced by their aliases, and aliases by their ids, wherever a description or a launch
refers to distributions. What the ids lead to stays the same, so that there is a classpath as
before, with the same places on it. Without cycles the classpath is the very same and so is the
error: a walk without a memory meets the same distributions in the same order. With cycles it may
matter under which spelling a distribution is met again.

## Key results

- `Respells.reached`: what ids lead to, up to its spelling
- `Respells.exists_unfolds`: the same walk without a memory, up to the spelling
- `classpath_of_respells`: what becomes of a classpath
-/

namespace Suite

/-- The distributions differ only in how they spell what they depend on. -/
structure Distribution.Respells (same : String → String → Prop) (d e : Distribution) : Prop where
  rest : e = { d with dependencies := e.dependencies }
  dependencies : List.Forall₂ same d.dependencies e.dependencies

namespace Config

/-- The descriptions declare the same distributions under the same ids, up to how these spell what
they depend on. -/
structure Respells (c c' : Config) : Prop where
  name : c'.name = c.name
  distributions (id : String) : Option.Rel (Distribution.Respells c.SameId)
    (c.distributions.get? id) (c'.distributions.get? id)

variable {c c' : Config} {root : Path} {ids ids' : List String}

/-- In lists that correspond to each other, every element corresponds to some. -/
private theorem exists_mem_of_forall₂ {α β : Type} {r : α → β → Prop} {xs : List α} {ys : List β}
    (h : List.Forall₂ r xs ys) {x : α} (hx : x ∈ xs) : ∃ y ∈ ys, r x y := by
  induction h with
  | nil => cases hx
  | @cons a b xs ys hab _ ih =>
    rcases List.mem_cons.1 hx with rfl | hx
    · exact ⟨b, List.mem_cons_self, hab⟩
    · obtain ⟨y, hy, hxy⟩ := ih hx
      exact ⟨y, List.mem_cons_of_mem b hy, hxy⟩

/-- Lists of ids are respelled in either order. -/
private theorem forall₂_sameId_symm (h : List.Forall₂ c.SameId ids ids') :
    List.Forall₂ c.SameId ids' ids :=
  List.Forall₂.flip (h.imp fun _ _ hab => hab.symm)

/-! ### Descriptions -/

namespace Respells

/-- The same ids are written in the tables of both descriptions. -/
private theorem get?_eq_none_iff (h : c.Respells c') (id : String) :
    c'.distributions.get? id = none ↔ c.distributions.get? id = none := by
  have hrel := h.distributions id
  cases hd : c.distributions.get? id <;> cases he : c'.distributions.get? id <;>
    simp_all

/-- The same ids are aliases in both descriptions. -/
private theorem isAlias_iff (h : c.Respells c') {full id : String} :
    c'.IsAlias full id ↔ c.IsAlias full id := by
  have hdeclared : (∃ d, c'.distributions.get? id = some d) ↔
      ∃ d, c.distributions.get? id = some d := by
    rw [← Option.ne_none_iff_exists', ← Option.ne_none_iff_exists', ne_eq, h.get?_eq_none_iff]
  constructor
  · rintro ⟨hspelling, hid, hfull⟩
    exact ⟨h.name ▸ hspelling, hdeclared.1 hid, (h.get?_eq_none_iff full).1 hfull⟩
  · rintro ⟨hspelling, hid, hfull⟩
    exact ⟨h.name ▸ hspelling, hdeclared.2 hid, (h.get?_eq_none_iff full).2 hfull⟩

/-- The same ids lead to the same places in both descriptions. -/
private theorem sameId_iff (h : c.Respells c') {a b : String} : c'.SameId a b ↔ c.SameId a b := by
  rw [SameId, SameId, h.isAlias_iff, h.isAlias_iff]

/-- Descriptions are respelled in either order. -/
theorem symm (h : c.Respells c') : c'.Respells c := by
  refine ⟨h.name.symm, fun id => ?_⟩
  have hrel := h.distributions id
  generalize c.distributions.get? id = d? at hrel ⊢
  generalize c'.distributions.get? id = e? at hrel ⊢
  cases hrel with
  | none => exact .none
  | @some d e hde =>
    obtain ⟨hrest, hdeps⟩ := hde
    refine .some ⟨by rw [hrest], ?_⟩
    exact (forall₂_sameId_symm hdeps).imp fun _ _ => h.sameId_iff.2

/-- Under corresponding ids nothing is declared, or distributions that correspond to each other. -/
private theorem distribution?_cases (h : c.Respells c') {a b : String} (hab : c.SameId a b) :
    (c.distribution? a = none ∧ c'.distribution? b = none) ∨
      ∃ d e, c.distribution? a = some d ∧ c'.distribution? b = some e ∧
        Distribution.Respells c.SameId d e := by
  have hrel : Option.Rel (Distribution.Respells c.SameId) (c.distribution? b)
      (c'.distribution? b) := by
    rw [distribution?, distribution?, h.name]
    -- Both configurations look in the same two places, where they respell each other.
    have hget := h.distributions b
    generalize c.distributions.get? b = d? at hget ⊢
    generalize c'.distributions.get? b = e? at hget ⊢
    cases hget with
    | some hde => exact .some hde
    | none =>
      cases Text.withoutFront? (c.name ++ ":") b with
      | none => exact .none
      | some rest => exact h.distributions rest
  rw [hab.distribution?_eq]
  generalize c.distribution? b = d? at hrel ⊢
  generalize c'.distribution? b = e? at hrel ⊢
  cases hrel with
  | none => exact .inl ⟨rfl, rfl⟩
  | some hde => exact .inr ⟨_, _, rfl, rfl, hde⟩

/-- Ids that lead to the same place are unresolved together. -/
private theorem isUnresolved_eq (h : c.Respells c') {a b : String} (hab : c.SameId a b) :
    c'.isUnresolved b = c.isUnresolved a := by
  obtain ⟨hd, he⟩ | ⟨d, e, hd, he, -⟩ := h.distribution?_cases hab
  · rw [isUnresolved_of_none hd, isUnresolved_of_none he]
  · rw [isUnresolved_of_some hd, isUnresolved_of_some he]

/-- What ids need is respelled with them. -/
private theorem needs_rel (h : c.Respells c') {a b : String} (hab : c.SameId a b) :
    List.Forall₂ c.SameId (c.needs a) (c'.needs b) := by
  obtain ⟨hd, he⟩ | ⟨d, e, hd, he, hde⟩ := h.distribution?_cases hab
  · simp [needs, hd, he]
  · rw [needs_of_some hd, needs_of_some he]
    exact hde.dependencies

/-- Ids that lead to the same place have the same jar. -/
private theorem jar?_eq (h : c.Respells c') {a b : String} (hab : c.SameId a b) :
    c'.jar? root b = c.jar? root a := by
  obtain ⟨hd, he⟩ | ⟨d, e, hd, he, hde⟩ := h.distribution?_cases hab
  · simp [jar?, hd, he]
  · have hnative : e.native = d.native := by rw [hde.rest]
    have hjar : jarPath root b e = jarPath root a d := by
      rw [hab.jarPath_eq, hde.rest]
      rfl
    simp [jar?, hd, he, hnative, hjar]

/-- A respelled description is acyclic if the other one is. -/
private theorem acyclic (h : c.Respells c') (hacyclic : c.Acyclic) : c'.Acyclic := by
  have hstep (a b : String) (hab : c'.DependsOn a b) : c.DependsOn a b := by
    obtain ⟨dep', hdep', hsame⟩ := hab
    -- The same dependency is there in the other spelling.
    obtain ⟨dep, hdep, hdeps⟩ :=
      exists_mem_of_forall₂ (forall₂_sameId_symm (h.needs_rel (.refl a))) hdep'
    exact ⟨dep, hdep, hdeps.symm.trans (h.sameId_iff.1 hsame)⟩
  exact fun id hpath => hacyclic id (Relation.TransGen.mono hstep id id hpath)

/-! ### Walks -/

/-- What ids lead to, the corresponding ids lead to under some spelling. -/
theorem reached (h : c.Respells c') (hids : List.Forall₂ c.SameId ids ids') {a : String}
    (ha : c.Reached ids a) : ∃ b, c.SameId a b ∧ c'.Reached ids' b := by
  -- By induction on the way that leads to the id: each step can be taken in the other spelling.
  induction ha with
  | start hmem =>
    obtain ⟨b, hb, hab⟩ := exists_mem_of_forall₂ hids hmem
    exact ⟨b, hab, .start hb⟩
  | @next a dep d _ hd hdep ih =>
    obtain ⟨b, hab, hb⟩ := ih
    obtain ⟨dep', hdep', hsame⟩ :=
      exists_mem_of_forall₂ (h.needs_rel hab) (mem_needs.2 ⟨d, hd, hdep⟩)
    obtain ⟨e, he, hmem⟩ := mem_needs.1 hdep'
    exact ⟨dep', hsame, .next hb he hmem⟩

/-- If all that ids lead to is declared, so is all that the corresponding ids lead to. -/
theorem declared (h : c.Respells c') (hids : List.Forall₂ c.SameId ids ids')
    (hdeclared : ∀ id, c'.Reached ids' id → ∃ e, c'.distribution? id = some e) :
    ∀ id, c.Reached ids id → ∃ d, c.distribution? id = some d := by
  intro id hid
  obtain ⟨b, hab, hb⟩ := h.reached hids hid
  obtain ⟨e, he⟩ := hdeclared b hb
  obtain ⟨-, hnone⟩ | ⟨d, -, hd, -⟩ := h.distribution?_cases hab
  · rw [he] at hnone
    cases hnone
  · exact ⟨d, hd⟩

/-- The jars of all that ids lead to are among those of all that the corresponding ids lead to. -/
private theorem exists_jar (h : c.Respells c') (hids : List.Forall₂ c.SameId ids ids') {p : Path}
    (hjar : ∃ id d, c.Reached ids id ∧ c.distribution? id = some d ∧ d.native = false ∧
      p.same (jarPath root id d)) :
    ∃ id e, c'.Reached ids' id ∧ c'.distribution? id = some e ∧ e.native = false ∧
      p.same (jarPath root id e) := by
  obtain ⟨id, d, hid, hd, hnative, hp⟩ := hjar
  obtain ⟨b, hab, hb⟩ := h.reached hids hid
  have hjar : c'.jar? root b = some (jarPath root id d) :=
    (h.jar?_eq hab).trans (jar?_eq_some_iff.2 ⟨d, hd, hnative, rfl⟩)
  obtain ⟨e, he, hnative', hpath⟩ := jar?_eq_some_iff.1 hjar
  exact ⟨b, e, hb, he, hnative', hpath ▸ hp⟩

/-- Walks without a memory along corresponding ids meet corresponding ids. -/
theorem exists_unfolds (h : c.Respells c') {all : List String} (hall : c.Unfolds ids all)
    (hids : List.Forall₂ c.SameId ids ids') :
    ∃ all', c'.Unfolds ids' all' ∧ List.Forall₂ c.SameId all all' := by
  -- By induction on the unfolding: what is below each id and behind it is respelled by itself.
  induction hall generalizing ids' with
  | nil =>
    cases hids
    exact ⟨[], .nil, .nil⟩
  | @cons id rest below behind _ _ ihbelow ihbehind =>
    obtain ⟨id', rest', hid, hrest, rfl⟩ := List.forall₂_cons_left_iff.1 hids
    obtain ⟨below', hunfolds_below, hbelow⟩ := ihbelow (h.needs_rel hid)
    obtain ⟨behind', hunfolds_behind, hbehind⟩ := ihbehind hrest
    exact ⟨_, .cons hunfolds_below hunfolds_behind, .cons hid (List.rel_append hbelow hbehind)⟩

/-- Of corresponding ids the first unresolved one is the same: nothing else is spelled like it. -/
private theorem find?_isUnresolved_eq (h : c.Respells c') {all all' : List String}
    (hall : List.Forall₂ c.SameId all all') :
    all'.find? c'.isUnresolved = all.find? c.isUnresolved := by
  -- By induction on the pairs: an id that does not resolve has one spelling only.
  induction hall with
  | nil => rfl
  | @cons a b _ _ hab _ ih =>
    rw [List.find?_cons, List.find?_cons, h.isUnresolved_eq hab, ih]
    cases hd : c.isUnresolved a with
    | false => rfl
    | true => rw [hab.eq_of_unresolved (isUnresolved_iff.1 hd)]

/-- Respelled lists have the same jars. -/
private theorem filterMap_jar?_eq (h : c.Respells c') {all all' : List String}
    (hall : List.Forall₂ c.SameId all all') :
    all'.filterMap (c'.jar? root) = all.filterMap (c.jar? root) := by
  induction hall with
  | nil => rfl
  | cons hab _ ih => rw [List.filterMap_cons, List.filterMap_cons, h.jar?_eq hab, ih]

end Respells

/-- Ids may be spelled otherwise, in a description and where a launch asks for them: there is a
classpath as before, with the same places on it. If no distribution depends on itself, the classpath
is the same, entry by entry, and the error names the same id. -/
theorem classpath_of_respells (c c' : Config) (root : Path) (ids ids' : List String)
    (h : c.Respells c') (hids : List.Forall₂ c.SameId ids ids') :
    ((∃ entries, c'.classpath root ids' = .ok entries) ↔
      ∃ entries, c.classpath root ids = .ok entries) ∧
    (∀ entries entries', c.classpath root ids = .ok entries →
      c'.classpath root ids' = .ok entries' →
      ∀ p : Path, (∃ e ∈ entries', p.same e) ↔ ∃ e ∈ entries, p.same e) ∧
    (c.Acyclic → c'.classpath root ids' = c.classpath root ids) := by
  have hback : List.Forall₂ c'.SameId ids' ids :=
    (forall₂_sameId_symm hids).imp fun _ _ => h.sameId_iff.2
  refine ⟨?_, fun entries entries' hok hok' p => ?_, fun hacyclic => ?_⟩
  · rw [exists_classpath_iff, exists_classpath_iff]
    exact ⟨h.declared hids, h.symm.declared hback⟩
  · rw [exists_same_of_classpath hok, exists_same_of_classpath hok']
    exact ⟨h.symm.exists_jar hback, h.exists_jar hids⟩
  -- Without cycles the ids unfold to finite lists, which can be compared entry by entry.
  · obtain ⟨all, hall⟩ := Config.exists_unfolds hacyclic ids
    obtain ⟨all', hall', hsame⟩ := h.exists_unfolds hall hids
    rw [classpath_of_unfolds hacyclic hall, classpath_of_unfolds (h.acyclic hacyclic) hall',
      h.find?_isUnresolved_eq hsame, h.filterMap_jar?_eq hsame]

/-- Nothing depends on itself if what is needed never needs anything. -/
private theorem acyclic_of_needs_eq_nil (h : ∀ id, ∀ dep ∈ c.needs id, c.needs dep = []) :
    c.Acyclic := by
  have hstep {a b : String} (hab : c.DependsOn a b) : c.needs b = [] := by
    obtain ⟨dep, hdep, hsame⟩ := hab
    rw [← hsame.needs_eq]
    exact h a dep hdep
  intro id hpath
  obtain ⟨_, ⟨dep, hdep, -⟩, -⟩ := Relation.TransGen.head'_iff.1 hpath
  obtain ⟨_, -, hlast⟩ := Relation.TransGen.tail'_iff.1 hpath
  rw [hstep hlast] at hdep
  cases hdep

/-- A program and the library that it needs, under some spelling of its id. -/
def programWith (library : String) : Config where
  name := "s"
  distributions := Keyed.ofList [("P", { dependencies := [library] }), ("L", {})]

/-- What is written in the table of the example. -/
private theorem get?_programWith (library id : String) :
    (programWith library).distributions.get? id =
      if "L" = id then some {}
      else if "P" = id then some { dependencies := [library] }
      else none := by
  rw [programWith, Keyed.ofList, List.foldl_cons, List.foldl_cons, List.foldl_nil,
    Table.get?_insert, Table.get?_insert]
  rfl

/-- Both ids of the example have another spelling. -/
private theorem sameId_programWith (library : String) :
    (programWith library).SameId "s:L" "L" ∧ (programWith library).SameId "P" "s:P" := by
  refine ⟨.inr (.inl ⟨rfl, ⟨{}, ?_⟩, ?_⟩),
    .inr (.inr ⟨rfl, ⟨{ dependencies := [library] }, ?_⟩, ?_⟩)⟩
  all_goals
    rw [get?_programWith]
    rfl

/-- The two descriptions of the example respell each other. -/
private theorem respells_programWith : (programWith "s:L").Respells (programWith "L") := by
  refine ⟨rfl, fun id => ?_⟩
  rw [get?_programWith, get?_programWith]
  split
  · exact .some ⟨rfl, .nil⟩
  · split
    · exact .some ⟨rfl, .cons (sameId_programWith "s:L").1 .nil⟩
    · exact .none

/-- The example has no circle. -/
private theorem acyclic_programWith : (programWith "s:L").Acyclic := by
  refine acyclic_of_needs_eq_nil fun id dep hdep => ?_
  obtain ⟨d, hd, hmem⟩ := mem_needs.1 hdep
  obtain ⟨key, hkey⟩ := exists_mem_of_distribution? hd
  rw [← Table.get?_eq_some_iff, get?_programWith] at hkey
  -- Only one of the distributions needs another, and that one needs nothing.
  split at hkey
  · obtain rfl := Option.some.inj hkey
    cases hmem
  · split at hkey
    · obtain rfl := Option.some.inj hkey
      obtain rfl := List.mem_singleton.1 hmem
      decide +kernel
    · cases hkey

/-- Both descriptions of the example have the same classpath. -/
theorem classpath_of_respells_program :
    (programWith "s:L").Respells (programWith "L") ∧
    List.Forall₂ (programWith "s:L").SameId ["P", "L"] ["s:P", "L"] ∧
    (programWith "s:L").Acyclic ∧
    (programWith "L").classpath ⟨"/d"⟩ ["s:P", "L"] =
      (programWith "s:L").classpath ⟨"/d"⟩ ["P", "L"] := by
  have hids : List.Forall₂ (programWith "s:L").SameId ["P", "L"] ["s:P", "L"] :=
    .cons (sameId_programWith "s:L").2 (.cons (.refl "L") .nil)
  exact ⟨respells_programWith, hids, acyclic_programWith,
    (classpath_of_respells _ _ ⟨"/d"⟩ _ _ respells_programWith hids).2.2 acyclic_programWith⟩

/-- A program and an extension that need each other, each of them something else as well. -/
def extended : Config where
  name := "s"
  distributions :=
    Keyed.ofList [("P", { dependencies := ["E", "L"] }), ("E", { dependencies := ["P", "M"] }),
      ("L", {}), ("M", {})]

/-- With a cycle the order of the entries tells the spellings apart. -/
private theorem order_of_classpath_extended :
    extended.classpath ⟨"/d"⟩ ["P"] =
      .ok [⟨"/d/p.jar"⟩, ⟨"/d/e.jar"⟩, ⟨"/d/m.jar"⟩, ⟨"/d/l.jar"⟩] ∧
    extended.classpath ⟨"/d"⟩ ["s:P"] =
      .ok [⟨"/d/p.jar"⟩, ⟨"/d/e.jar"⟩, ⟨"/d/l.jar"⟩, ⟨"/d/m.jar"⟩] := by
  have hneeds : extended.needs "P" = ["E", "L"] ∧ extended.needs "s:P" = ["E", "L"] ∧
      extended.needs "E" = ["P", "M"] ∧ extended.needs "L" = [] ∧ extended.needs "M" = [] := by
    refine ⟨?_, ?_, ?_, ?_, ?_⟩ <;> decide +kernel
  have hresolved : ["P", "E", "M", "L"].find? extended.isUnresolved = none ∧
      ["s:P", "E", "P", "L", "M"].find? extended.isUnresolved = none :=
    ⟨by decide +kernel, by decide +kernel⟩
  have hshort : extended.preorder ["P"] [] = ["P", "E", "M", "L"] := by
    simp [preorder_cons_of_notMem, preorder_cons_of_mem, hneeds]
  -- The program is met again under its own id, and all that it needs comes before the rest.
  have hlong : extended.preorder ["s:P"] [] = ["s:P", "E", "P", "L", "M"] := by
    simp [preorder_cons_of_notMem, preorder_cons_of_mem, hneeds]
  rw [classpath_eq, classpath_eq, hshort, hlong, hresolved.1, hresolved.2]
  exact ⟨congrArg Except.ok (by decide +kernel), congrArg Except.ok (by decide +kernel)⟩

end Config

end Suite
