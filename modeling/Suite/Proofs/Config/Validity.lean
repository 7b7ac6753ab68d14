import Suite.Config.Lookup

/-!
# What a validated description guarantees

`Config.validate` passes over the entries of a description and stops at the first problem.
`Config.Sound` says without any pass what holds of a description that gets through: the declared
distributions are closed under dependencies, the launcher refers to declared ones only, and every
task of the gate has a command.

## Key results

- `validate_eq_ok_iff`: a description is let through exactly if it is sound
-/

namespace Suite.Config

/-- Nothing is wrong with a description. The language jars are no part of this. -/
structure Sound (c : Config) : Prop where
  dependencies {id dep : String} {d : Distribution} (hd : c.distribution? id = some d)
    (hdep : dep ∈ d.dependencies) : ∃ e, c.distribution? dep = some e
  jars : ∀ jar ∈ c.component.launcher.jars, ∃ d, c.distribution? jar = some d
  commands : ∀ t ∈ c.gate.tasks, t.command ≠ []

variable {c : Config}

/-- What an id stands for is declared, under the id itself or under a part of it. -/
theorem exists_mem_of_distribution? {id : String} {d : Distribution}
    (h : c.distribution? id = some d) : ∃ key, (key, d) ∈ c.distributions := by
  unfold distribution? at h
  split at h
  · next hget => exact ⟨id, Table.get?_eq_some_iff.1 (hget.trans h)⟩
  · obtain ⟨rest, -, hget⟩ := Option.bind_eq_some_iff.1 h
    exact ⟨rest, Table.get?_eq_some_iff.1 hget⟩

/-- A declared distribution is found under its key. -/
private theorem distribution?_of_mem {key : String} {d : Distribution}
    (h : (key, d) ∈ c.distributions) :
    c.distribution? key = some d := by
  rw [distribution?, Table.get?_eq_some_iff.2 h]

/-- Some ids all stand for distributions exactly if none is found that does not. -/
theorem find?_isNone_eq_none_iff {ids : List String} :
    ids.find? (fun id => (c.distribution? id).isNone) = none ↔
      ∀ id ∈ ids, ∃ d, c.distribution? id = some d := by
  simp [List.find?_eq_none, ← Option.ne_none_iff_exists']

/-- Nothing dangles exactly if every dependency stands for a distribution. -/
private theorem danglingDependency?_eq_none_iff :
    c.danglingDependency? = none ↔
      ∀ entry ∈ c.distributions, ∀ dep ∈ entry.2.dependencies,
        ∃ e, c.distribution? dep = some e := by
  unfold danglingDependency?
  rw [List.findSome?_eq_none_iff]
  refine forall₂_congr fun entry _ => ?_
  rw [Option.map_eq_none_iff, find?_isNone_eq_none_iff]

/-- The pass finds no problem exactly if none of its three parts does. -/
private theorem problem?_eq_none_iff :
    c.problem? = none ↔
      c.danglingDependency? = none ∧
      (∀ jar ∈ c.component.launcher.jars, ∃ d, c.distribution? jar = some d) ∧
      ∀ t ∈ c.gate.tasks, t.command ≠ [] := by
  unfold problem?
  rw [← find?_isNone_eq_none_iff]
  -- The checks are made one after the other, so each case leaves the later ones open.
  cases c.danglingDependency? with
  | some entry => simp
  | none =>
    cases c.component.launcher.jars.find? fun jar => (c.distribution? jar).isNone with
    | some jar => simp
    | none => simp

/-- A description is let through exactly if nothing is wrong with it. -/
theorem validate_eq_ok_iff_problem? : c.validate = .ok () ↔ c.problem? = none := by
  unfold validate
  cases c.problem? <;> simp

/-- A description is let through exactly if it is sound. -/
theorem validate_eq_ok_iff : c.validate = .ok () ↔ c.Sound := by
  rw [validate_eq_ok_iff_problem?, problem?_eq_none_iff, danglingDependency?_eq_none_iff]
  constructor
  · rintro ⟨hdeps, hjars, hcommands⟩
    refine ⟨fun hd hdep => ?_, hjars, hcommands⟩
    obtain ⟨key, hmem⟩ := exists_mem_of_distribution? hd
    exact hdeps (key, _) hmem _ hdep
  · intro h
    exact ⟨fun entry hmem _ hdep => h.dependencies (distribution?_of_mem hmem) hdep, h.jars,
      h.commands⟩

end Suite.Config
