import Suite.Launch.Command
import Suite.Proofs.Launch.Reach

/-!
# What a standalone launch can come to

A standalone launch comes to one of three things, and what the ids lead to decides which: something
is not declared, nothing has a jar, or there is a command. The arguments and the main class have no
part in it. They only take their places around the text of the classpath.

## Key results

- `classpath_ne_nil_iff`: when there is something on a classpath
- `standalone_outcomes`: the three outcomes, and when there is which of them
-/

namespace Suite

namespace Config

variable {c : Config} {os : OsFamily} {resolver : Resolver} {ids raw : List String}
  {mainClass : String}

/-! ### Commands -/

/-- A launch fails with the error of its classpath. -/
theorem standalone_of_error {e : Error} (h : resolver ids = .error e) :
    c.standalone os resolver ids mainClass raw = .error e := by
  rw [standalone, h]
  rfl

/-- An empty classpath is an error. -/
theorem standalone_of_nil (h : resolver ids = .ok []) :
    c.standalone os resolver ids mainClass raw = .error (.emptyClasspath ids) := by
  rw [standalone, h]
  rfl

/-- A classpath with entries makes a command. -/
theorem standalone_of_ne_nil {entries : List Path} (h : resolver ids = .ok entries)
    (hne : entries ≠ []) :
    c.standalone os resolver ids mainClass raw =
      .ok ⟨.java, (c.component.launcher.vmFlags.divide raw).flags ++
        ["-cp", os.pathSeparator.intercalate (entries.map (·.text)), mainClass] ++
        (c.component.launcher.vmFlags.divide raw).arguments⟩ := by
  cases entries with
  | nil => contradiction
  | cons entry entries =>
    rw [standalone, h]
    rfl

/-! ### What the ids lead to -/

variable {root : Path}

/-- Something reached stands for no distribution unless everything stands for one. -/
private theorem exists_unresolved_iff :
    (∃ id, c.Reached ids id ∧ c.distribution? id = none) ↔
      ¬ ∀ id, c.Reached ids id → ∃ d, c.distribution? id = some d := by
  simp [← Option.ne_none_iff_exists']

/-- Everything reached is native exactly if it stands for distributions none of which has a jar. -/
private theorem forall_native_iff :
    (∀ id, c.Reached ids id → ∃ d, c.distribution? id = some d ∧ d.native = true) ↔
      (∀ id, c.Reached ids id → ∃ d, c.distribution? id = some d) ∧
        ¬ ∃ id d, c.Reached ids id ∧ c.distribution? id = some d ∧ d.native = false := by
  constructor
  · intro h
    refine ⟨fun id hid => (h id hid).imp fun _ hd => hd.1, ?_⟩
    rintro ⟨id, d, hid, hd, hjar⟩
    obtain ⟨_, hd', hnative⟩ := h id hid
    obtain rfl := Option.some.inj (hd.symm.trans hd')
    rw [hnative] at hjar
    cases hjar
  · rintro ⟨hdeclared, hjar⟩ id hid
    obtain ⟨d, hd⟩ := hdeclared id hid
    exact ⟨d, hd, Bool.of_not_eq_false fun hnative => hjar ⟨id, d, hid, hd, hnative⟩⟩

/-- There is something on a classpath exactly if the ids lead to a distribution with a jar. -/
theorem classpath_ne_nil_iff {entries : List Path} (h : c.classpath root ids = .ok entries) :
    entries ≠ [] ↔
      ∃ id d, c.Reached ids id ∧ c.distribution? id = some d ∧ d.native = false := by
  constructor
  · intro hne
    obtain ⟨e, he⟩ := List.exists_mem_of_ne_nil entries hne
    -- An entry is the jar of something reached that is not native.
    obtain ⟨id, d, hid, hd, hjar, -⟩ := (exists_same_of_classpath h).1 ⟨e, he, Path.same_refl e⟩
    exact ⟨id, d, hid, hd, hjar⟩
  · rintro ⟨id, d, hid, hd, hjar⟩
    obtain ⟨e, he, -⟩ := (exists_same_of_classpath h).2
      ⟨id, d, hid, hd, hjar, Path.same_refl (jarPath root id d)⟩
    exact List.ne_nil_of_mem he

/-- For all arguments and main classes, a standalone launch fails at something unresolved if the ids
lead to any such thing, it fails for want of entries if all that they lead to is native, and else
there is a command: flags for the virtual machine, the classpath, the main class and the arguments
of the program. -/
theorem standalone_outcomes (c : Config) (root : Path) (os : OsFamily) (ids : List String) :
    ∃ outcome : Except Error String,
      (∀ mainClass raw, c.standalone os (c.classpath root) ids mainClass raw =
        outcome.map fun text =>
          ⟨.java, (c.component.launcher.vmFlags.divide raw).flags ++ ["-cp", text, mainClass] ++
            (c.component.launcher.vmFlags.divide raw).arguments⟩) ∧
      ((∃ id, outcome = .error (.unresolvedDistribution id)) ↔
        ∃ id, c.Reached ids id ∧ c.distribution? id = none) ∧
      (outcome = .error (.emptyClasspath ids) ↔
        ∀ id, c.Reached ids id → ∃ d, c.distribution? id = some d ∧ d.native = true) ∧
      ((∃ text, outcome = .ok text) ↔
        (∀ id, c.Reached ids id → ∃ d, c.distribution? id = some d) ∧
          ∃ id d, c.Reached ids id ∧ c.distribution? id = some d ∧ d.native = false) ∧
      (∀ e, outcome = .error e → e = .emptyClasspath ids ∨
        ∃ id, c.Reached ids id ∧ c.distribution? id = none ∧ e = .unresolvedDistribution id) ∧
      ∀ text, outcome = .ok text → ∃ entries, c.classpath root ids = .ok entries ∧
        text = os.pathSeparator.intercalate (entries.map (·.text)) := by
  rw [exists_unresolved_iff, forall_native_iff, ← exists_classpath_iff]
  cases hclasspath : c.classpath root ids with
  | error e =>
    -- The first id that stands for nothing stops the launch.
    obtain ⟨id, hid, hnone, rfl⟩ := of_classpath_eq_error hclasspath
    refine ⟨.error (.unresolvedDistribution id),
      fun _ _ => standalone_of_error hclasspath, by simp, by simp, by simp, ?_, by simp⟩
    intro e he
    exact .inr ⟨id, hid, hnone, (Except.error.inj he).symm⟩
  | ok entries =>
    rw [← classpath_ne_nil_iff hclasspath]
    -- Natives alone give no entries.
    by_cases hne : entries = []
    · subst hne
      exact ⟨.error (.emptyClasspath ids), fun _ _ => standalone_of_nil hclasspath, by simp,
        by simp, by simp, by simp, by simp⟩
    · exact ⟨.ok (os.pathSeparator.intercalate (entries.map (·.text))),
        fun _ _ => standalone_of_ne_nil hclasspath hne, by simp, by simp [hne], by simp [hne],
        by simp, by simp⟩

end Config

end Suite
