import Suite.Proofs.Config.Validity
import Suite.Proofs.Launch.Artifacts

/-!
# Classpaths of validated descriptions

In a sound description a walk cannot fail below the ids it starts from, at any depth and through any
spelling: the first unresolved id of the preorder is the first unresolved id asked for. A standalone
launch asks for the language jars too, which no validation looks at, so they decide whether it has a
classpath.

## Key results

- `find?_preorder_of_sound`: nothing is unresolved but what is asked for
- `classpath_of_validate`: when a validated description gives a classpath, and the error otherwise
- `standalone_classpath_of_validate`: the same for a standalone launch, told by the language jars
-/

namespace Suite

namespace Config

variable {c : Config} {root : Path} {ids : List String}

/-- The first of some ids that stands for no distribution. -/
def FirstUnresolved (c : Config) (ids : List String) (id : String) : Prop :=
  c.distribution? id = none ∧
    ∃ before after, ids = before ++ id :: after ∧ ∀ x ∈ before, ∃ d, c.distribution? x = some d

/-- The first unresolved id of a list, said without the search for it. -/
private theorem find?_isUnresolved_eq_some_iff {id : String} :
    ids.find? c.isUnresolved = some id ↔ c.FirstUnresolved ids id := by
  rw [List.find?_eq_some_iff_append, FirstUnresolved]
  simp [isUnresolved, ← Option.ne_none_iff_exists', ← Option.isSome_iff_ne_none]

/-- What an id of a sound description needs is declared. -/
private theorem Sound.find?_needs (h : c.Sound) (id : String) :
    (c.needs id).find? c.isUnresolved = none := by
  refine find?_isNone_eq_none_iff.2 fun dep hdep => ?_
  obtain ⟨d, hd, hmem⟩ := mem_needs.1 hdep
  exact h.dependencies hd hmem

/-- A walk through a sound description finds nothing unresolved but what it starts from. -/
theorem find?_preorder_of_sound (h : c.Sound) (pending met : List String)
    (hmet : ∀ id ∈ met, c.isUnresolved id = false) :
    (c.preorder pending met).find? c.isUnresolved = pending.find? c.isUnresolved := by
  induction pending, met using preorder.induct c with
  | case1 met => simp
  | case2 met id rest hid ih =>
    have hresolved : ¬ c.isUnresolved id = true := by simp [hmet id hid]
    rw [preorder_cons_of_mem c _ hid, List.find?_cons_of_neg hresolved, ih hmet]
  | case3 met id rest hid ih =>
    rw [preorder_cons_of_notMem c _ hid]
    cases hd : c.distribution? id with
    | none =>
      have hnone := isUnresolved_of_none hd
      rw [List.find?_cons_of_pos hnone, List.find?_cons_of_pos hnone]
    | some d =>
      -- Dependencies come before the rest, but none of them is unresolved.
      have hsome : ¬ c.isUnresolved id = true := by simp [isUnresolved_of_some hd]
      rw [List.find?_cons_of_neg hsome, List.find?_cons_of_neg hsome, ih (resolved_cons hd hmet),
        List.find?_append, h.find?_needs, Option.none_or]

/-- A sound description gives a classpath unless some id asked for is unresolved; the first of these
is the error. -/
private theorem classpath_of_sound (h : c.Sound) :
    c.classpath root ids =
      match ids.find? c.isUnresolved with
      | some id => .error (.unresolvedDistribution id)
      | none => .ok (((c.preorder ids []).filterMap (c.jar? root)).foldl addEntry []) := by
  have hfind := find?_preorder_of_sound h ids [] (fun id hid => by cases hid)
  refine (classpath_eq c root ids).trans ?_
  cases hids : ids.find? c.isUnresolved with
  | none => simp only [hfind, hids]
  | some id => simp only [hfind, hids]

/-- In a sound description only listed ids can be unresolved. -/
private theorem classpath_eq_error_iff_of_sound (h : c.Sound) {e : Error} :
    c.classpath root ids = .error e ↔
      ∃ id, c.FirstUnresolved ids id ∧ e = .unresolvedDistribution id := by
  rw [classpath_of_sound h]
  simp only [← find?_isUnresolved_eq_some_iff]
  cases ids.find? c.isUnresolved <;> simp [eq_comm]

/-- What ids of a sound description lead to is among them or declared. -/
private theorem Sound.mem_or_declared_of_reached (h : c.Sound) {id : String}
    (hid : c.Reached ids id) :
    id ∈ ids ∨ ∃ d, c.distribution? id = some d := by
  cases hid with
  | start hmem => exact .inl hmem
  | next _ hd hdep => exact .inr (h.dependencies hd hdep)

/-- A validated description gives a classpath exactly if every id asked for stands for a
distribution, and otherwise the error names the first that does not. No dependency, at any depth,
can make it fail: what the ids lead to is among them or declared. -/
theorem classpath_of_validate (c : Config) (root : Path) (ids : List String)
    (h : c.validate = .ok ()) :
    ((∃ entries, c.classpath root ids = .ok entries) ↔
      ∀ id ∈ ids, ∃ d, c.distribution? id = some d) ∧
    (∀ e, c.classpath root ids = .error e ↔
      ∃ id, c.FirstUnresolved ids id ∧ e = .unresolvedDistribution id) ∧
    ∀ id, c.Reached ids id → id ∈ ids ∨ ∃ d, c.distribution? id = some d := by
  -- A dependency of a valid description is declared, so only the ids of the list can be missing.
  have hsound := validate_eq_ok_iff.1 h
  refine ⟨?_, fun e => classpath_eq_error_iff_of_sound hsound,
    fun id hid => hsound.mem_or_declared_of_reached hid⟩
  rw [classpath_of_sound hsound, ← find?_isNone_eq_none_iff]
  change _ ↔ ids.find? c.isUnresolved = none
  cases ids.find? c.isUnresolved <;> simp

/-- Two distributions that need each other under other spellings, one of them itself as well. -/
def knotted : Config where
  name := "s"
  distributions :=
    Keyed.ofList [("A", { dependencies := ["s:B"] }), ("B", { dependencies := ["s:A", "B"] })]
  component := { defaultComponent with
    languageJars := ["s:A"]
    launcher := { defaultComponent.launcher with jars := ["B"] } }

/-- The example has a classpath for ids in a circle, and none for unknown ones. -/
theorem classpath_of_validate_knotted :
    knotted.validate = .ok () ∧
    (∃ entries, knotted.classpath ⟨"/d"⟩ ["B", "s:A"] = .ok entries) ∧
    knotted.classpath ⟨"/d"⟩ ["s:A", "C", "D"] = .error (.unresolvedDistribution "C") := by
  have hvalid : knotted.validate = .ok () :=
    validate_eq_ok_iff_problem?.2 (by decide +kernel)
  have hA : ∃ d, knotted.distribution? "s:A" = some d :=
    ⟨{ dependencies := ["s:B"] }, by decide +kernel⟩
  have hB : ∃ d, knotted.distribution? "B" = some d :=
    ⟨{ dependencies := ["s:A", "B"] }, by decide +kernel⟩
  refine ⟨hvalid, (classpath_of_validate knotted ⟨"/d"⟩ _ hvalid).1.2 (by simp [hA, hB]),
    ((classpath_of_validate knotted ⟨"/d"⟩ _ hvalid).2.1 _).2 ⟨"C", ?_, rfl⟩⟩
  exact ⟨by decide +kernel, ["s:A"], ["D"], rfl, by simp [hA]⟩

/-! ### Standalone launches -/

/-- Of the ids of a standalone launch only those of the language jars can be unresolved. -/
private theorem Sound.find?_standaloneArtifacts (h : c.Sound) :
    c.standaloneArtifacts.find? c.isUnresolved =
      c.component.languageJars.find? c.isUnresolved := by
  have hjars : c.component.launcher.jars.find? c.isUnresolved = none :=
    find?_isNone_eq_none_iff.2 h.jars
  rw [standaloneArtifacts, find?_dropRepeats, List.find?_append, hjars, Option.or_none]

/-- The ids of a standalone launch of a validated description all resolve exactly if its language
jars do; otherwise the error names the first language jar that stands for no distribution. -/
theorem standalone_classpath_of_validate (c : Config) (root : Path) (h : c.validate = .ok ()) :
    ((∀ id, c.classpath root c.standaloneArtifacts ≠ .error (.unresolvedDistribution id)) ↔
      ∀ jar ∈ c.component.languageJars, ∃ d, c.distribution? jar = some d) ∧
    ∀ e, c.classpath root c.standaloneArtifacts = .error e ↔
      ∃ jar, c.FirstUnresolved c.component.languageJars jar ∧ e = .unresolvedDistribution jar := by
  have hsound := validate_eq_ok_iff.1 h
  -- The jars of the launcher are checked as well, so only those of the language can be missing.
  have herror : ∀ e, c.classpath root c.standaloneArtifacts = .error e ↔
      ∃ jar, c.FirstUnresolved c.component.languageJars jar ∧ e = .unresolvedDistribution jar := by
    intro e
    rw [classpath_eq_error_iff_of_sound hsound]
    simp only [← find?_isUnresolved_eq_some_iff, hsound.find?_standaloneArtifacts]
  refine ⟨?_, herror⟩
  rw [← find?_isNone_eq_none_iff]
  change _ ↔ c.component.languageJars.find? c.isUnresolved = none
  simp only [ne_eq, herror, ← find?_isUnresolved_eq_some_iff]
  cases c.component.languageJars.find? c.isUnresolved <;> simp

/-- The example can be launched. -/
theorem standalone_classpath_of_validate_knotted :
    knotted.validate = .ok () ∧ ∀ id,
      knotted.classpath ⟨"/d"⟩ knotted.standaloneArtifacts ≠
        .error (.unresolvedDistribution id) := by
  have hvalid : knotted.validate = .ok () :=
    validate_eq_ok_iff_problem?.2 (by decide +kernel)
  have hA : ∃ d, knotted.distribution? "s:A" = some d :=
    ⟨{ dependencies := ["s:B"] }, by decide +kernel⟩
  exact ⟨hvalid, (standalone_classpath_of_validate knotted ⟨"/d"⟩ hvalid).1.2 fun jar hjar =>
    List.mem_singleton.1 hjar ▸ hA⟩

/-- A description that declares the distribution of the launcher only; the language jar is the one
that stands in where none is given. -/
def launcherOnly : Config := { distributions := Keyed.ofList [("BRAINFCK_LAUNCHER", {})] }

/-- A language jar that stands for nothing passes the validation, and only a launch finds it. -/
theorem validate_passes_undeclared_language_jar :
    launcherOnly.validate = .ok () ∧
      launcherOnly.classpath ⟨"/dists"⟩ launcherOnly.standaloneArtifacts =
        .error (.unresolvedDistribution "brainfck:BRAINFCK") := by
  have hvalid : launcherOnly.validate = .ok () :=
    validate_eq_ok_iff_problem?.2 (by decide +kernel)
  have hids : launcherOnly.standaloneArtifacts =
      ["brainfck:BRAINFCK", "brainfck:BRAINFCK_LAUNCHER"] := by decide +kernel
  have hnone : launcherOnly.distribution? "brainfck:BRAINFCK" = none := by decide +kernel
  refine ⟨hvalid, (classpath_eq_error_iff_of_sound (validate_eq_ok_iff.1 hvalid)).2 ?_⟩
  exact ⟨"brainfck:BRAINFCK", ⟨hnone, [], ["brainfck:BRAINFCK_LAUNCHER"], hids, by simp⟩, rfl⟩

end Config

end Suite
