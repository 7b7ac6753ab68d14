import Suite.Proofs.Launch.Entries
import Suite.Proofs.Launch.Walk

/-!
# What is on a classpath

A classpath covers exactly what its ids lead to: it is there if all of that is declared, and holds
the jars of all of it, each place once.

## Key results

- `find?_preorder_eq_none_iff`: the walk finds an unresolved id if one is reached
- `classpath_eq_ok_iff`, `classpath_eq_error_iff`: a classpath, or the error, read off the walk
- `classpath_covers_reached`: the classpath in terms of the reached ids
-/

namespace Suite

namespace Config

variable {c : Config} {root : Path} {ids : List String}

/-- An id is unresolved exactly if it stands for no distribution. -/
theorem isUnresolved_iff {id : String} : c.isUnresolved id = true ↔ c.distribution? id = none := by
  simp [isUnresolved]

/-- The jar of an id is that of its distribution, unless this is native. -/
theorem jar?_eq_some_iff {id : String} {p : Path} :
    c.jar? root id = some p ↔
      ∃ d, c.distribution? id = some d ∧ d.native = false ∧ jarPath root id d = p := by
  cases hd : c.distribution? id with
  | none => simp [jar?, hd]
  | some d => cases hnative : d.native <;> simp [jar?, hd, hnative]

/-- A walk finds nothing unresolved exactly if all that the ids lead to is declared. -/
theorem find?_preorder_eq_none_iff :
    (c.preorder ids []).find? c.isUnresolved = none ↔
      ∀ id, c.Reached ids id → ∃ d, c.distribution? id = some d := by
  rw [List.find?_eq_none]
  refine forall_congr' fun id => ?_
  rw [mem_preorder_iff, isUnresolved_iff]
  exact imp_congr_right fun _ => Option.ne_none_iff_exists'

/-- What a walk finds unresolved is reached. -/
private theorem reached_of_find?_preorder {id : String}
    (h : (c.preorder ids []).find? c.isUnresolved = some id) :
    c.Reached ids id ∧ c.distribution? id = none :=
  ⟨mem_preorder_iff.1 (List.mem_of_find?_eq_some h), isUnresolved_iff.1 (List.find?_some h)⟩

/-- The places of the jars met on a walk are those of the reached distributions that have one. -/
private theorem exists_same_jars {p : Path} :
    (∃ q ∈ (c.preorder ids []).filterMap (c.jar? root), p.same q) ↔
      ∃ id d, c.Reached ids id ∧ c.distribution? id = some d ∧ d.native = false ∧
        p.same (jarPath root id d) := by
  -- A jar belongs to an id of the walk, and the walk meets just what is reached.
  constructor
  · rintro ⟨q, hq, hpq⟩
    obtain ⟨id, hid, hjar⟩ := List.mem_filterMap.1 hq
    obtain ⟨d, hd, hnative, rfl⟩ := jar?_eq_some_iff.1 hjar
    exact ⟨id, d, mem_preorder_iff.1 hid, hd, hnative, hpq⟩
  · rintro ⟨id, d, hid, hd, hnative, hpq⟩
    have hjar : c.jar? root id = some (jarPath root id d) :=
      jar?_eq_some_iff.2 ⟨d, hd, hnative, rfl⟩
    exact ⟨_, List.mem_filterMap.2 ⟨id, mem_preorder_iff.2 hid, hjar⟩, hpq⟩

/-- There is a classpath exactly if all that the ids lead to is declared. -/
theorem exists_classpath_iff :
    (∃ entries, c.classpath root ids = .ok entries) ↔
      ∀ id, c.Reached ids id → ∃ d, c.distribution? id = some d := by
  rw [classpath_eq, ← find?_preorder_eq_none_iff]
  cases (c.preorder ids []).find? c.isUnresolved <;> simp

/-- There is a classpath if the walk finds nothing unresolved, and it holds the jars met. -/
theorem classpath_eq_ok_iff {entries : List Path} :
    c.classpath root ids = .ok entries ↔
      (c.preorder ids []).find? c.isUnresolved = none ∧
        entries = ((c.preorder ids []).filterMap (c.jar? root)).foldl addEntry [] := by
  rw [classpath_eq]
  cases (c.preorder ids []).find? c.isUnresolved <;> simp [eq_comm]

/-- There is no classpath if the walk finds something unresolved, which the error names. -/
theorem classpath_eq_error_iff {e : Error} :
    c.classpath root ids = .error e ↔
      ∃ id, (c.preorder ids []).find? c.isUnresolved = some id ∧
        e = .unresolvedDistribution id := by
  rw [classpath_eq]
  cases (c.preorder ids []).find? c.isUnresolved <;> simp [eq_comm]

/-- An error of a classpath names an id that is reached and stands for nothing. -/
theorem of_classpath_eq_error {e : Error} (h : c.classpath root ids = .error e) :
    ∃ id, c.Reached ids id ∧ c.distribution? id = none ∧ e = .unresolvedDistribution id := by
  obtain ⟨id, hfind, rfl⟩ := classpath_eq_error_iff.1 h
  obtain ⟨hreached, hnone⟩ := reached_of_find?_preorder hfind
  exact ⟨id, hreached, hnone, rfl⟩

/-- The entries of a classpath are the jars met on a walk. -/
private theorem of_classpath_eq_ok {entries : List Path} (h : c.classpath root ids = .ok entries) :
    entries = ((c.preorder ids []).filterMap (c.jar? root)).foldl addEntry [] :=
  (classpath_eq_ok_iff.1 h).2

/-- An entry of a classpath is the jar of something that is reached. -/
theorem exists_jarPath_of_mem_classpath {entries : List Path}
    (h : c.classpath root ids = .ok entries) {e : Path} (he : e ∈ entries) :
    ∃ id d, c.Reached ids id ∧ c.distribution? id = some d ∧ d.native = false ∧
      e = jarPath root id d := by
  obtain rfl := of_classpath_eq_ok h
  have hjar := (mem_or_mem_of_mem_foldl_addEntry _ he).resolve_left List.not_mem_nil
  obtain ⟨id, hid, hjar⟩ := List.mem_filterMap.1 hjar
  obtain ⟨d, hd, hnative, rfl⟩ := jar?_eq_some_iff.1 hjar
  exact ⟨id, d, mem_preorder_iff.1 hid, hd, hnative, rfl⟩

/-- The places on a classpath are those of the jars of all that the ids lead to. -/
theorem exists_same_of_classpath {entries : List Path} (h : c.classpath root ids = .ok entries)
    {p : Path} :
    (∃ e ∈ entries, p.same e) ↔
      ∃ id d, c.Reached ids id ∧ c.distribution? id = some d ∧ d.native = false ∧
        p.same (jarPath root id d) := by
  obtain rfl := of_classpath_eq_ok h
  rw [exists_same_foldl_addEntry, ← exists_same_jars]
  simp

/-- There is a classpath exactly if all that the ids lead to is declared, and the error names
something that is not. A place is on the classpath exactly if the jar of a distribution that the ids
lead to is there; no place is on it twice. -/
theorem classpath_covers_reached (c : Config) (root : Path) (ids : List String) :
    ((∃ entries, c.classpath root ids = .ok entries) ↔
      ∀ id, c.Reached ids id → ∃ d, c.distribution? id = some d) ∧
    (∀ e, c.classpath root ids = .error e →
      ∃ id, c.Reached ids id ∧ c.distribution? id = none ∧ e = .unresolvedDistribution id) ∧
    ∀ entries, c.classpath root ids = .ok entries →
      (∀ p : Path, (∃ entry ∈ entries, p.same entry) ↔
        ∃ id d, c.Reached ids id ∧ c.distribution? id = some d ∧ d.native = false ∧
          p.same (jarPath root id d)) ∧
      entries.Pairwise fun p q => p.same q = false := by
  rw [classpath_eq, ← find?_preorder_eq_none_iff]
  cases hfind : (c.preorder ids []).find? c.isUnresolved with
  | some id =>
    -- The walk stops at an id that is reached and unresolved.
    obtain ⟨hreached, hnone⟩ := reached_of_find?_preorder hfind
    refine ⟨by simp, fun e he => ?_, fun entries h => nomatch h⟩
    exact ⟨id, hreached, hnone, (Except.error.inj he).symm⟩
  | none =>
    -- The walk comes to its end, so the entries are the jars of all that it met.
    refine ⟨by simp, fun e he => (nomatch he), fun entries h => ?_⟩
    obtain rfl := Except.ok.inj h
    refine ⟨fun p => ?_, pairwise_foldl_addEntry _ List.Pairwise.nil⟩
    rw [exists_same_foldl_addEntry, ← exists_same_jars]
    simp

end Config

end Suite
