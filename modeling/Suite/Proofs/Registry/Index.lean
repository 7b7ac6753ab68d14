import Suite.Proofs.Failing
import Suite.Proofs.Registry.Calls

/-!
# The index of a registry

A registry finds a profile by its place, which an index keeps for every name. `Registry.Indexed`
says that list and index agree; registering keeps it so, and then the index answers what a search of
the list would.

## Key results

- `Indexed.register_of_notMem`: registering keeps list and index in step
- `Indexed.answer_eq`: a registry answers every call like its list of profiles
- `registry_answers_like_list`: any calls on either of the registries there are to start from
-/

namespace Suite.Registry

/-- The index leads from every name to the place of the profile with that name, and nowhere else. -/
structure Indexed (r : Registry) : Prop where
  place_iff {name : String} {place : Nat} :
    r.places.get? name = some place ↔ ∃ p, r.profiles[place]? = some p ∧ p.name = name

variable {r : Registry}

/-- The empty registry keeps its index. -/
private theorem indexed_empty : empty.Indexed where
  place_iff := by simp [empty, Keyed.empty, Table.get?, Keyed.find?]

namespace Indexed

/-- A name has a place exactly if some profile has the name. -/
private theorem hasKey_iff (h : r.Indexed) {name : String} :
    r.places.hasKey name = true ↔ ∃ p ∈ r.profiles, p.name = name := by
  rw [Table.hasKey_eq_isSome_get?, Option.isSome_iff_exists]
  constructor
  · rintro ⟨place, hplace⟩
    obtain ⟨p, hp, hname⟩ := h.place_iff.1 hplace
    exact ⟨p, List.mem_of_getElem? hp, hname⟩
  · rintro ⟨p, hp, hname⟩
    obtain ⟨place, hplace⟩ := List.mem_iff_getElem?.1 hp
    exact ⟨place, h.place_iff.2 ⟨p, hplace, hname⟩⟩

/-- A place in the index is one among the profiles. -/
private theorem place_lt (h : r.Indexed) {name : String} {place : Nat}
    (hplace : r.places.get? name = some place) : place < r.profiles.length := by
  obtain ⟨p, hp, -⟩ := h.place_iff.1 hplace
  exact (List.getElem?_eq_some_iff.1 hp).1

/-- A name that is taken cannot be registered. -/
private theorem register_of_mem (h : r.Indexed) {p : Profile}
    (hold : ∃ q ∈ r.profiles, q.name = p.name) :
    r.register p = .error (.duplicateProfile p.name) :=
  if_pos (h.hasKey_iff.2 hold)

/-- A profile with a new name is put at the end of the list, where the index finds it. -/
theorem register_of_notMem (h : r.Indexed) {p : Profile}
    (hnew : ∀ q ∈ r.profiles, q.name ≠ p.name) :
    ∃ r', r.register p = .ok r' ∧ r'.profiles = r.profiles ++ [p] ∧ r'.Indexed := by
  -- A name that no profile has is not in the index either.
  have hkey : ¬ r.places.hasKey p.name = true := fun hkey => by
    obtain ⟨q, hq, hname⟩ := h.hasKey_iff.1 hkey
    exact hnew q hq hname
  refine ⟨_, if_neg hkey, rfl, ⟨fun {name place} => ?_⟩⟩
  rw [Table.get?_insert]
  by_cases hname : p.name = name
  · subst hname
    rw [if_pos rfl, Option.some.injEq]
    constructor
    · -- the new name, at its own place
      rintro rfl
      exact ⟨p, by simp, rfl⟩
    · rintro ⟨q, hq, hname⟩
      obtain hlt | hge := Nat.lt_or_ge place r.profiles.length
      · rw [List.getElem?_append_left hlt] at hq
        exact absurd hname (hnew q (List.mem_of_getElem? hq))
      · have hlast := (List.getElem?_eq_some_iff.1 hq).1
        rw [List.length_append, List.length_singleton] at hlast
        omega
  · -- another name, at a place that was there before
    rw [if_neg hname, h.place_iff]
    refine exists_congr fun q => and_congr_left fun hq => ?_
    constructor
    · intro hplace
      rw [List.getElem?_append_left (List.getElem?_eq_some_iff.1 hplace).1]
      exact hplace
    · intro hplace
      obtain hlt | hge := Nat.lt_or_ge place r.profiles.length
      · rwa [List.getElem?_append_left hlt] at hplace
      · -- At the new place stands the new profile, which has the other name.
        rw [List.getElem?_append_right hge] at hplace
        obtain rfl := List.mem_singleton.1 (List.mem_of_getElem? hplace)
        exact absurd hq hname

/-- Looking up the place of a name finds what a search of the list finds. -/
private theorem resolve_eq (h : r.Indexed) (name : String) :
    r.resolve name = plain.resolve r.profiles name := by
  unfold resolve plain
  simp only
  -- The index finds the place of the profile that the list finds by going through it.
  cases hfind : r.profiles.find? (·.name = name) with
  | some p =>
    obtain ⟨place, hplace⟩ := List.mem_iff_getElem?.1 (List.mem_of_find?_eq_some hfind)
    have hname : p.name = name := by simpa using List.find?_some hfind
    rw [h.place_iff.2 ⟨p, hplace, hname⟩, Option.bind_some, hplace]
  | none =>
    have hnone : r.places.get? name = none := by
      refine Option.eq_none_iff_forall_ne_some.2 fun place hplace => ?_
      obtain ⟨p, hp, hname⟩ := h.place_iff.1 hplace
      exact absurd hname (by simpa using List.find?_eq_none.1 hfind p (List.mem_of_getElem? hp))
    rw [hnone, Option.bind_none]

end Indexed

/-- Profiles with new names are registered one after the other. -/
private theorem foldlM_register (h : r.Indexed) {ps : List Profile}
    (hnodup : ((r.profiles ++ ps).map (·.name)).Nodup) :
    ∃ r', ps.foldlM register r = .ok r' ∧ r'.profiles = r.profiles ++ ps ∧ r'.Indexed := by
  -- By induction on the profiles: each has a new name, so the registry takes it and stays indexed.
  induction ps generalizing r with
  | nil => exact ⟨r, rfl, by simp, h⟩
  | cons p rest ih =>
    have hnew : ∀ q ∈ r.profiles, q.name ≠ p.name := by
      intro q hq
      rw [List.map_append, List.map_cons] at hnodup
      exact (List.nodup_append.1 hnodup).2.2 _ (List.mem_map_of_mem hq) _ List.mem_cons_self
    obtain ⟨r₁, hregister, hprofiles, h₁⟩ := h.register_of_notMem hnew
    obtain ⟨r₂, hrest, hprofiles₂, h₂⟩ := ih h₁ (by simpa [hprofiles] using hnodup)
    refine ⟨r₂, ?_, by simp [hprofiles₂, hprofiles], h₂⟩
    rw [List.foldlM_cons, hregister]
    exact hrest

/-! ### Calls -/

/-- The registry as it is: a profile that was registered is looked up by its name. -/
def indexed : Book Registry where
  register r p := do
    let r ← r.register p
    let q ← r.resolve p.name
    return (q, r)
  resolve := resolve
  names := names
  profiles := profiles

/-- A registry whose index agrees with its list answers every call like the list, and agrees with it
afterwards. -/
theorem Indexed.answer_eq (h : r.Indexed) (call : Call) :
    (indexed.answer r call).1 = (plain.answer r.profiles call).1 ∧
    (indexed.answer r call).2.profiles = (plain.answer r.profiles call).2 ∧
    (indexed.answer r call).2.Indexed := by
  cases call with
  | register p =>
    by_cases hold : ∃ q ∈ r.profiles, q.name = p.name
    · have hregister : indexed.register r p = .error (.duplicateProfile p.name) := by
        simp [indexed, h.register_of_mem hold]
      simp [Book.answer, hregister, register_plain_of_mem hold, h]
    · have hnew : ∀ q ∈ r.profiles, q.name ≠ p.name := fun q hq hname => hold ⟨q, hq, hname⟩
      obtain ⟨r', hr', hprofiles, h'⟩ := h.register_of_notMem hnew
      -- The answer is read back from the registry, where the profile is the only one of its name.
      have hresolve : r'.resolve p.name = .ok p := by
        have hnone : r.profiles.find? (·.name = p.name) = none := by simpa using hnew
        rw [h'.resolve_eq, hprofiles]
        simp [plain, List.find?_append, hnone]
      have hregister : indexed.register r p = .ok (p, r') := by
        have hsteps : indexed.register r p =
            r.register p >>= fun r => r.resolve p.name >>= fun q => .ok (q, r) := rfl
        rw [hsteps, hr', Except.ok_bind, hresolve, Except.ok_bind]
      simp [Book.answer, hregister, register_plain_of_notMem hnew, hprofiles, h']
  | resolve name => exact ⟨congrArg Answer.resolved (h.resolve_eq name), rfl, h⟩
  | names => exact ⟨rfl, rfl, h⟩
  | profiles => exact ⟨rfl, rfl, h⟩

/-- A registry whose index agrees with its list answers any calls like the list. -/
private theorem Indexed.run_eq (h : r.Indexed) (calls : List Call) :
    (indexed.run r calls).1 = (plain.run r.profiles calls).1 ∧
    (indexed.run r calls).2.profiles = (plain.run r.profiles calls).2 ∧
    (indexed.run r calls).2.Indexed := by
  -- By induction on the calls: the index stays right, so each answer is that of the list.
  induction calls generalizing r with
  | nil => exact ⟨rfl, rfl, h⟩
  | cons call rest ih =>
    obtain ⟨hanswer, hprofiles, h'⟩ := h.answer_eq call
    obtain ⟨hanswers, hrest, h''⟩ := ih h'
    rw [Book.run_cons, Book.run_cons, hanswer, hanswers, hrest, hprofiles]
    exact ⟨rfl, rfl, h''⟩

/-! ### Starts -/

/-- The registries there are to start from. -/
inductive Start
  | empty
  /-- With the variants of the platform. -/
  | builtin
  deriving DecidableEq, Repr

namespace Start

/-- The registry to start from. -/
def registry : Start → Except Error Registry
  | .empty => .ok Registry.empty
  | .builtin => Registry.builtin

/-- The profiles that are there at the start. -/
def profiles : Start → List Profile
  | .empty => []
  | .builtin => variants

/-- A registry begins with profiles of different names. -/
private theorem nodup_profiles (start : Start) : (start.profiles.map (·.name)).Nodup := by
  cases start <;> decide

/-- Every start is a registry with its profiles, whose index agrees with them. -/
private theorem exists_registry (start : Start) :
    ∃ r, start.registry = .ok r ∧ r.profiles = start.profiles ∧ r.Indexed := by
  cases start with
  | empty => exact ⟨_, rfl, rfl, indexed_empty⟩
  | builtin =>
    have hnodup : ((empty.profiles ++ variants).map (·.name)).Nodup := nodup_profiles .builtin
    exact foldlM_register indexed_empty hnodup

end Start

/-- Whatever is asked of a registry, from either start, the answers are those of a plain list that
is searched from the front. Each of them agrees with the profiles that were there at the start or
were registered by an earlier call: a name is refused exactly if it is among theirs, and is resolved
to the one profile that has it; they are listed in the order of their registration, each name once.
A call that is refused changes nothing. After any calls the index leads from every name to the place
of its profile and nowhere else, so there is a profile at every place it leads to. -/
theorem registry_answers_like_list (start : Start) (calls : List Call) :
    ∃ r, start.registry = .ok r ∧
      let ran := indexed.run r calls
      let known := fun i => start.profiles ++ registered (calls.take i) (ran.1.take i)
      ran.1 = (plain.run start.profiles calls).1 ∧
      (∀ i call, calls[i]? = some call →
        ∃ answer, ran.1[i]? = some answer ∧ Fits (known i) call answer ∧
          ((known i).map (·.name)).Nodup ∧
          (∀ e, answer = .registered (.error e) →
            (indexed.run r (calls.take (i + 1))).2 = (indexed.run r (calls.take i)).2)) ∧
      ran.2.profiles = known calls.length ∧
      (∀ name place, ran.2.places.get? name = some place ↔
        ∃ p, ran.2.profiles[place]? = some p ∧ p.name = name) ∧
      (∀ name place, ran.2.places.get? name = some place → place < ran.2.profiles.length) := by
  obtain ⟨r, hstart, hprofiles, hr⟩ := start.exists_registry
  refine ⟨r, hstart, ?_⟩
  intro ran known
  have hrun := fun calls => hprofiles ▸ hr.run_eq calls
  -- After any calls the list is what is known by then.
  have hknown : ∀ i, (indexed.run r (calls.take i)).2.profiles = known i := by
    intro i
    rw [(hrun (calls.take i)).2.1, snd_run_plain, ← (hrun (calls.take i)).1, ← Book.take_fst_run]
  refine ⟨(hrun calls).1, fun i call hcall => ?_, ?_, fun _ _ => (hrun calls).2.2.place_iff,
    fun _ _ => (hrun calls).2.2.place_lt⟩
  · have hnodup : ((known i).map (·.name)).Nodup := by
      rw [← hknown, (hrun (calls.take i)).2.1]
      exact nodup_run_plain start.nodup_profiles _
    refine ⟨_, indexed.getElem?_fst_run r hcall, ?_, hnodup, fun e he => ?_⟩
    · rw [((hrun (calls.take i)).2.2.answer_eq call).1, hknown]
      exact fits_answer_plain hnodup call
    · rw [indexed.snd_run_take_succ r hcall]
      exact indexed.snd_answer_of_refused he
  · have hall := hknown calls.length
    rwa [List.take_length] at hall

end Suite.Registry
