import Suite.Profile

/-!
# Calls on registries

A registry is used by calls, one after the other. What it should answer is told by a plain list of
profiles (`Registry.plain`), which is searched from the front, and by the calls before: `Fits` says
which answers agree with the profiles registered so far.

## Key results

- `Book.getElem?_fst_run`, `Book.take_fst_run`: answers depend on the calls before only
- `snd_run_plain`, `nodup_run_plain`: the list is what was registered, each name once
- `fits_answer_plain`: what the list answers agrees with what was registered
-/

namespace Suite.Registry

/-- What can be asked of a registry. -/
inductive Call
  | register (p : Profile)
  | resolve (name : String)
  | names
  | profiles
  deriving DecidableEq, Repr

/-- What a registry answers. -/
inductive Answer
  | registered (result : Except Error Profile)
  | resolved (result : Except Error Profile)
  | names (names : List String)
  | profiles (profiles : List Profile)

/-- A way to keep profiles in states of its own. -/
structure Book (σ : Type) where
  /-- The profile as it is kept, and the state after it was registered. -/
  register : σ → Profile → Except Error (Profile × σ)
  resolve : σ → String → Except Error Profile
  names : σ → List String
  profiles : σ → List Profile

namespace Book

variable {σ : Type}

/-- The answer to a call, and the state after it. A call that fails leaves the state as it was. -/
def answer (b : Book σ) (s : σ) : Call → Answer × σ
  | .register p =>
    match b.register s p with
    | .error e => (.registered (.error e), s)
    | .ok (q, s) => (.registered (.ok q), s)
  | .resolve name => (.resolved (b.resolve s name), s)
  | .names => (.names (b.names s), s)
  | .profiles => (.profiles (b.profiles s), s)

/-- The answers to calls one after the other, and the state after them. -/
def run (b : Book σ) : σ → List Call → List Answer × σ
  | s, [] => ([], s)
  | s, call :: rest =>
    let (answer, s) := b.answer s call
    let (answers, s) := b.run s rest
    (answer :: answers, s)

variable (b : Book σ)

@[simp] theorem run_nil (s : σ) : b.run s [] = ([], s) := rfl

/-- Calls are answered one after the other. -/
@[simp] theorem run_cons (s : σ) (call : Call) (rest : List Call) :
    b.run s (call :: rest) =
      ((b.answer s call).1 :: (b.run (b.answer s call).2 rest).1,
        (b.run (b.answer s call).2 rest).2) := rfl

/-- A registration that is refused changes nothing. -/
theorem snd_answer_of_refused {s : σ} {call : Call} {e : Error}
    (h : (b.answer s call).1 = .registered (.error e)) : (b.answer s call).2 = s := by
  cases call with
  | register p => cases hregister : b.register s p <;> simp_all [answer]
  | _ => rfl

/-- The answers up to a call are those to the calls up to it. -/
theorem take_fst_run (s : σ) (calls : List Call) (i : Nat) :
    (b.run s calls).1.take i = (b.run s (calls.take i)).1 := by
  induction calls generalizing s i with
  | nil => simp
  | cons call rest ih =>
    cases i with
    | zero => rfl
    | succ i => simp [ih]

/-- The answer to a call is given in the state after the calls before. -/
theorem getElem?_fst_run (s : σ) {calls : List Call} {i : Nat} {call : Call}
    (h : calls[i]? = some call) :
    (b.run s calls).1[i]? = some (b.answer (b.run s (calls.take i)).2 call).1 := by
  -- By induction on the calls, for every position and every state that they begin in.
  induction calls generalizing s i with
  | nil => simp at h
  | cons first rest ih =>
    cases i with
    | zero =>
      obtain rfl := Option.some.inj h
      rfl
    | succ i => simpa using ih (b.answer s first).2 h

/-- The state after a call, from the one after the calls before. -/
theorem snd_run_take_succ (s : σ) {calls : List Call} {i : Nat} {call : Call}
    (h : calls[i]? = some call) :
    (b.run s (calls.take (i + 1))).2 = (b.answer (b.run s (calls.take i)).2 call).2 := by
  induction calls generalizing s i with
  | nil => simp at h
  | cons first rest ih =>
    cases i with
    | zero =>
      obtain rfl := Option.some.inj h
      rfl
    | succ i => simpa using ih (b.answer s first).2 h

end Book

/-! ### A plain list -/

/-- Profiles in a list that is searched from the front. -/
def plain : Book (List Profile) where
  register ps p :=
    if ps.any (·.name = p.name) then .error (.duplicateProfile p.name) else .ok (p, ps ++ [p])
  resolve ps name :=
    match ps.find? (·.name = name) with
    | some p => .ok p
    | none => .error (.unknownProfile name)
  names ps := ps.map (·.name)
  profiles ps := ps

/-- The profile that a call registered, by the answer to it. -/
def registered? : Call × Answer → Option Profile
  | (.register p, .registered (.ok _)) => some p
  | _ => none

/-- The profiles that calls registered, by the answers to them, in their order. -/
def registered (calls : List Call) (answers : List Answer) : List Profile :=
  (calls.zip answers).filterMap registered?

/-- The answer to a call agrees with the profiles that are known: a name is registered only once,
and it is resolved to the profile that was registered under it. -/
def Fits (known : List Profile) : Call → Answer → Prop
  | .register p, answer =>
    (answer = .registered (.error (.duplicateProfile p.name)) ↔ ∃ q ∈ known, q.name = p.name) ∧
    (answer = .registered (.ok p) ↔ ∀ q ∈ known, q.name ≠ p.name)
  | .resolve name, answer =>
    (∀ p, answer = .resolved (.ok p) ↔ p ∈ known ∧ p.name = name) ∧
    (answer = .resolved (.error (.unknownProfile name)) ↔ ∀ p ∈ known, p.name ≠ name)
  | .names, answer => answer = .names (known.map (·.name))
  | .profiles, answer => answer = .profiles known

variable {ps : List Profile}

/-- A name that is taken cannot be registered in a list. -/
theorem register_plain_of_mem {p : Profile} (h : ∃ q ∈ ps, q.name = p.name) :
    plain.register ps p = .error (.duplicateProfile p.name) := by
  have hany : ps.any (·.name = p.name) = true := by simpa using h
  exact if_pos hany

/-- A new name is registered at the end of a list. -/
theorem register_plain_of_notMem {p : Profile} (h : ∀ q ∈ ps, q.name ≠ p.name) :
    plain.register ps p = .ok (p, ps ++ [p]) := by
  have hany : ¬ ps.any (·.name = p.name) = true := by simpa using h
  exact if_neg hany

/-- With each name once, the list resolves a name to the one profile that has it. -/
private theorem resolve_plain_eq_ok_iff (hnodup : (ps.map (·.name)).Nodup) {name : String}
    {p : Profile} :
    plain.resolve ps name = .ok p ↔ p ∈ ps ∧ p.name = name := by
  have hfind : ps.find? (·.name = name) = some p ↔ p ∈ ps ∧ p.name = name := by
    constructor
    · intro h
      exact ⟨List.mem_of_find?_eq_some h, by simpa using List.find?_some h⟩
    · rintro ⟨hp, rfl⟩
      -- By induction on the profiles: as names do not repeat, no earlier one has the name.
      induction ps with
      | nil => cases hp
      | cons q rest ih =>
        obtain ⟨hq, hrest⟩ := List.nodup_cons.1 hnodup
        rcases List.mem_cons.1 hp with rfl | hp
        · simp
        · have hne : q.name ≠ p.name := fun h => hq (List.mem_map.2 ⟨p, hp, h.symm⟩)
          simpa [hne] using ih hrest hp
  rw [← hfind]
  cases h : ps.find? (·.name = name) <;> simp [plain, h]

/-- A name is unknown to a list exactly if no profile has it. -/
private theorem resolve_plain_eq_error_iff {name : String} :
    plain.resolve ps name = .error (.unknownProfile name) ↔ ∀ p ∈ ps, p.name ≠ name := by
  have hfind : ps.find? (·.name = name) = none ↔ ∀ p ∈ ps, p.name ≠ name := by simp
  rw [← hfind]
  cases h : ps.find? (·.name = name) <;> simp [plain, h]

/-- A call adds to the list what it registers. -/
private theorem snd_answer_plain (ps : List Profile) (call : Call) :
    (plain.answer ps call).2 = ps ++ (registered? (call, (plain.answer ps call).1)).toList := by
  cases call with
  | register p =>
    by_cases h : ∃ q ∈ ps, q.name = p.name
    · simp [Book.answer, register_plain_of_mem h, registered?]
    · have hnew : ∀ q ∈ ps, q.name ≠ p.name := fun q hq hname => h ⟨q, hq, hname⟩
      simp [Book.answer, register_plain_of_notMem hnew, registered?]
  | _ => simp [Book.answer, registered?]

/-- After some calls the list holds what they registered too. -/
theorem snd_run_plain (ps : List Profile) (calls : List Call) :
    (plain.run ps calls).2 = ps ++ registered calls (plain.run ps calls).1 := by
  -- By induction on the calls: a call adds at most the profile that it has registered.
  induction calls generalizing ps with
  | nil => simp [registered]
  | cons call rest ih =>
    rw [Book.run_cons, ih, snd_answer_plain]
    cases h : registered? (call, (plain.answer ps call).1) <;> simp [registered, h]

/-- A call keeps each name once. -/
private theorem nodup_answer_plain (hnodup : (ps.map (·.name)).Nodup) (call : Call) :
    ((plain.answer ps call).2.map (·.name)).Nodup := by
  -- Only a registration changes the list, and only by a name that is new.
  cases call with
  | register p =>
    by_cases h : ∃ q ∈ ps, q.name = p.name
    · simpa [Book.answer, register_plain_of_mem h] using hnodup
    · have hnew : ∀ q ∈ ps, q.name ≠ p.name := fun q hq hname => h ⟨q, hq, hname⟩
      simp only [Book.answer, register_plain_of_notMem hnew, List.map_append, List.map_cons,
        List.map_nil]
      refine List.nodup_append.2 ⟨hnodup, by simp, fun a ha b hb => ?_⟩
      obtain ⟨q, hq, rfl⟩ := List.mem_map.1 ha
      rw [List.mem_singleton.1 hb]
      exact hnew q hq
  | _ => exact hnodup

/-- Some calls keep each name once. -/
theorem nodup_run_plain (hnodup : (ps.map (·.name)).Nodup) (calls : List Call) :
    ((plain.run ps calls).2.map (·.name)).Nodup := by
  induction calls generalizing ps with
  | nil => exact hnodup
  | cons call rest ih =>
    rw [Book.run_cons]
    exact ih (nodup_answer_plain hnodup call)

/-- What the list answers agrees with what it holds. -/
theorem fits_answer_plain (hnodup : (ps.map (·.name)).Nodup) (call : Call) :
    Fits ps call (plain.answer ps call).1 := by
  cases call with
  | register p =>
    -- A name is registered once, so the two outcomes exclude each other.
    by_cases h : ∃ q ∈ ps, q.name = p.name
    · have hold : ¬ ∀ q ∈ ps, q.name ≠ p.name := fun hnew => by
        obtain ⟨q, hq, hname⟩ := h
        exact hnew q hq hname
      simp [Fits, Book.answer, register_plain_of_mem h, h, hold]
    · have hnew : ∀ q ∈ ps, q.name ≠ p.name := fun q hq hname => h ⟨q, hq, hname⟩
      simp only [Fits, Book.answer, register_plain_of_notMem hnew]
      exact ⟨by simpa using hnew, by simpa using hnew⟩
  | resolve name =>
    refine ⟨fun p => ?_, ?_⟩
    · rw [← resolve_plain_eq_ok_iff hnodup]
      simp [Book.answer]
    · rw [← resolve_plain_eq_error_iff]
      simp [Book.answer]
  | names => rfl
  | profiles => rfl

end Suite.Registry
