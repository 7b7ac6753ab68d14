import Suite.Proofs.Ci.Verdict
import Suite.Proofs.Host.Writing

/-!
# What a check writes

A check writes at most one file, and only a copy that is out of date. To tell an attempt that fails
from none at all, the check is told again with any way to write files (`Ci.checkBy`), of which the
machine's own is one and a list of what is asked for is another.

## Key results

- `check_eq_checkBy`, `checkBy_logged`: the twin is the check, with the list beside it
- `asked_ne_nil_iff`: when there is something to write
- `check_writes_only_own`: files, attempts and errors of any check
-/

namespace Suite

open Host (IoError Machine)

/-- A way to write files: it may refuse, and it leaves a state behind either way. -/
abbrev Writer (σ : Type) := Path → List UInt8 → σ → Except IoError Unit × σ

namespace Writer

variable {σ : Type}

/-- The way of a machine, which stays as it is when it refuses. -/
def ofMachine : Writer Machine := fun p bytes m =>
  match m.write p bytes with
  | .error e => (.error e, m)
  | .ok m => (.ok (), m)

/-- A way to write files that keeps a list of what it is asked for. -/
def logged (write : Writer σ) : Writer (σ × List (Path × List UInt8)) := fun p bytes (s, log) =>
  let (result, s) := write p bytes s
  (result, s, log ++ [(p, bytes)])

/-- No file is written at all. -/
def idle : Writer Unit := fun _ _ s => (.ok (), s)

end Writer

namespace Ci

variable {σ : Type}

/-- Checks a copy with any way to write files. -/
def checkBy (write : Writer σ) (m : Machine) (own shared : Path) (sync : Bool) (s : σ) :
    Except Error Verification × σ :=
  match verdict m own shared sync with
  | .error e => (.error e, s)
  | .ok (.same digest) => (.ok ⟨own, shared, digest, false⟩, s)
  | .ok (.replace bytes digest) =>
    match write own bytes s with
    | (.error e, s) => (.error (.io e), s)
    | (.ok (), s) => (.ok ⟨own, shared, digest, true⟩, s)

/-- What a check asks to be written, and where. -/
def asked (m : Machine) (own shared : Path) (sync : Bool) : List (Path × List UInt8) :=
  (checkBy Writer.idle.logged m own shared sync ((), [])).2.2

variable {m : Machine} {own shared : Path} {sync : Bool}

/-! ### The twin -/

/-- A check writes in the way of the machine. -/
theorem check_eq_checkBy (m : Machine) (own shared : Path) (sync : Bool) :
    check m own shared sync = checkBy Writer.ofMachine m own shared sync m := by
  unfold check checkBy Writer.ofMachine
  rcases verdict m own shared sync with _ | _ | ⟨bytes, digest⟩
  · rfl
  · rfl
  · cases hwrite : m.write own bytes <;> simp [hwrite]

/-- Only a copy that is to be replaced is asked to be written. -/
private theorem asked_eq (m : Machine) (own shared : Path) (sync : Bool) :
    asked m own shared sync =
      match verdict m own shared sync with
      | .ok (.replace bytes _) => [(own, bytes)]
      | _ => [] := by
  unfold asked checkBy
  rcases verdict m own shared sync with _ | _ | _ <;> rfl

/-- The list beside any way to write files is the list of what is asked for. -/
theorem checkBy_logged (write : Writer σ) (m : Machine) (own shared : Path) (sync : Bool) (s : σ)
    (log : List (Path × List UInt8)) :
    checkBy write.logged m own shared sync (s, log) =
      ((checkBy write m own shared sync s).1, (checkBy write m own shared sync s).2,
        log ++ asked m own shared sync) := by
  rw [asked_eq]
  unfold checkBy Writer.logged
  rcases verdict m own shared sync with _ | _ | ⟨bytes, digest⟩
  · simp
  · simp
  · rcases hwrite : write own bytes s with ⟨_ | _, s'⟩ <;> simp [hwrite]

/-! ### Attempts -/

/-- A copy out of date is asked to be written with the bytes of the shared file. -/
private theorem asked_of_outdated {bytes : List UInt8} {value : Json.Value}
    (hshared : Holds m shared bytes value) (hown : Outdated m own value) :
    asked m own shared true = [(own, bytes)] := by
  rw [asked_eq, verdict_of_finds (.outdated hshared hown rfl)]

/-- If something is to be written, the copy may be replaced, there is a value to replace it by, and
it is out of date. -/
private theorem outdated_of_asked_ne_nil (h : asked m own shared sync ≠ []) :
    sync = true ∧ ∃ bytes value, Holds m shared bytes value ∧ Outdated m own value := by
  have hfinds := finds_verdict m own shared sync
  rw [asked_eq] at h
  generalize verdict m own shared sync = r at h hfinds
  cases hfinds with
  | outdated hshared hown hsync => exact ⟨hsync, _, _, hshared, hown⟩
  | _ => exact absurd rfl h

/-- There is something to write exactly if the copy may be replaced, there is a value to replace it
by, and it is out of date. -/
theorem asked_ne_nil_iff :
    asked m own shared sync ≠ [] ↔
      sync = true ∧ ∃ bytes value, Holds m shared bytes value ∧ Outdated m own value := by
  refine ⟨outdated_of_asked_ne_nil, ?_⟩
  rintro ⟨rfl, bytes, value, hshared, hown⟩
  simp [asked_of_outdated hshared hown]

/-- At most the copy is written, and with nothing but the bytes of the shared file. -/
private theorem asked_eq_nil_or (m : Machine) (own shared : Path) (sync : Bool) :
    asked m own shared sync = [] ∨
      ∃ bytes, m.read shared = .ok bytes ∧ asked m own shared sync = [(own, bytes)] := by
  by_cases h : asked m own shared sync = []
  · exact .inl h
  · obtain ⟨rfl, bytes, value, hshared, hown⟩ := outdated_of_asked_ne_nil h
    exact .inr ⟨bytes, hshared.read, asked_of_outdated hshared hown⟩

/-! ### Checks -/

section Checks

variable {bytes ownBytes : List UInt8} {value v : Json.Value}

/-- A check whose verdict is an error ends with it. -/
private theorem fst_check_of_error {e : Error} (h : Finds m own shared sync (.error e)) :
    (check m own shared sync).1 = .error e := by
  rw [check, verdict_of_finds h]

/-- A copy that says the same is left as it is. -/
theorem check_of_same (hshared : Holds m shared bytes value) (hown : Holds m own ownBytes v)
    (hsame : v.equivalent value = true) :
    check m own shared sync = (.ok ⟨own, shared, Sha256.hex bytes, false⟩, m) := by
  rw [check, verdict_of_finds (.same hshared hown hsame)]

/-- A copy out of date is replaced, if it can be written. -/
theorem check_of_outdated (hshared : Holds m shared bytes value) (hown : Outdated m own value) :
    check m own shared true =
      match m.write own bytes with
      | .error e => (.error (.io e), m)
      | .ok m' => (.ok ⟨own, shared, Sha256.hex bytes, true⟩, m') := by
  have hverdict := verdict_of_finds (.outdated hshared hown rfl)
  cases hwrite : m.write own bytes <;> simp [check, hverdict, hwrite]

/-- Only a check that writes the copy leaves another machine behind. -/
private theorem snd_check_eq_or (m : Machine) (own shared : Path) (sync : Bool) :
    (check m own shared sync).2 = m ∨
      sync = true ∧ (∃ v, (check m own shared sync).1 = .ok v) ∧
        ∃ bytes, m.write own bytes = .ok (check m own shared sync).2 := by
  have hfinds := finds_verdict m own shared sync
  unfold check
  -- Only what was found decides whether anything is written.
  generalize verdict m own shared sync = r at hfinds
  cases hfinds with
  | @outdated bytes _ _ _ hsync =>
    simp only
    cases hwrite : m.write own bytes with
    | error e => exact .inl rfl
    | ok m' => exact .inr ⟨hsync, ⟨_, rfl⟩, bytes, hwrite⟩
  | _ => exact .inl rfl

/-- A difference is told with the digests of both files, whose bytes differ. -/
private theorem of_fst_check_eq_ciMismatch {a b : Path} {d d' : String}
    (h : (check m own shared sync).1 = .error (.ciMismatch a b d d')) :
    a = own ∧ b = shared ∧ ∃ ownBytes bytes, m.read own = .ok ownBytes ∧
      m.read shared = .ok bytes ∧ ownBytes ≠ bytes ∧ d = Sha256.hex ownBytes ∧
      d' = Sha256.hex bytes := by
  have hfinds := finds_verdict m own shared sync
  unfold check at h
  generalize verdict m own shared sync = r at h hfinds
  cases hfinds with
  | @differs bytes ownBytes value v hshared hown hdiffers _ =>
    cases h
    refine ⟨rfl, rfl, ownBytes, bytes, hown.read, hshared.read, ?_, rfl, rfl⟩
    -- Equal bytes would be JSON for one value, which says the same as itself.
    rintro rfl
    obtain rfl : v = value := Except.ok.inj (hown.parse.symm.trans hshared.parse)
    simp [Json.Value.equivalent_refl] at hdiffers
  | @outdated bytes _ _ _ _ =>
    simp only at h
    cases hwrite : m.write own bytes <;> simp [hwrite] at h
  | _ => cases h

/-- A check leaves the machine the same but for the copy. -/
private theorem sameBut_check (m : Machine) (own shared : Path) (sync : Bool) :
    m.SameBut (check m own shared sync).2 own := by
  obtain h | ⟨-, -, bytes, hwrite⟩ := snd_check_eq_or m own shared sync
  · rw [h]
    exact Machine.sameBut_refl m own
  · exact Machine.sameBut_of_write hwrite

/-- A check that must not write, or that fails, leaves the machine as it is. -/
private theorem snd_check_eq_self
    (h : sync = false ∨ ∃ e, (check m own shared sync).1 = .error e) :
    (check m own shared sync).2 = m := by
  obtain hself | ⟨hsync, ⟨v, hv⟩, -⟩ := snd_check_eq_or m own shared sync
  · exact hself
  · obtain hoff | ⟨e, he⟩ := h
    · simp [hsync] at hoff
    · simp [hv] at he

end Checks

/-- A check leaves everything but the copy as it is, and the copy too if it must not be replaced or
if the check fails. It asks for one write at most, of the bytes of the shared file to the copy, and
asks for it exactly if the copy may be replaced, the shared file is JSON, and the copy is not there,
is no JSON or says something else. What goes wrong is told in this order: the shared file cannot be
read; it is no JSON; the copy cannot be read, unless it is merely not there and may be written; it
is no JSON and must not be replaced; it says something else and must not be replaced. In the last
case the error holds the digests of the two files, whose bytes differ. -/
theorem check_writes_only_own (m : Machine) (own shared : Path) (sync : Bool) :
    let found := check m own shared sync
    checkBy Writer.ofMachine.logged m own shared sync (m, []) =
      (found.1, found.2, asked m own shared sync) ∧
    (asked m own shared sync = [] ∨
      ∃ bytes, m.read shared = .ok bytes ∧ asked m own shared sync = [(own, bytes)]) ∧
    (asked m own shared sync ≠ [] ↔
      sync = true ∧ ∃ bytes value, Holds m shared bytes value ∧ Outdated m own value) ∧
    m.SameBut found.2 own ∧
    (sync = false ∨ (∃ e, found.1 = .error e) → found.2 = m) ∧
    (∀ e, m.read shared = .error e → found.1 = .error (.io e)) ∧
    (∀ bytes e, m.read shared = .ok bytes → parse bytes = .error e →
      found.1 = .error (.json e)) ∧
    (∀ bytes value, Holds m shared bytes value →
      (∀ e, m.read own = .error e → (e = .notFound → sync = false) →
        found.1 = .error (.io e)) ∧
      (∀ ownBytes e, m.read own = .ok ownBytes → parse ownBytes = .error e → sync = false →
        found.1 = .error (.json e)) ∧
      (∀ ownBytes v, Holds m own ownBytes v → v.equivalent value = false → sync = false →
        found.1 = .error (.ciMismatch own shared (Sha256.hex ownBytes) (Sha256.hex bytes))) ∧
      (∀ ownBytes v, Holds m own ownBytes v → v.equivalent value = true →
        found = (.ok ⟨own, shared, Sha256.hex bytes, false⟩, m)) ∧
      (Outdated m own value → sync = true → found =
        match m.write own bytes with
        | .error e => (.error (.io e), m)
        | .ok m' => (.ok ⟨own, shared, Sha256.hex bytes, true⟩, m'))) ∧
    (∀ a b ownDigest digest, found.1 = .error (.ciMismatch a b ownDigest digest) →
      a = own ∧ b = shared ∧ ownDigest ≠ "" ∧ digest ≠ "" ∧
      ∃ ownBytes bytes, m.read own = .ok ownBytes ∧ m.read shared = .ok bytes ∧
        ownBytes ≠ bytes ∧ ownDigest = Sha256.hex ownBytes ∧ digest = Sha256.hex bytes) := by
  intro found
  refine ⟨?_, asked_eq_nil_or m own shared sync, asked_ne_nil_iff, sameBut_check m own shared sync,
    snd_check_eq_self, ?_, ?_, ?_, ?_⟩
  · -- the list of attempts
    rw [checkBy_logged, ← check_eq_checkBy]
    rfl
  · -- the shared file cannot be read
    exact fun e hshared => fst_check_of_error (.sharedUnreadable hshared)
  · -- the shared file is no JSON
    exact fun bytes e hshared hparse => fst_check_of_error (.sharedNoJson hshared hparse)
  · -- the shared file is JSON, so the copy counts
    intro bytes value hshared
    refine ⟨?_, ?_, ?_, ?_, ?_⟩
    · exact fun e hown hneeded => fst_check_of_error (.ownUnreadable hshared hown hneeded)
    · exact fun ownBytes e hown hparse hsync =>
        fst_check_of_error (.ownNoJson hshared hown hparse hsync)
    · exact fun ownBytes v hown hdiffers hsync =>
        fst_check_of_error (.differs hshared hown hdiffers hsync)
    · exact fun ownBytes v hown hsame => check_of_same hshared hown hsame
    · rintro hown rfl
      exact check_of_outdated hshared hown
  · -- a difference
    intro a b ownDigest digest h
    obtain ⟨ha, hb, ownBytes, bytes, hown, hshared, hne, rfl, rfl⟩ := of_fst_check_eq_ciMismatch h
    exact ⟨ha, hb, Sha256.hex_ne_empty _, Sha256.hex_ne_empty _, ownBytes, bytes, hown, hshared,
      hne, rfl, rfl⟩

end Ci

end Suite
