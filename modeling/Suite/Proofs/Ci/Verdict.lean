import Suite.Ci.Check
import Suite.Proofs.Failing

/-!
# What a check finds

`Ci.verdict` reads two files and stops at the first thing that is wrong. `Ci.Finds` tells the same
as a table: which of its rows holds is a matter of what there is to read at the two places.

## Key results

- `finds_iff`: the verdict is the one entry of the table that holds
- `Sha256.length_hex`: the length of digests
-/

namespace Suite

namespace Sha256

/-- A digest has sixty-four digits. -/
theorem length_hex (message : List UInt8) : (hex message).length = 64 := by
  simp [hex, wordText]

/-- No digest is empty. -/
theorem hex_ne_empty (message : List UInt8) : hex message ≠ "" := by
  intro h
  have hlength := length_hex message
  rw [h] at hlength
  cases hlength

end Sha256

namespace Ci

open Host (Machine)

/-- The path leads to bytes that are JSON for the value. -/
structure Holds (m : Machine) (p : Path) (bytes : List UInt8) (value : Json.Value) : Prop where
  read : m.read p = .ok bytes
  parse : parse bytes = .ok value

/-- The copy is not there, is no JSON, or says something else than the value. -/
inductive Outdated (m : Machine) (own : Path) (value : Json.Value) : Prop
  | absent (hread : m.read own = .error .notFound)
  | noJson {bytes : List UInt8} {e : Json.Error} (hread : m.read own = .ok bytes)
    (hparse : parse bytes = .error e)
  | differs {bytes : List UInt8} {v : Json.Value} (hown : Holds m own bytes v)
    (hdiffers : v.equivalent value = false)

/-- What a check finds, by what there is to read at the two places. -/
inductive Finds (m : Machine) (own shared : Path) (sync : Bool) : Except Error Verdict → Prop
  | sharedUnreadable {e : Host.IoError} (hshared : m.read shared = .error e) :
    Finds m own shared sync (.error (.io e))
  | sharedNoJson {bytes : List UInt8} {e : Json.Error} (hshared : m.read shared = .ok bytes)
    (hparse : parse bytes = .error e) : Finds m own shared sync (.error (.json e))
  /-- A copy that is not there is no error if it may be written. -/
  | ownUnreadable {bytes : List UInt8} {value : Json.Value} {e : Host.IoError}
    (hshared : Holds m shared bytes value) (hown : m.read own = .error e)
    (hneeded : e = .notFound → sync = false) : Finds m own shared sync (.error (.io e))
  | same {bytes ownBytes : List UInt8} {value v : Json.Value} (hshared : Holds m shared bytes value)
    (hown : Holds m own ownBytes v) (hsame : v.equivalent value = true) :
    Finds m own shared sync (.ok (.same (Sha256.hex bytes)))
  | outdated {bytes : List UInt8} {value : Json.Value} (hshared : Holds m shared bytes value)
    (hown : Outdated m own value) (hsync : sync = true) :
    Finds m own shared sync (.ok (.replace bytes (Sha256.hex bytes)))
  | ownNoJson {bytes ownBytes : List UInt8} {value : Json.Value} {e : Json.Error}
    (hshared : Holds m shared bytes value) (hown : m.read own = .ok ownBytes)
    (hparse : parse ownBytes = .error e) (hsync : sync = false) :
    Finds m own shared sync (.error (.json e))
  | differs {bytes ownBytes : List UInt8} {value v : Json.Value}
    (hshared : Holds m shared bytes value) (hown : Holds m own ownBytes v)
    (hdiffers : v.equivalent value = false) (hsync : sync = false) :
    Finds m own shared sync
      (.error (.ciMismatch own shared (Sha256.hex ownBytes) (Sha256.hex bytes)))

variable {m : Machine} {own shared : Path} {sync : Bool} {bytes ownBytes : List UInt8}
  {value v : Json.Value}

/-! ### The steps of a verdict -/

/-- An own copy that can be read counts as it is. -/
private theorem readOwn_of_ok (h : m.read own = .ok ownBytes) :
    readOwn m own sync = .ok (some ownBytes) := by
  simp [readOwn, h]

/-- What keeps the own copy from being read is the error, unless it is to be made anew. -/
private theorem readOwn_of_error {e : Host.IoError} (h : m.read own = .error e)
    (hneeded : e = .notFound → sync = false) : readOwn m own sync = .error (.io e) := by
  unfold readOwn
  rw [h]
  cases e with
  | notFound => simp [hneeded rfl]
  | _ => rfl

/-- An own copy that is absent is none if it may be made. -/
private theorem readOwn_of_absent (h : m.read own = .error .notFound) :
    readOwn m own true = .ok none := by
  simp [readOwn, h]

/-- Copies that are JSON agree if their values are equivalent. -/
private theorem agrees_of_json (h : parse ownBytes = .ok v) :
    agrees (some ownBytes) value sync = .ok (v.equivalent value) := by
  simp [agrees, h]

/-- An own copy that is no JSON does not agree, which is an error unless it is made anew. -/
private theorem agrees_of_noJson {e : Json.Error} (h : parse ownBytes = .error e) :
    agrees (some ownBytes) value sync = if sync then .ok false else .error (.json e) := by
  simp [agrees, h]

/-- The verdict for a copy that says the same as the shared file, or not. -/
def settle (own shared : Path) (bytes : List UInt8) (sync : Bool) (ownBytes : Option (List UInt8))
    (same : Bool) : Except Error Verdict :=
  if same then .ok (.same (Sha256.hex bytes))
  else if sync then .ok (.replace bytes (Sha256.hex bytes))
  else .error (.ciMismatch own shared ((ownBytes.map Sha256.hex).getD "") (Sha256.hex bytes))

/-- Past the shared file, a verdict is about the copy. -/
private theorem verdict_of_holds (h : Holds m shared bytes value) :
    verdict m own shared sync =
      (readOwn m own sync >>= fun ownBytes =>
        agrees ownBytes value sync >>= settle own shared bytes sync ownBytes) := by
  unfold verdict
  rw [h.read, Except.ok_mapError, Except.ok_bind, h.parse, Except.ok_mapError, Except.ok_bind]
  rfl

/-! ### The table -/

/-- A row of the table that holds gives the verdict. -/
theorem verdict_of_finds {r : Except Error Verdict} (h : Finds m own shared sync r) :
    verdict m own shared sync = r := by
  -- One case for each row of the table; three ways lead to a copy that is outdated.
  cases h with
  | sharedUnreadable hshared => simp [verdict, hshared]
  | sharedNoJson hshared hparse => simp [verdict, hshared, hparse]
  | ownUnreadable hshared hown hneeded =>
    rw [verdict_of_holds hshared, readOwn_of_error hown hneeded]
    rfl
  | same hshared hown hsame =>
    rw [verdict_of_holds hshared, readOwn_of_ok hown.read, Except.ok_bind,
      agrees_of_json hown.parse, hsame]
    rfl
  | outdated hshared hown hsync =>
    subst hsync
    rw [verdict_of_holds hshared]
    cases hown with
    | absent hread =>
      rw [readOwn_of_absent hread]
      rfl
    | noJson hread hparse =>
      rw [readOwn_of_ok hread, Except.ok_bind, agrees_of_noJson hparse]
      rfl
    | differs hown hdiffers =>
      rw [readOwn_of_ok hown.read, Except.ok_bind, agrees_of_json hown.parse, hdiffers]
      rfl
  | ownNoJson hshared hown hparse hsync =>
    rw [verdict_of_holds hshared, readOwn_of_ok hown, Except.ok_bind, agrees_of_noJson hparse,
      hsync]
    rfl
  | differs hshared hown hdiffers hsync =>
    rw [verdict_of_holds hshared, readOwn_of_ok hown.read, Except.ok_bind,
      agrees_of_json hown.parse, hdiffers, hsync]
    rfl

/-- Some row of the table holds. -/
private theorem exists_finds (m : Machine) (own shared : Path) (sync : Bool) :
    ∃ r, Finds m own shared sync r := by
  -- The shared file is read first, so the cases follow the order of the two reads.
  cases hshared : m.read shared with
  | error e => exact ⟨_, .sharedUnreadable hshared⟩
  | ok bytes =>
    cases hparse : parse bytes with
    | error e => exact ⟨_, .sharedNoJson hshared hparse⟩
    | ok value =>
      have hholds : Holds m shared bytes value := ⟨hshared, hparse⟩
      cases hown : m.read own with
      | error e =>
        by_cases habsent : e = .notFound ∧ sync = true
        · obtain ⟨rfl, hsync⟩ := habsent
          exact ⟨_, .outdated hholds (.absent hown) hsync⟩
        · exact ⟨_, .ownUnreadable hholds hown fun he => by simpa [he] using habsent⟩
      | ok ownBytes =>
        cases hownParse : parse ownBytes with
        | error e =>
          cases sync with
          | true => exact ⟨_, .outdated hholds (.noJson hown hownParse) rfl⟩
          | false => exact ⟨_, .ownNoJson hholds hown hownParse rfl⟩
        | ok v =>
          have hownHolds : Holds m own ownBytes v := ⟨hown, hownParse⟩
          cases hequivalent : v.equivalent value with
          | true => exact ⟨_, .same hholds hownHolds hequivalent⟩
          | false =>
            cases sync with
            | true => exact ⟨_, .outdated hholds (.differs hownHolds hequivalent) rfl⟩
            | false => exact ⟨_, .differs hholds hownHolds hequivalent rfl⟩

/-- The verdict is what the table says. -/
theorem finds_verdict (m : Machine) (own shared : Path) (sync : Bool) :
    Finds m own shared sync (verdict m own shared sync) := by
  obtain ⟨r, hr⟩ := exists_finds m own shared sync
  rwa [verdict_of_finds hr]

/-- The table has one verdict, which is the one that the check comes to. -/
theorem finds_iff {r : Except Error Verdict} :
    Finds m own shared sync r ↔ r = verdict m own shared sync :=
  ⟨fun h => (verdict_of_finds h).symm, fun h => h ▸ finds_verdict m own shared sync⟩

end Ci

end Suite
