import Suite.Digest.Sha256
import Suite.Error
import Suite.Host.Machine

/-!
# Checking the copy of a shared file

A suite keeps its own copy of a file of the platform. `Ci.check` compares the two as JSON values,
whatever their spelling; when it may write, a copy that differs, is no JSON or is not there is
replaced by the bytes of the shared file.
-/

namespace Suite

namespace Json.Value

mutual

/-- The value with the members of objects in the order of their names; of two members with one name
the later one stays. -/
def canonical : Value → Value
  | .array items => .array (canonicalItems items)
  | .object members => .object (Keyed.ofList (canonicalMembers members) : Table Value).toList
  | v => v

/-- Each item in canonical form. -/
def canonicalItems : List Value → List Value
  | [] => []
  | v :: rest => v.canonical :: canonicalItems rest

/-- Each member with its value in canonical form. -/
def canonicalMembers : List (String × Value) → List (String × Value)
  | [] => []
  | (name, v) :: rest => (name, v.canonical) :: canonicalMembers rest

end

/-- The values are the same whatever the order of the members of objects. -/
def equivalent (v w : Value) : Bool := v.canonical.same w.canonical

theorem equivalent_refl (v : Value) : v.equivalent v = true := same_refl _

end Json.Value

namespace Ci

/-- What a check that succeeded found. -/
structure Verification where
  own : Path
  shared : Path
  /-- The digest of the shared file. -/
  digest : String
  /-- The copy was replaced. -/
  synced : Bool
  deriving DecidableEq, Repr

/-- The value that bytes of JSON are. -/
def parse (bytes : List UInt8) : Except Json.Error Json.Value :=
  Json.Decoder.ofBytes Json.Decoder.value bytes

/-- The bytes of a file, or nothing if it is not there and need not be. -/
def readOwn (m : Host.Machine) (own : Path) (sync : Bool) : Except Error (Option (List UInt8)) :=
  match m.read own with
  | .ok bytes => .ok (some bytes)
  | .error .notFound => if sync then .ok none else .error (.io .notFound)
  | .error e => .error (.io e)

/-- The copy says the same as a value. One that is not there does not; what is no JSON does not, if
the copy may be replaced, and is an error otherwise. -/
def agrees (ownBytes : Option (List UInt8)) (value : Json.Value) (sync : Bool) :
    Except Error Bool :=
  match ownBytes.map parse with
  | none => .ok false
  | some (.ok v) => .ok (v.equivalent value)
  | some (.error e) => if sync then .ok false else .error (.json e)

/-- What the check of a copy comes to. -/
inductive Verdict
  /-- The copy says the same as the shared file. -/
  | same (digest : String)
  /-- The copy is to be replaced by these bytes. -/
  | replace (bytes : List UInt8) (digest : String)
  deriving DecidableEq, Repr

/-- What the check of a copy comes to, from the files as they are. -/
def verdict (m : Host.Machine) (own shared : Path) (sync : Bool) : Except Error Verdict := do
  let sharedBytes ← (m.read shared).mapError Error.io
  let value ← (parse sharedBytes).mapError Error.json
  let digest := Sha256.hex sharedBytes
  let ownBytes ← readOwn m own sync
  if ← agrees ownBytes value sync then return .same digest
  else if sync then return .replace sharedBytes digest
  else throw (.ciMismatch own shared ((ownBytes.map Sha256.hex).getD "") digest)

/-- Checks the copy at `own` against the file at `shared`, and replaces it if it may and must. Gives
the machine afterwards too. -/
def check (m : Host.Machine) (own shared : Path) (sync : Bool) :
    Except Error Verification × Host.Machine :=
  match verdict m own shared sync with
  | .error e => (.error e, m)
  | .ok (.same digest) => (.ok ⟨own, shared, digest, false⟩, m)
  | .ok (.replace bytes digest) =>
    match m.write own bytes with
    | .error e => (.error (.io e), m)
    | .ok m => (.ok ⟨own, shared, digest, true⟩, m)

end Ci

end Suite
