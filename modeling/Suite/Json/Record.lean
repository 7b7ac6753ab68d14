import Suite.Json.Decoder

/-!
# Records

`Fields` describes the fields of a record, each with a codec of its own and with the value that
stands in where a text leaves it out. A record is written as an object with one member per field,
in the order of the fields. It is read from an object whose members stand in any order, or from an
array that has the values in the order of the fields.
-/

namespace Suite.Json

/-- A field of a record. -/
structure Field (α : Type) where
  name : String
  codec : Codec α
  /-- The value of the field in an object without it. -/
  absent? : Option α
  /-- The value of the field in an array that is too short for it. -/
  short? : Option α

namespace Field

/-- A field that must be there. -/
def required {α : Type} (name : String) (codec : Codec α) : Field α := ⟨name, codec, none, none⟩

/-- A field with a value that stands in for it. -/
def withDefault {α : Type} (name : String) (codec : Codec α) (value : α) : Field α :=
  ⟨name, codec, some value, some value⟩

/-- A field that an object may leave out; an array may not. -/
def optional {α : Type} (name : String) (codec : Codec α) : Field (Option α) :=
  ⟨name, codec.optional, some none, none⟩

end Field

/-- One value of each type. -/
def Row : List Type → Type
  | [] => Unit
  | α :: αs => α × Row αs

/-- One value, or none yet, of each type. -/
def Slots : List Type → Type
  | [] => Unit
  | α :: αs => Option α × Slots αs

/-- The fields of a record, one for each type. -/
inductive Fields : List Type → Type 1
  | nil : Fields []
  | cons {α : Type} {αs : List Type} (head : Field α) (tail : Fields αs) : Fields (α :: αs)

namespace Fields

/-- How many fields there are. -/
def count {αs : List Type} : Fields αs → Nat
  | nil => 0
  | cons _ tail => tail.count + 1

/-- The members of a record. -/
def encode {αs : List Type} : Fields αs → Row αs → List (String × Value)
  | nil, _ => []
  | cons head tail, (x, row) => (head.name, head.codec.encode x) :: tail.encode row

/-- No value yet. -/
def unread {αs : List Type} : Fields αs → Slots αs
  | nil => ()
  | cons _ tail => (none, tail.unread)

/-- The slots after one more member: a member that is no field is skipped, and a field comes only
once. -/
def read {αs : List Type} (room : Nat) (name : String) (s : Source) :
    Fields αs → Slots αs → Except Error (Slots αs)
  | nil, _ => do
    s.skip
    return ()
  | cons head tail, (slot, slots) =>
    if name = head.name then
      match slot with
      | some _ => .error (.mismatch (.duplicateField name))
      | none => (head.codec.decode room s).map fun x => (some x, slots)
    else (tail.read room name s slots).map fun slots => (slot, slots)

/-- The slots after all members of an object. -/
def readAll {αs : List Type} (fs : Fields αs) (room : Nat) :
    Slots αs → List (Source × Source) → Except Error (Slots αs)
  | slots, [] => .ok slots
  | slots, (key, s) :: rest => do
    let name ← key.name
    let slots ← fs.read room name s slots
    fs.readAll room slots rest

/-- The record for filled slots. -/
def fill {αs : List Type} : Fields αs → Slots αs → Except Error (Row αs)
  | nil, _ => .ok ()
  | cons head tail, (slot, slots) =>
    match slot.or head.absent? with
    | some x => (tail.fill slots).map fun row => (x, row)
    | none => .error (.mismatch (.missingField head.name))

/-- The record for the items of an array; `done` items came before, and `shape` is what was
expected. -/
def ofItems {αs : List Type} (room : Nat) (ending : Option Fault) (shape : String) (done : Nat) :
    Fields αs → List Source → Except Error (Row αs)
  | nil, [] => noFault ending
  | nil, _ :: _ => .error (.fault .malformed)
  | cons head tail, s :: rest => do
    let x ← head.codec.decode room s
    let row ← tail.ofItems room ending shape (done + 1) rest
    return (x, row)
  | cons head tail, [] => do
    noFault ending
    match head.short? with
    | some x =>
      let row ← tail.ofItems room ending shape (done + 1) []
      return (x, row)
    | none => .error (.mismatch (.wrongLength done shape))

/-- What is expected of an array that stands for the record called `name`. -/
def shape {αs : List Type} (fs : Fields αs) (name : String) : String :=
  "struct " ++ name ++ " with " ++ toString fs.count ++
    (if fs.count = 1 then " element" else " elements")

/-- The record for a text. -/
def decode {αs : List Type} (fs : Fields αs) (name : String) : Decoder (Row αs)
  | room, .object members ending => enter room fun room => do
    let slots ← fs.readAll room fs.unread members
    noFault ending
    fs.fill slots
  | room, .array items ending => enter room fun room =>
    fs.ofItems room ending (fs.shape name) 0 items
  | _, s => s.unexpected ("struct " ++ name)

/-- The codec of a record called `name` with these fields. -/
def codec {αs : List Type} (fs : Fields αs) (name : String) : Codec (Row αs) where
  encode row := .object (fs.encode row)
  decode := fs.decode name

end Fields

end Suite.Json
