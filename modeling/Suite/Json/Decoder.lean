import Suite.Json.Printer
import Suite.Json.Reader
import Suite.Keyed
import Suite.Text.Quoted

/-!
# Decoding JSON text

A `Decoder` takes the outline of a JSON text to a value of its own type. It asks for things in the
order of the text, so the error it gives is the first one of the text: a place where the text is not
JSON, or one where it is JSON of the wrong shape. A `Codec` is a decoder with the encoder beside it.
-/

namespace Suite.Json

/-- What stands where something else was expected. -/
inductive Found
  | null
  | bool (b : Bool)
  | number (n : Number)
  | text (s : String)
  | sequence
  | map
  deriving DecidableEq, Repr

/-- How a message names what stands there. -/
def Found.label : Found → String
  | .null => "null"
  | .bool b => "boolean `" ++ (if b then "true" else "false") ++ "`"
  | .number (.integer n) => "integer `" ++ toString n ++ "`"
  | .number (.float x) => "floating point `" ++ x.text numberStyle ++ "`"
  | .text s => "string " ++ Text.quote s
  | .sequence => "sequence"
  | .map => "map"

/-- Why JSON has the wrong shape. -/
inductive Mismatch
  | wrongType (found : Found) (expected : String)
  | wrongValue (found : Found) (expected : String)
  | wrongLength (length : Nat) (expected : String)
  | missingField (name : String)
  | duplicateField (name : String)
  | unknownVariant (name : String) (known : List String)
  /-- A text that its reader refuses, for the reason given. -/
  | refused (reason : String)
  deriving DecidableEq, Repr

/-- The names a list offers to choose from. -/
def alternatives : List String → String
  | [a] => "`" ++ a ++ "`"
  | [a, b] => "`" ++ a ++ "` or `" ++ b ++ "`"
  | names => "one of " ++ ", ".intercalate (names.map fun n => "`" ++ n ++ "`")

/-- The message for a mismatch. -/
def Mismatch.message : Mismatch → String
  | .wrongType found expected => "invalid type: " ++ found.label ++ ", expected " ++ expected
  | .wrongValue found expected => "invalid value: " ++ found.label ++ ", expected " ++ expected
  | .wrongLength n expected => "invalid length " ++ toString n ++ ", expected " ++ expected
  | .missingField name => "missing field `" ++ name ++ "`"
  | .duplicateField name => "duplicate field `" ++ name ++ "`"
  | .unknownVariant name known =>
    "unknown variant `" ++ name ++ "`, expected " ++ alternatives known
  | .refused reason => reason

/-- Why a text could not be decoded. -/
inductive Error
  | fault (f : Fault)
  | mismatch (m : Mismatch)
  deriving DecidableEq, Repr

/-- A reader of one value, which may enter as many more arrays and objects inside each other as its
first argument says. -/
abbrev Decoder (α : Type) := Nat → Source → Except Error α

/-- How many arrays and objects may stand inside each other. -/
def maxNesting : Nat := 127

/-- An encoder and a decoder of one type. -/
structure Codec (α : Type) where
  encode : α → Value
  decode : Decoder α

/-- A quoted text, for whoever wants it. -/
def Quoted.get : Quoted → Except Error String
  | .text s => .ok s
  | .broken whenRead _ => .error (.fault whenRead)

/-- Nothing, unless there is a fault. -/
def noFault : Option Fault → Except Error Unit
  | none => .ok ()
  | some f => .error (.fault f)

namespace Source

/-- What stands here, as far as a reader looks who expected something else. -/
def found : Source → Except Error Found
  | .null => .ok .null
  | .bool b => .ok (.bool b)
  | .number n => .ok (.number n)
  | .text q => q.get.map .text
  | .array _ _ => .ok .sequence
  | .object _ _ => .ok .map
  | .absent => .error (.fault .truncated)
  | .broken whenRead _ => .error (.fault whenRead)

/-- The error of a reader who expected something else. -/
def unexpected {α : Type} (s : Source) (expected : String) : Except Error α := do
  throw (.mismatch (.wrongType (← s.found) expected))

/-- The name of a member. -/
def name : Source → Except Error String
  | .text q => q.get
  | .absent => .error (.fault .truncated)
  | _ => .error (.fault .malformed)

/-- A value that nobody asked for. -/
def skip (s : Source) : Except Error Unit := noFault s.skipFault?

end Source

/-- One level further in, if there is room for it. -/
def enter {α : Type} (room : Nat) (inside : Nat → Except Error α) : Except Error α :=
  match room with
  | 0 => .error (.fault .malformed)
  | room + 1 => inside room

namespace Decoder

/-- The value a decoder has for a whole text. -/
def run {α : Type} (d : Decoder α) (doc : Document) : Except Error α := do
  let x ← d maxNesting doc.root
  if doc.surplus then throw (.fault .malformed)
  return x

/-- The value a decoder has for the bytes of a text. -/
def ofBytes {α : Type} (d : Decoder α) (bytes : List UInt8) : Except Error α :=
  d.run (Document.read bytes)

/-- The value a decoder has for a text. -/
def ofText {α : Type} (d : Decoder α) (s : String) : Except Error α := d.ofBytes (Text.encode s)

/-- A text, under the name that a message gives to what was expected. -/
def text (expected : String) : Decoder String
  | _, .text q => q.get
  | _, s => s.unexpected expected

/-- A text that must also please `accept`, which may give a reason why not. -/
def accepted {α : Type} (expected : String) (accept : String → Except String α) : Decoder α :=
  fun room s => do
    match accept (← text expected room s) with
    | .ok x => return x
    | .error reason => throw (.mismatch (.refused reason))

/-- A truth value. -/
def bool : Decoder Bool
  | _, .bool b => .ok b
  | _, s => s.unexpected "a boolean"

/-- A natural number of sixty-four bits. -/
def natural : Decoder Nat
  | _, .number (.integer n) =>
    if 0 ≤ n then .ok n.toNat
    else .error (.mismatch (.wrongValue (.number (.integer n)) "u64"))
  | _, s => s.unexpected "u64"

/-- A value or nothing at all. -/
def optional {α : Type} (d : Decoder α) : Decoder (Option α)
  | _, .null => .ok none
  | room, s => (d room s).map some

/-- A list of values. -/
def list {α : Type} (d : Decoder α) : Decoder (List α)
  | room, .array items ending => enter room fun room => do
    let xs ← items.mapM (d room)
    noFault ending
    return xs
  | _, s => s.unexpected "a sequence"

/-- The members of a table that come one after the other; of two with one name the later one
stays. -/
def entries {α : Type} (d : Decoder α) (room : Nat) :
    Table α → List (Source × Source) → Except Error (Table α)
  | table, [] => .ok table
  | table, (key, value) :: rest => do
    let name ← key.name
    let x ← d room value
    entries d room (table.insert (name, x)) rest

/-- A table of values. -/
def table {α : Type} (d : Decoder α) : Decoder (Table α)
  | room, .object members ending => enter room fun room => do
    let t ← entries d room Keyed.empty members
    noFault ending
    return t
  | _, s => s.unexpected "a map"

mutual

/-- Any value at all. -/
def value : Nat → Source → Except Error Value
  | _, .null => .ok .null
  | _, .bool b => .ok (.bool b)
  | _, .number n => .ok (.number n)
  | _, .text q => q.get.map .string
  | 0, .array _ _ => .error (.fault .malformed)
  | room + 1, .array items ending => do
    let xs ← values room items
    noFault ending
    return .array xs
  | 0, .object _ _ => .error (.fault .malformed)
  | room + 1, .object members ending => do
    let ms ← members? room members
    noFault ending
    return .object ms
  | _, .absent => .error (.fault .truncated)
  | _, .broken whenRead _ => .error (.fault whenRead)

/-- Values that come one after the other. -/
def values : Nat → List Source → Except Error (List Value)
  | _, [] => .ok []
  | room, s :: rest => do
    let x ← value room s
    let xs ← values room rest
    return x :: xs

/-- Members that come one after the other, all of them kept. -/
def members? : Nat → List (Source × Source) → Except Error (List (String × Value))
  | _, [] => .ok []
  | room, (key, s) :: rest => do
    let name ← key.name
    let x ← value room s
    let ms ← members? room rest
    return (name, x) :: ms

end

end Decoder

namespace Codec

/-- The codec of a type whose values can be read as values of another one. -/
def via {α β : Type} (c : Codec α) (back : β → α) (of : α → β) : Codec β where
  encode x := c.encode (back x)
  decode room s := (c.decode room s).map of

/-- A text. -/
def text : Codec String := ⟨.string, Decoder.text "a string"⟩

/-- A place in the file system, written as a text. -/
def path : Codec String := ⟨.string, Decoder.text "path string"⟩

/-- A truth value. -/
def bool : Codec Bool := ⟨.bool, Decoder.bool⟩

/-- A natural number of sixty-four bits. -/
def natural : Codec Nat := ⟨.natural, Decoder.natural⟩

/-- A value or nothing at all. -/
def optional {α : Type} (c : Codec α) : Codec (Option α) where
  encode
    | none => .null
    | some x => c.encode x
  decode := c.decode.optional

/-- A list of values. -/
def list {α : Type} (c : Codec α) : Codec (List α) where
  encode xs := .array (xs.map c.encode)
  decode := c.decode.list

/-- A table of values, its members in the order of their names. -/
def table {α : Type} (c : Codec α) : Codec (Table α) where
  encode t := .object (t.toList.map fun m => (m.1, c.encode m.2))
  decode := c.decode.table

end Codec

end Suite.Json
