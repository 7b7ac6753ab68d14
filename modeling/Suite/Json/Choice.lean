import Suite.Json.Decoder

/-!
# Choices

A choice is one of several names. It is written as a text, and read from a text or from an object
whose only member has the name and the value null. A `Tagged` value is an object with a member that
holds the name; what it holds beside the name is read first and looked at afterwards.
-/

namespace Suite.Json

/-- The names of a choice, each with what it stands for. -/
structure Choice (α : Type) where
  variants : List (String × α)

namespace Choice

variable {α : Type}

/-- What a name stands for. -/
def find (c : Choice α) (name : String) : Except Error α :=
  match c.variants.lookup name with
  | some x => .ok x
  | none => .error (.mismatch (.unknownVariant name (c.variants.map (·.1))))

/-- What the name in a text stands for. -/
def ofName (c : Choice α) (s : Source) : Except Error α := do
  c.find (← Decoder.text "variant identifier" maxNesting s)

/-- Nothing but null. -/
def unit : Source → Except Error Unit
  | .null => .ok ()
  | s => s.unexpected "unit"

/-- The choice for a text or for an object with one member, whose name must stand in quotes. -/
def decode (c : Choice α) : Decoder α
  | _, .text q => c.ofName (.text q)
  | room, .object members ending => enter room fun _ =>
    match members, ending with
    | [], some f => .error (.fault f)
    | [], none => .error (.fault .malformed)
    | (.text key, value) :: rest, ending => do
      let x ← c.ofName (.text key)
      unit value
      if rest ≠ [] then throw (.fault .malformed)
      noFault ending
      return x
    | (_, _) :: _, _ => .error (.fault .malformed)
  | _, .absent => .error (.fault .truncated)
  | _, _ => .error (.fault .malformed)

/-- The name that stands for a value, the first one if there are several. -/
def name [DecidableEq α] (c : Choice α) (x : α) : String :=
  match c.variants.find? (fun v => v.2 = x) with
  | some v => v.1
  | none => ""

/-- The codec of a choice. -/
def codec [DecidableEq α] (c : Choice α) : Codec α where
  encode x := .string (c.name x)
  decode := c.decode

end Choice

/-- What a tagged value holds beside its name. -/
inductive Content
  | items (xs : List Value)
  | members (ms : List (String × Value))
  deriving Repr

/-- A name and what is held beside it. -/
structure Tagged (α : Type) where
  tag : α
  content : Content

namespace Tagged

variable {α : Type}

/-- The members of an object: the one called `field` is the name, all others are kept. -/
def readAll (c : Choice α) (field : String) (room : Nat) :
    Option α → List (Source × Source) → Except Error (Option α × List (String × Value))
  | tag, [] => .ok (tag, [])
  | tag, (key, s) :: rest => do
    let name ← key.name
    if name = field then
      if tag.isSome then throw (.mismatch (.duplicateField field))
      let x ← c.ofName s
      readAll c field room (some x) rest
    else
      let v ← Decoder.value room s
      let (tag, ms) ← readAll c field room tag rest
      return (tag, (name, v) :: ms)

/-- The tagged value for an object, or for an array that begins with the name. -/
def decode (c : Choice α) (field : String) (expected : String) : Decoder (Tagged α)
  | room, .object members ending => enter room fun room => do
    let (tag, ms) ← readAll c field room none members
    noFault ending
    match tag with
    | some x => return ⟨x, .members ms⟩
    | none => throw (.mismatch (.missingField field))
  | room, .array items ending => enter room fun room => do
    match items with
    | [] =>
      noFault ending
      throw (.mismatch (.missingField field))
    | s :: rest =>
      let x ← c.ofName s
      let xs ← Decoder.values room rest
      noFault ending
      return ⟨x, .items xs⟩
  | _, s => s.unexpected expected

end Tagged

/-- A value as what a message names. -/
def Value.found : Value → Found
  | .null => .null
  | .bool b => .bool b
  | .number n => .number n
  | .string s => .text s
  | .array _ => .sequence
  | .object _ => .map

/-- A value that must be a text. -/
def Value.asText : Value → Except Error String
  | .string s => .ok s
  | v => .error (.mismatch (.wrongType v.found "a string"))

namespace Content

/-- Nothing is expected beside the name: members are ignored, items are not. -/
def nothing : Content → Except Error Unit
  | .members _ | .items [] => .ok ()
  | .items xs => .error (.mismatch (.wrongLength xs.length "0 elements in sequence"))

/-- The only member that counts, of those that come one after the other. -/
def memberText (name : String) : Option String → List (String × Value) → Except Error String
  | some x, [] => .ok x
  | none, [] => .error (.mismatch (.missingField name))
  | found, (key, v) :: rest =>
    if key = name then
      match found with
      | some _ => .error (.mismatch (.duplicateField name))
      | none => do memberText name (some (← v.asText)) rest
    else memberText name found rest

/-- One text is expected beside the name: a member called `name`, or the only item. -/
def oneText (name shape : String) : Content → Except Error String
  | .members ms => memberText name none ms
  | .items [] => .error (.mismatch (.wrongLength 0 shape))
  | .items (v :: rest) => do
    let x ← v.asText
    if rest ≠ [] then
      throw (.mismatch (.wrongLength (rest.length + 1) "1 element in sequence"))
    return x

end Content

end Suite.Json
