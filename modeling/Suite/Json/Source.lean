import Suite.Json.Value

/-!
# JSON text as far as it can be read

A `Source` is the outline of a JSON text in the order of the text, with the places where it stops
being JSON marked. It holds no more than what the text says: whether a fault matters depends on what
a decoder asks for, since a value that nobody asks for is only checked for its form.
-/

namespace Suite.Json

/-- Why a text is not JSON. -/
inductive Fault
  /-- The text ends too early. -/
  | truncated
  /-- Something stands where it must not. -/
  | malformed
  deriving DecidableEq, Repr

/-- What stands in quotes: a text, or characters that are none. -/
inductive Quoted
  | text (s : String)
  /-- `whenRead` is the fault for whoever wants the text; `whenSkipped` the one, if any, for whoever
  only looks for its end. -/
  | broken (whenRead : Fault) (whenSkipped : Option Fault)
  deriving DecidableEq, Repr

/-- A JSON text in text order. -/
inductive Source
  | null
  | bool (b : Bool)
  | number (n : Number)
  | text (q : Quoted)
  /-- The items read, and the fault in place of the closing bracket if there is one. -/
  | array (items : List Source) (ending : Option Fault)
  /-- The members read, and the fault in place of the closing brace if there is one. Only the first
  name can be something else than a text in quotes, and a name can be absent where the text ends
  after a comma; nothing is read after such a name. -/
  | object (members : List (Source × Source)) (ending : Option Fault)
  /-- The text ends where a value should start. -/
  | absent
  /-- A word or a number that is broken; the faults are those of `Quoted.broken`. -/
  | broken (whenRead : Fault) (whenSkipped : Option Fault)
  deriving Inhabited, Repr

/-- A whole text: one value, and perhaps more than blanks after it. -/
structure Document where
  root : Source
  surplus : Bool
  deriving Repr

/-- The fault of a quoted text for whoever skips it. -/
def Quoted.skipFault? : Quoted → Option Fault
  | .text _ => none
  | .broken _ skipped => skipped

namespace Source

mutual

/-- The first fault of a value for whoever skips it. -/
def skipFault? : Source → Option Fault
  | .null | .bool _ | .number _ => none
  | .text q => q.skipFault?
  | .array items ending => (skipItems? items).or ending
  | .object members ending => (skipMembers? members).or ending
  | .absent => some .truncated
  | .broken _ skipped => skipped

/-- The first fault of a list of items for whoever skips them. -/
def skipItems? : List Source → Option Fault
  | [] => none
  | x :: rest => x.skipFault?.or (skipItems? rest)

/-- The first fault of a list of members for whoever skips them. -/
def skipMembers? : List (Source × Source) → Option Fault
  | [] => none
  | (.text name, x) :: rest => name.skipFault?.or (x.skipFault?.or (skipMembers? rest))
  | (.absent, _) :: _ => some .truncated
  | (_, _) :: _ => some .malformed

end

mutual

/-- A value as a text without faults. -/
def ofValue : Value → Source
  | .null => .null
  | .bool b => .bool b
  | .number n => .number n
  | .string s => .text (.text s)
  | .array items => .array (ofItems items) none
  | .object members => .object (ofMembers members) none

/-- Values as items of a text without faults. -/
def ofItems : List Value → List Source
  | [] => []
  | v :: rest => ofValue v :: ofItems rest

/-- Members of a value as members of a text without faults. -/
def ofMembers : List (String × Value) → List (Source × Source)
  | [] => []
  | (name, v) :: rest => (.text (.text name), ofValue v) :: ofMembers rest

end

mutual

/-- A text that a value stands for has no fault. -/
theorem skipFault?_ofValue (v : Value) : (ofValue v).skipFault? = none := by
  cases v with
  | null => simp [ofValue, skipFault?]
  | bool b => simp [ofValue, skipFault?]
  | number n => simp [ofValue, skipFault?]
  | string s => simp [ofValue, skipFault?, Quoted.skipFault?]
  | array items => simp [ofValue, skipFault?, skipItems?_ofItems items]
  | object members => simp [ofValue, skipFault?, skipMembers?_ofMembers members]

theorem skipItems?_ofItems (xs : List Value) : skipItems? (ofItems xs) = none := by
  match xs with
  | [] => simp [ofItems, skipItems?]
  | x :: rest => simp [ofItems, skipItems?, skipFault?_ofValue x, skipItems?_ofItems rest]

theorem skipMembers?_ofMembers (xs : List (String × Value)) :
    skipMembers? (ofMembers xs) = none := by
  match xs with
  | [] => simp [ofMembers, skipMembers?]
  | (k, x) :: rest =>
    simp [ofMembers, skipMembers?, Quoted.skipFault?, skipFault?_ofValue x,
      skipMembers?_ofMembers rest]

end

end Source

end Suite.Json
