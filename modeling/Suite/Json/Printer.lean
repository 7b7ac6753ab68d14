import Suite.Json.Value

/-!
# Values as text

`Value.pretty` writes a value over several lines, each level indented by two more spaces;
`Value.line` writes it on one line without spaces.
-/

namespace Suite.Json

/-- Floating-point numbers stand without exponent from `0.00001` up to sixteen whole digits; an
exponent has a sign and no more digits than it needs. -/
def numberStyle : Binary64.DecimalStyle := ⟨-5, 15, 1⟩

/-- The text of a number. -/
def Number.text : Number → String
  | .integer n => toString n
  | .float x => x.text numberStyle

/-- A character inside a quoted text: quotes, backslashes and controls are escaped. -/
def escaped (c : Char) : List Char :=
  if c = '"' then ['\\', '"']
  else if c = '\\' then ['\\', '\\']
  else if c = '\n' then ['\\', 'n']
  else if c = '\r' then ['\\', 'r']
  else if c = '\t' then ['\\', 't']
  else if c = '\x08' then ['\\', 'b']
  else if c = '\x0c' then ['\\', 'f']
  else if c.toNat < 0x20 then
    ['\\', 'u', '0', '0', Nat.digitChar (c.toNat / 16), Nat.digitChar (c.toNat % 16)]
  else [c]

/-- A text in quotes. -/
def quoted (s : String) : String := String.ofList ('"' :: s.toList.flatMap escaped ++ ['"'])

/-- A line feed and the indentation of a level. -/
def newline (level : Nat) : String := String.ofList ('\n' :: List.replicate (2 * level) ' ')

namespace Value

mutual

/-- The value over several lines, the first of which is not indented. -/
def prettyAt (level : Nat) : Value → String
  | .null => "null"
  | .bool b => if b then "true" else "false"
  | .number n => n.text
  | .string s => quoted s
  | .array [] => "[]"
  | .array items =>
    "[" ++ ",".intercalate (prettyItems (level + 1) items) ++ newline level ++ "]"
  | .object [] => "\x7b\x7d"
  | .object members =>
    "\x7b" ++ ",".intercalate (prettyMembers (level + 1) members) ++ newline level ++ "\x7d"

/-- Each item on a line of its own. -/
def prettyItems (level : Nat) : List Value → List String
  | [] => []
  | v :: rest => (newline level ++ v.prettyAt level) :: prettyItems level rest

/-- Each member on a line of its own. -/
def prettyMembers (level : Nat) : List (String × Value) → List String
  | [] => []
  | (name, v) :: rest =>
    (newline level ++ quoted name ++ ": " ++ v.prettyAt level) :: prettyMembers level rest

end

/-- The value over several lines. -/
def pretty (v : Value) : String := v.prettyAt 0

mutual

/-- The value on one line. -/
def line : Value → String
  | .null => "null"
  | .bool b => if b then "true" else "false"
  | .number n => n.text
  | .string s => quoted s
  | .array items => "[" ++ ",".intercalate (lineItems items) ++ "]"
  | .object members => "\x7b" ++ ",".intercalate (lineMembers members) ++ "\x7d"

/-- Each item on the line. -/
def lineItems : List Value → List String
  | [] => []
  | v :: rest => v.line :: lineItems rest

/-- Each member on the line. -/
def lineMembers : List (String × Value) → List String
  | [] => []
  | (name, v) :: rest => (quoted name ++ ":" ++ v.line) :: lineMembers rest

end

end Value

end Suite.Json
