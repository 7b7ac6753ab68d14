import Suite.Text.Hidden

/-!
# Quoted text

A text in double quotes with everything escaped that would not show: how messages cite names and
values. Quotes and backslashes get a backslash, the common controls their letter, and every other
character without a glyph of its own its code point in braces.
-/

namespace Suite.Text

/-- The digits of a number in base sixteen, in lower case and without leading zeros. -/
def hexDigits (n : Nat) : List Char := Nat.toDigits 16 n

/-- One character of a quoted text. -/
def quotedChar (c : Char) : List Char :=
  if c = '\x00' then ['\\', '0']
  else if c = '\t' then ['\\', 't']
  else if c = '\n' then ['\\', 'n']
  else if c = '\r' then ['\\', 'r']
  else if c = '"' then ['\\', '"']
  else if c = '\\' then ['\\', '\\']
  else if c.toNat < 0x20 || c.toNat = 0x7f || isHidden c then
    ['\\', 'u', '\x7b'] ++ hexDigits c.toNat ++ ['\x7d']
  else [c]

/-- The text in quotes. -/
def quote (s : String) : String :=
  String.ofList ('"' :: s.toList.flatMap quotedChar ++ ['"'])

/-- The quoted texts of a list, separated by commas. -/
def quoteAll (xs : List String) : String := ", ".intercalate (xs.map quote)

end Suite.Text
