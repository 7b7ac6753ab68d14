import Suite.Text.Os

/-!
# Texts of octets

A text of octets has only characters below U+0100, each of which stands for one byte. Programs that
cut, count and compare bytes work on such texts, in which bytes that are no UTF-8 are not lost.
-/

namespace Suite

namespace Text

/-- The character that stands for a byte. -/
def octet (b : UInt8) : Char := Char.ofNat b.toNat

/-- The byte that a character stands for. -/
def byte (c : Char) : UInt8 := c.toNat.toUInt8

/-- Bytes as characters. -/
def ofBytes (bs : List UInt8) : List Char := bs.map octet

/-- The bytes that characters stand for. -/
def bytes (s : List Char) : List UInt8 := s.map byte

/-- The octets of a text. -/
def octets (s : String) : String := String.ofList (ofBytes (encode s))

/-- The text that octets are, as far as they are one. -/
def ofOctets (s : String) : String := decodeLossy (bytes s.toList)

end Text

/-- The octets of a text of the operating system. -/
def OsText.octets (t : OsText) : String := String.ofList (Text.ofBytes t.bytes)

/-- The text of the operating system that octets are. -/
def OsText.ofOctets (s : String) : OsText := ⟨Text.bytes s.toList⟩

namespace Text

/-- The character at the front of octets, and how many of them it takes; nothing if there is
none. -/
def firstCharacter? (s : List Char) : Option (Char × Nat) :=
  [1, 2, 3, 4].findSome? fun count =>
    match (decode? (bytes (s.take count))).map String.toList with
    | some [c] => some (c, count)
    | _ => none

/-- How many characters octets are, each that belongs to none counted by itself; `steps` bounds the
recursion. -/
def widthFrom : Nat → List Char → Nat
  | 0, _ => 0
  | _, [] => 0
  | steps + 1, s => widthFrom steps (s.drop ((firstCharacter? s).map (·.2) |>.getD 1)) + 1

/-- How many columns octets take. -/
def width (s : String) : Nat := widthFrom s.length s.toList

end Text

end Suite
