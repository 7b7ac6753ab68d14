import Suite.Json.Numeral
import Suite.Json.Source
import Suite.Text.Utf8

/-!
# Reading JSON text

`Document.read` takes bytes to the outline of the JSON text they are. It stops at the first place
that is wrong even for whoever only looks for the end of a value, and goes on after a number that is
too great or a text that is not Unicode.
-/

namespace Suite.Json

/-- What was read, and the bytes after it unless the reading stopped. -/
abbrev Read (α : Type) := α × Option (List UInt8)

/-- The byte of an ASCII character. -/
def byte (c : Char) : UInt8 := c.toNat.toUInt8

/-- The bytes without the blanks in front. -/
def skipBlanks (bytes : List UInt8) : List UInt8 :=
  bytes.dropWhile fun b => b = byte ' ' || b = byte '\n' || b = byte '\t' || b = byte '\r'

/-- The value of a digit in base sixteen. -/
def hexValue? (b : UInt8) : Option Nat :=
  if byte '0' ≤ b && b ≤ byte '9' then some (b.toNat - 0x30)
  else if byte 'a' ≤ b && b ≤ byte 'f' then some (b.toNat - 0x61 + 10)
  else if byte 'A' ≤ b && b ≤ byte 'F' then some (b.toNat - 0x41 + 10)
  else none

/-- The number of four digits in base sixteen. -/
def hexUnit? (a b c d : UInt8) : Option Nat := do
  some (((← hexValue? a) * 16 + (← hexValue? b)) * 256 + ((← hexValue? c) * 16 + (← hexValue? d)))

/-- The byte for a letter after a backslash. -/
def unescaped? (b : UInt8) : Option UInt8 :=
  if b = byte '"' || b = byte '\\' || b = byte '/' then some b
  else if b = byte 'b' then some 0x08
  else if b = byte 'f' then some 0x0c
  else if b = byte 'n' then some 0x0a
  else if b = byte 'r' then some 0x0d
  else if b = byte 't' then some 0x09
  else none

/-- Where a reader stands inside quotes. -/
structure Inside where
  /-- The bytes of the text so far, the last one first. -/
  bytes : List UInt8
  /-- The first half of a character written as two units, when the second is due. -/
  half : Option Nat
  /-- The first fault for whoever wants the text. -/
  fault : Option Fault

namespace Inside

/-- At the opening quote. -/
def start : Inside := ⟨[], none, none⟩

/-- No text any more. -/
def spoil (s : Inside) : Inside := ⟨s.bytes, none, s.fault.or (some .malformed)⟩

/-- One more byte, which must not come when half a character is due. -/
def push (s : Inside) (b : UInt8) : Inside :=
  if s.half.isSome then { s.spoil with bytes := b :: s.bytes } else { s with bytes := b :: s.bytes }

/-- One more character. -/
def pushChar (s : Inside) (c : Char) : Inside :=
  { s with bytes := (String.utf8EncodeChar c).reverse ++ s.bytes, half := none }

/-- One more unit of sixteen bits: a character, or the first or the second half of one. -/
def pushUnit (s : Inside) (n : Nat) : Inside :=
  let second := 0xdc00 ≤ n && n ≤ 0xdfff
  match s.half with
  | some first =>
    if second then s.pushChar (Char.ofNat (0x10000 + (first - 0xd800) * 0x400 + (n - 0xdc00)))
    else s.spoil
  | none =>
    if second then s.spoil
    else if 0xd800 ≤ n && n ≤ 0xdbff then { s with half := some n }
    else s.pushChar (Char.ofNat n)

/-- The text at the closing quote. -/
def close (s : Inside) : Quoted :=
  match s.fault, s.half, Text.decode? s.bytes.reverse with
  | some f, _, _ => .broken f none
  | none, none, some t => .text t
  | none, _, _ => .broken .malformed none

/-- What is there when the reading stops inside the quotes. -/
def stop (s : Inside) (f : Fault) : Quoted := .broken (s.fault.getD f) (some f)

/-- The text from inside the quotes on. -/
def read (s : Inside) : List UInt8 → Read Quoted
  | [] => (s.stop .truncated, none)
  | b :: rest =>
    if b = byte '"' then (s.close, some rest)
    else if b = byte '\\' then
      match rest with
      | [] => (s.stop .truncated, none)
      | e :: rest =>
        if e = byte 'u' then
          match rest with
          | p :: q :: r :: t :: rest =>
            match hexUnit? p q r t with
            | some n => (s.pushUnit n).read rest
            | none => (s.stop .malformed, none)
          | _ => (s.stop .truncated, none)
        else
          match unescaped? e with
          | some b => (s.push b).read rest
          | none => (s.stop .malformed, none)
    else if b < 0x20 then (s.stop .malformed, none)
    else (s.push b).read rest

end Inside

/-- The byte is a decimal digit. -/
def isDigit (b : UInt8) : Bool := byte '0' ≤ b && b ≤ byte '9'

/-- The digits in front, and the bytes after them. -/
def digits (bytes : List UInt8) : List Nat × List UInt8 :=
  ((bytes.takeWhile isDigit).map fun b => b.toNat - 0x30, bytes.dropWhile isDigit)

/-- Something that no value starts with, or that breaks a word or a number. -/
def wrong : Read Source := (.broken .malformed (some .malformed), none)

/-- The place where a digit is missing. -/
def noDigit (bytes : List UInt8) : Read Source :=
  if bytes.isEmpty then (.broken .truncated (some .malformed), none) else wrong

/-- A whole number: one that is too great is only a fault for whoever wants it. -/
def Numeral.source (n : Numeral) : Source :=
  match n.number? with
  | some v => .number v
  | none => .broken .malformed none

/-- The exponent of a number, if there is one, and with it the number. -/
def readExponent (negative : Bool) (whole fraction : List Nat) (bytes : List UInt8) : Read Source :=
  match bytes with
  | b :: rest =>
    if b = byte 'e' || b = byte 'E' then
      let (down, rest) := match rest with
        | c :: more =>
          if c = byte '-' then (true, more)
          else if c = byte '+' then (false, more)
          else (false, rest)
        | [] => (false, rest)
      match digits rest with
      | ([], after) => noDigit after
      | (ds, after) => (Numeral.source ⟨negative, whole, fraction, some (down, ds)⟩, some after)
    else (Numeral.source ⟨negative, whole, fraction, none⟩, some bytes)
  | [] => (Numeral.source ⟨negative, whole, fraction, none⟩, some bytes)

/-- The fraction of a number, if there is one, and all after it. -/
def readFraction (negative : Bool) (whole : List Nat) (bytes : List UInt8) : Read Source :=
  match bytes with
  | b :: rest =>
    if b = byte '.' then
      match digits rest with
      | ([], after) => noDigit after
      | (ds, after) => readExponent negative whole ds after
    else readExponent negative whole [] bytes
  | [] => readExponent negative whole [] bytes

/-- A number after its sign: no digit may follow a leading zero. -/
def readNumber (negative : Bool) (bytes : List UInt8) : Read Source :=
  match digits bytes with
  | ([], after) => noDigit after
  | (0 :: _ :: _, _) => wrong
  | (ds, after) => readFraction negative ds after

/-- The rest of a word. -/
def readWord (word : Source) : List Char → List UInt8 → Read Source
  | [], bytes => (word, some bytes)
  | _ :: _, [] => (.broken .truncated (some .truncated), none)
  | c :: more, b :: rest => if b = byte c then readWord word more rest else wrong

/-- A value that is neither an array nor an object and begins with the byte `b`. -/
def readScalar (b : UInt8) (rest : List UInt8) : Read Source :=
  if b = byte '"' then
    let (t, after) := Inside.start.read rest
    (.text t, after)
  else if b = byte '-' then readNumber true rest
  else if isDigit b then readNumber false (b :: rest)
  else if b = byte 'n' then readWord .null "ull".toList rest
  else if b = byte 't' then readWord (.bool true) "rue".toList rest
  else if b = byte 'f' then readWord (.bool false) "alse".toList rest
  else wrong

mutual

/-- A value; `fuel` bounds the steps. -/
def readValue : Nat → List UInt8 → Read Source
  | 0, _ => wrong
  | fuel + 1, bytes =>
    match skipBlanks bytes with
    | [] => (.absent, none)
    | b :: rest =>
      if b = byte '[' then
        let ((items, ending), after) := readItems fuel true rest
        (.array items ending, after)
      else if b = byte '\x7b' then
        let ((members, ending), after) := readMembers fuel true rest
        (.object members ending, after)
      else readScalar b rest

/-- The items of an array after its opening bracket or after an item. -/
def readItems : Nat → Bool → List UInt8 → Read (List Source × Option Fault)
  | 0, _, _ => (([], some .malformed), none)
  | fuel + 1, first, bytes =>
    match skipBlanks bytes with
    | [] => (([], some .truncated), none)
    | b :: rest =>
      if b = byte ']' then (([], none), some rest)
      else if !first && b ≠ byte ',' then (([], some .malformed), none)
      else
        match readValue fuel (if first then b :: rest else rest) with
        | (item, none) => (([item], some .malformed), none)
        | (item, some after) =>
          let ((items, ending), after) := readItems fuel false after
          ((item :: items, ending), after)

/-- The members of an object after its opening brace or after a member. -/
def readMembers : Nat → Bool → List UInt8 → Read (List (Source × Source) × Option Fault)
  | 0, _, _ => (([], some .malformed), none)
  | fuel + 1, first, bytes =>
    match skipBlanks bytes with
    | [] => (([], some .truncated), none)
    | b :: rest =>
      if b = byte '\x7d' then (([], none), some rest)
      else if first then readMember fuel (b :: rest)
      else if b = byte ',' then
        match skipBlanks rest with
        | [] => (([(.absent, .absent)], some .truncated), none)
        | c :: more =>
          if c = byte '"' then readMember fuel (c :: more) else (([], some .malformed), none)
      else (([], some .malformed), none)

/-- A member and all after it. -/
def readMember : Nat → List UInt8 → Read (List (Source × Source) × Option Fault)
  | 0, _ => (([], some .malformed), none)
  | fuel + 1, bytes =>
    match readValue fuel bytes with
    | (.text name, some after) =>
      match readMemberValue fuel after with
      | (value, none) => (([(.text name, value)], some .malformed), none)
      | (value, some after) =>
        let ((members, ending), after) := readMembers fuel false after
        (((.text name, value) :: members, ending), after)
    | (name, _) => (([(name, .broken .malformed (some .malformed))], some .malformed), none)

/-- The colon of a member and its value. -/
def readMemberValue : Nat → List UInt8 → Read Source
  | 0, _ => wrong
  | fuel + 1, bytes =>
    match skipBlanks bytes with
    | [] => (.absent, none)
    | b :: rest => if b = byte ':' then readValue fuel rest else wrong

end

/-- The text that the bytes are. A byte costs at most four steps. -/
def Document.read (bytes : List UInt8) : Document :=
  match readValue (4 * bytes.length + 4) bytes with
  | (root, none) => ⟨root, false⟩
  | (root, some after) => ⟨root, !(skipBlanks after).isEmpty⟩

end Suite.Json
