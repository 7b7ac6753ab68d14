/-!
# UTF-8

Bytes read as text. `decode?` accepts exactly well-formed UTF-8; `decodeLossy` reads any bytes and
writes one U+FFFD for each longest run of bytes that begins a character and is then broken off.
-/

namespace Suite.Text

/-- The bytes of a text. -/
def encode (s : String) : List UInt8 := s.toList.flatMap String.utf8EncodeChar

/-- What a first byte announces: how many bytes follow it, the least and greatest value of the next
one, and the bits it gives to the code point. -/
structure Lead where
  owed : Nat
  low : UInt8
  high : UInt8
  bits : Nat

/-- What the byte announces as the first one of a character, if it can be one. -/
def lead? (b : UInt8) : Option Lead :=
  if b < 0x80 then some ⟨0, 0x80, 0xbf, b.toNat⟩
  else if 0xc2 ≤ b && b ≤ 0xdf then some ⟨1, 0x80, 0xbf, b.toNat - 0xc0⟩
  else if b = 0xe0 then some ⟨2, 0xa0, 0xbf, 0⟩
  else if b = 0xed then some ⟨2, 0x80, 0x9f, 0xd⟩
  else if 0xe1 ≤ b && b ≤ 0xef then some ⟨2, 0x80, 0xbf, b.toNat - 0xe0⟩
  else if b = 0xf0 then some ⟨3, 0x90, 0xbf, 0⟩
  else if 0xf1 ≤ b && b ≤ 0xf3 then some ⟨3, 0x80, 0xbf, b.toNat - 0xf0⟩
  else if b = 0xf4 then some ⟨3, 0x80, 0x8f, 4⟩
  else none

/-- Where a reader of bytes stands: between characters, or inside one. -/
inductive Reading
  | between
  | inside (expected : Lead)

/-- What one more byte inside a character leads to: the state after it and the character if it is
complete, or nothing if the byte cannot stand there. -/
def Reading.more? (expected : Lead) (b : UInt8) : Option (Reading × List Char) :=
  if expected.low ≤ b && b ≤ expected.high then
    let bits := expected.bits * 64 + (b.toNat - 0x80)
    if expected.owed ≤ 1 then some (.between, [Char.ofNat bits])
    else some (.inside ⟨expected.owed - 1, 0x80, 0xbf, bits⟩, [])
  else none

/-- What a byte between characters leads to. -/
def Reading.start? (b : UInt8) : Option (Reading × List Char) :=
  (lead? b).map fun l =>
    if l.owed = 0 then (.between, [Char.ofNat l.bits]) else (.inside l, [])

/-- The characters of the bytes from a state on, in reverse order in front of `acc`; nothing if the
bytes are not well-formed. -/
def decodeFrom? (acc : List Char) : Reading → List UInt8 → Option (List Char)
  | .between, [] => some acc
  | .inside _, [] => none
  | .between, b :: rest =>
    match Reading.start? b with
    | some (next, out) => decodeFrom? (out ++ acc) next rest
    | none => none
  | .inside l, b :: rest =>
    match Reading.more? l b with
    | some (next, out) => decodeFrom? (out ++ acc) next rest
    | none => none

/-- The text of well-formed bytes. -/
def decode? (bytes : List UInt8) : Option String :=
  (decodeFrom? [] .between bytes).map fun cs => String.ofList cs.reverse

/-- The character that stands for bytes that are no text. -/
def replacement : Char := '\ufffd'

/-- What a byte between characters leads to when no byte is refused. -/
def Reading.startLossy (b : UInt8) : Reading × List Char :=
  (Reading.start? b).getD (.between, [replacement])

/-- The characters of any bytes from a state on, in reverse order in front of `acc`. -/
def decodeLossyFrom (acc : List Char) : Reading → List UInt8 → List Char
  | .between, [] => acc
  | .inside _, [] => replacement :: acc
  | .between, b :: rest =>
    let (next, out) := Reading.startLossy b
    decodeLossyFrom (out ++ acc) next rest
  | .inside l, b :: rest =>
    match Reading.more? l b with
    | some (next, out) => decodeLossyFrom (out ++ acc) next rest
    | none =>
      let (next, out) := Reading.startLossy b
      decodeLossyFrom (out ++ replacement :: acc) next rest

/-- The text of any bytes. -/
def decodeLossy (bytes : List UInt8) : String :=
  String.ofList (decodeLossyFrom [] .between bytes).reverse

end Suite.Text
