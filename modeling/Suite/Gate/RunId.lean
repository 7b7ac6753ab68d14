import Suite.Gate.Run

/-!
# Names for runs

A run gets a random identifier as its name: sixteen bytes, of which two are marked to say that the
others are random, in groups of hexadecimal digits.
-/

namespace Suite.Gate

/-- The two hexadecimal digits of a byte. -/
def byteDigits (b : UInt8) : List Char :=
  [Nat.digitChar (b.toNat / 16), Nat.digitChar (b.toNat % 16)]

/-- Random bytes with the marks of a random identifier. -/
def markRandom (bytes : List UInt8) : List UInt8 :=
  bytes.mapIdx fun i b =>
    if i = 6 then (b &&& 0x0f) ||| 0x40 else if i = 8 then (b &&& 0x3f) ||| 0x80 else b

/-- The name that sixteen random bytes give. -/
def runIdOf (bytes : List UInt8) : String :=
  let ds := (markRandom bytes).flatMap byteDigits
  let group (start length : Nat) : String := String.ofList ((ds.drop start).take length)
  "-".intercalate [group 0 8, group 8 4, group 12 4, group 16 4, group 20 12]

end Suite.Gate
