import Suite.Json.Value

/-!
# Numbers as they are written

A `Numeral` holds the digits of a number. Up to sixty-four bits of its digits are kept exactly; what
has no fraction, no exponent and fits a machine word is an integer, everything else is rounded to a
floating-point number.
-/

namespace Suite.Json

/-- The digits of a written number. -/
structure Numeral where
  negative : Bool
  whole : List Nat
  /-- The digits after the point, none if there is no point. -/
  fraction : List Nat
  /-- The sign of the exponent and its digits. -/
  exponent : Option (Bool × List Nat)
  deriving DecidableEq, Repr

namespace Numeral

/-- The greatest number of sixty-four bits. -/
def wordMax : Nat := Nat.pow 2 64 - 1

/-- The greatest size of an exponent. -/
def exponentMax : Nat := Nat.pow 2 31 - 1

/-- The digits collected so far, and how many digits had no room any more. -/
structure Collected where
  digits : Nat
  dropped : Nat

/-- One more digit, for which there is room if none was dropped and sixty-four bits hold it. -/
def Collected.push (c : Collected) (d : Nat) : Collected :=
  if c.dropped = 0 && c.digits * 10 + d ≤ wordMax then ⟨c.digits * 10 + d, 0⟩
  else ⟨c.digits, c.dropped + 1⟩

/-- As many of the digits as there is room for, after those collected before. -/
def collect (start : Nat) (ds : List Nat) : Collected := ds.foldl Collected.push ⟨start, 0⟩

/-- The number that digits are in base ten. -/
def ofDigits (ds : List Nat) : Nat := ds.foldl (fun n d => n * 10 + d) 0

/-- The floating-point number for a numeral; nothing if it is too great. A negative exponent that is
too great gives zero. -/
def float? (n : Numeral) : Option Binary64 :=
  let whole := collect 0 n.whole
  let all := collect whole.digits n.fraction
  let places : Int := (whole.dropped : Int) - ((n.fraction.length - all.dropped : Nat) : Int)
  match n.exponent with
  | none => Binary64.ofDecimal? n.negative all.digits places
  | some (down, ds) =>
    let e := ofDigits ds
    if e ≤ exponentMax then
      Binary64.ofDecimal? n.negative all.digits (if down then places - e else places + e)
    else if down || all.digits = 0 then Binary64.ofDecimal? n.negative 0 0
    else none

/-- The integer for a numeral, if it is one and fits: up to sixty-four bits without sign, or a
negative number of sixty-four bits with sign. Minus zero is none. -/
def integer? (n : Numeral) : Option Int :=
  let whole := collect 0 n.whole
  if n.fraction ≠ [] || n.exponent.isSome || whole.dropped ≠ 0 then none
  else if !n.negative then some whole.digits
  else if whole.digits ≠ 0 && whole.digits ≤ Nat.pow 2 63 then some (-(whole.digits : Int))
  else none

/-- The number that is written; nothing if it is beyond every floating-point number. -/
def number? (n : Numeral) : Option Number :=
  match n.integer? with
  | some i => some (.integer i)
  | none => n.float?.map .float

end Numeral

end Suite.Json
