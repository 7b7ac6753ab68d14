/-!
# Binary floating point of 64 bits

Finite numbers `± mantissa · 2 ^ exponent` with 53 bits of mantissa and exponents from -1074 to
971, computed in exact integers. `Binary64.round` is the only place where a value is rounded: to the
nearest number, of two equally near ones to the one with the even mantissa.
-/

namespace Suite

/-- A finite number `± mantissa · 2 ^ exponent`. A number that `round` makes has a mantissa of 53
bits, or fewer at the exponent -1074. -/
structure Binary64 where
  negative : Bool
  mantissa : Nat
  exponent : Int
  deriving DecidableEq, Repr

namespace Binary64

/-- The exponent of the smallest positive number. -/
def minExponent : Int := -1074

/-- The exponent of the greatest numbers. -/
def maxExponent : Int := 971

/-- The quotient rounded to the nearest integer, a half to the even neighbour. -/
def roundDiv (num den : Nat) : Nat :=
  let down := num / den
  let rest := num % den
  if 2 * rest > den || (2 * rest = den && down % 2 = 1) then down + 1 else down

/-- The number is zero, of either sign. -/
def isZero (x : Binary64) : Bool := x.mantissa = 0

/-- The same value; the two zeros have the same one. -/
def same (x y : Binary64) : Bool := (x.isZero && y.isZero) || x = y

/-- The fraction `num · 2 ^ (-e) / den` as numerator and denominator. -/
def scaled (num den : Nat) (e : Int) : Nat × Nat :=
  if 0 ≤ e then (num, den * Nat.pow 2 e.toNat) else (num * Nat.pow 2 (-e).toNat, den)

/-- The greatest `e` with `2 ^ e ≤ num / den`, for positive `num` and `den`. -/
def binaryLog (num den : Nat) : Int :=
  let e : Int := (num.log2 : Int) - (den.log2 : Int)
  let (n, d) := scaled num den e
  if d ≤ n then e else e - 1

/-- The number nearest to the positive or zero fraction `num / den`, unless it is too great for the
exponents there are. -/
def round (num den : Nat) : Option Binary64 :=
  if num = 0 then some ⟨false, 0, minExponent⟩
  else
    let e := max (binaryLog num den - 52) minExponent
    let (n, d) := scaled num den e
    let m := roundDiv n d
    let (m, e) := if m = Nat.pow 2 53 then (Nat.pow 2 52, e + 1) else (m, e)
    if e ≤ maxExponent then some ⟨false, m, e⟩ else none

/-- The value of the number without its sign, as numerator and denominator. -/
def fraction (x : Binary64) : Nat × Nat := scaled x.mantissa 1 (-x.exponent)

/-- The product of two positive numbers, unless it is too great. -/
def mul (x y : Binary64) : Option Binary64 :=
  let (a, b) := x.fraction
  let (c, d) := y.fraction
  round (a * c) (b * d)

/-- The quotient of two positive numbers, unless it is too great. -/
def div (x y : Binary64) : Option Binary64 :=
  let (a, b) := x.fraction
  let (c, d) := y.fraction
  round (a * d) (b * c)

/-- The greatest power of ten that is a number. -/
def maxPower : Nat := 308

/-- The number divided by `10 ^ 308` as many times as given; once it is zero it stays so. -/
def shrink : Nat → Binary64 → Option Binary64
  | 0, x => some x
  | n + 1, x =>
    if x.isZero then some x
    else do
      let power ← round (Nat.pow 10 maxPower) 1
      let y ← x.div power
      shrink n y

/-- The product with the number nearest to `10 ^ e`, in steps of at most `10 ^ 308`; nothing if it
is too great. Zero stays zero whatever the power. -/
def timesPowerOfTen (x : Binary64) (e : Int) : Option Binary64 :=
  if x.isZero then some x
  else if e < 0 then do
    let steps := ((-e).toNat - 1) / maxPower
    let y ← shrink steps x
    let power ← round (Nat.pow 10 ((-e).toNat - steps * maxPower)) 1
    y.div power
  else if e ≤ maxPower then do
    let power ← round (Nat.pow 10 e.toNat) 1
    x.mul power
  else none

/-- The number for a written decimal `digits · 10 ^ e`: the digits are rounded first, then
multiplied by the rounded power. Nothing if the number is too great. -/
def ofDecimal? (negative : Bool) (digits : Nat) (e : Int) : Option Binary64 := do
  let x ← (← round digits 1).timesPowerOfTen e
  some { x with negative }

end Binary64

end Suite
