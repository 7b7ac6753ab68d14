import Suite.Number.Binary64

/-!
# The shortest decimal of a number

`Binary64.shortest` finds the fewest decimal digits that read back as a number, and of those the
nearest to it. `Binary64.text` writes them in the way a `DecimalStyle` asks for.
-/

namespace Suite.Binary64

/-- How many decimal places a fraction is moved before its digits are counted; no number lies
below `10 ^ (-400)`. -/
def countingPlaces : Nat := 400

/-- The greatest `k` with `10 ^ k ≤ num / den`, for the fraction of a positive number. -/
def decimalLog (num den : Nat) : Int :=
  ((Nat.toDigits 10 (num * Nat.pow 10 countingPlaces / den)).length : Int) - 1 - countingPlaces

/-- The numbers whose nearest neighbour is `x` fill an interval around it: its two ends, as
numerators over the common denominator of the value, the value itself in the middle. -/
structure Interval where
  low : Nat
  value : Nat
  high : Nat
  den : Nat
  /-- The ends belong to the interval. -/
  closed : Bool

/-- The interval of the reals that are rounded to `x`. Below a power of two the neighbour is half as
far away. An end is rounded to `x` if the mantissa of `x` is even. -/
def interval (x : Binary64) : Interval :=
  let (num, den) := scaled (4 * x.mantissa) 1 (2 - x.exponent)
  let unit := num / x.mantissa
  let below := if x.mantissa = Nat.pow 2 52 && minExponent < x.exponent then unit / 4 else unit / 2
  ⟨num - below, num, num + unit / 2, den, x.mantissa % 2 = 0⟩

/-- `digits · 10 ^ place` lies in the interval. -/
def Interval.holds (i : Interval) (digits : Nat) (place : Int) : Bool :=
  let (n, d) :=
    if 0 ≤ place then (digits * Nat.pow 10 place.toNat, 1)
    else (digits, Nat.pow 10 (-place).toNat)
  if i.closed then i.low * d ≤ n * i.den && n * i.den ≤ i.high * d
  else i.low * d < n * i.den && n * i.den < i.high * d

/-- The multiple of `10 ^ place` in the interval that is nearest to its value, if one of the two
around the value lies in it; of two equally near ones the even multiple. -/
def Interval.onGrid? (i : Interval) (place : Int) : Option Nat :=
  let (n, d) :=
    if 0 ≤ place then (i.value, i.den * Nat.pow 10 place.toNat)
    else (i.value * Nat.pow 10 (-place).toNat, i.den)
  let near := roundDiv n d
  let far := if near = n / d then near + 1 else n / d
  if i.holds near place then some near
  else if i.holds far place then some far
  else none

/-- The digits that a positive number needs, as an integer, and the place of the last of them. -/
def shortest (x : Binary64) : Nat × Int :=
  let i := x.interval
  let top := decimalLog i.value i.den
  let grids := (List.range 17).map fun (n : Nat) => top - (n : Int)
  match grids.findSome? (fun place => (i.onGrid? place).map (·, place)) with
  | some found => found
  | none => (i.value / i.den, 0)

/-- Where the decimal point stands and how an exponent is written. -/
structure DecimalStyle where
  /-- The least power of ten of a first digit that is written without exponent. -/
  leastPlain : Int
  /-- The greatest power of ten of a first digit that is written without exponent. -/
  greatestPlain : Int
  /-- The least number of digits of an exponent. -/
  exponentWidth : Nat

/-- The digits with at least `width` of them. -/
def padded (width n : Nat) : List Char :=
  let ds := Nat.toDigits 10 n
  List.replicate (width - ds.length) '0' ++ ds

/-- Digits with a point after the first `whole` of them, and at least one digit on either side. -/
def withPoint (digits : List Char) (whole : Int) : List Char :=
  if whole ≤ 0 then '0' :: '.' :: List.replicate (-whole).toNat '0' ++ digits
  else
    let n := whole.toNat
    if digits.length ≤ n then digits ++ List.replicate (n - digits.length) '0' ++ ['.', '0']
    else digits.take n ++ '.' :: digits.drop n

/-- The text of a number without its sign. -/
def magnitudeText (style : DecimalStyle) (x : Binary64) : List Char :=
  if x.isZero then ['0', '.', '0']
  else
    let (n, place) := x.shortest
    let all := Nat.toDigits 10 n
    let first : Int := place + all.length - 1
    let digits := (all.reverse.dropWhile (· == '0')).reverse
    if style.leastPlain ≤ first && first ≤ style.greatestPlain then withPoint digits (first + 1)
    else
      let mantissa := match digits with
        | [] => []
        | [d] => [d]
        | d :: rest => d :: '.' :: rest
      mantissa ++ 'e' :: (if first < 0 then '-' else '+') :: padded style.exponentWidth first.natAbs

/-- The text of a number: the fewest digits that read back, always with a point or an exponent. -/
def text (style : DecimalStyle) (x : Binary64) : String :=
  String.ofList ((if x.negative then ['-'] else []) ++ magnitudeText style x)

end Suite.Binary64
