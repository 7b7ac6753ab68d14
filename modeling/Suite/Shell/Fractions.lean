import Suite.Number.Shortest
import Suite.Shell.Arithmetic

/-!
# Fractions in formats

Numbers with a fraction are read from arguments and written in decimal and hexadecimal digits. A
`Precision` says how exactly they are held in between: a finite number is `mantissa · 2 ^ exponent`,
rounded once, when it is read.
-/

namespace Suite.Shell

/-- What is wrong with an argument that should be a number. -/
inductive BadNumber
  | none
  | noNumber
  | unfinished
  | tooGreat
  deriving DecidableEq, Repr

/-- How exactly numbers are held, and how hexadecimal digits show them. -/
structure Precision where
  /-- The binary digits of a number. -/
  digits : Nat
  /-- The exponent of the smallest number. -/
  least : Int
  /-- Numbers are below this power of two. -/
  top : Int
  /-- The binary digits after the point in hexadecimal notation. -/
  places : Nat
  deriving Repr

/-- Numbers of 64 bits, of which one digit stands before the point. -/
def Precision.double : Precision := ⟨53, -1074, 1024, 52⟩

/-- Numbers of 80 bits, of which four digits stand before the point. -/
def Precision.extended : Precision := ⟨64, -16445, 16384, 60⟩

/-- The size of a number. -/
inductive Magnitude
  | finite (mantissa : Nat) (exponent : Int)
  | infinite
  /-- No number. -/
  | none
  deriving DecidableEq, Repr

/-- A number with its sign apart. -/
structure Signed where
  negative : Bool
  size : Magnitude
  deriving Repr

/-- The positive or zero fraction rounded to a precision, and whether it is too great or too small
for it. -/
def Precision.round (p : Precision) (num den : Nat) : Magnitude × Bool :=
  if num = 0 then (.finite 0 0, false)
  else
    let e := max (Binary64.binaryLog num den - (p.digits - 1)) p.least
    let (n, d) := Binary64.scaled num den e
    let m := Binary64.roundDiv n d
    let (m, e) := if m = Nat.pow 2 p.digits then (m / 2, e + 1) else (m, e)
    if p.top < e + p.digits then (.infinite, true)
    else (.finite m e, m < Nat.pow 2 (p.digits - 1) && m * d ≠ n)

/-- The finite number as a fraction. -/
def fractionOf (mantissa : Nat) (exponent : Int) : Nat × Nat :=
  Binary64.scaled mantissa 1 (-exponent)

/-- A sign in front of characters: whether it is a minus, and the characters after it. -/
def signAt (s : List Char) : Bool × List Char :=
  match s with
  | '-' :: rest => (true, rest)
  | '+' :: rest => (false, rest)
  | _ => (false, s)

/-- Exponents beyond this one make no difference. -/
def exponentLimit : Nat := 20000

/-- The exponent that one of two letters announces, and the characters after it; zero if there is
none. No exponent goes beyond a limit. -/
def exponentAt (letter : Char) (limit : Nat) (s : List Char) : Int × List Char :=
  match s with
  | c :: rest =>
    let (down, rest) := signAt rest
    let ds := rest.takeWhile Char.isDigit
    if c.toLower ≠ letter || ds.isEmpty then (0, s)
    else
      let n : Int := (min limit (Arithmetic.ofDigits 10 ds) : Nat)
      (if down then -n else n, rest.drop ds.length)
  | [] => (0, s)

/-- Digits of a base with a point among them: those before it, those after it, and the characters
behind; nothing if there are no digits. -/
def pointed? (base : Nat) (s : List Char) : Option (List Char × List Char × List Char) :=
  let isDigit (c : Char) : Bool := (Arithmetic.digit? base c).isSome
  let whole := s.takeWhile isDigit
  let rest := s.drop whole.length
  let fraction := match rest with
    | '.' :: more => more.takeWhile isDigit
    | _ => []
  if whole.isEmpty && fraction.isEmpty then none
  else
    match rest with
    | '.' :: more => some (whole, fraction, more.drop fraction.length)
    | _ => some (whole, [], rest)

/-- The characters behind a word, whether its letters are great or small. -/
def behindWord? (word : String) (s : List Char) : Option (List Char) :=
  if (s.take word.length).map Char.toLower = word.toList then some (s.drop word.length) else none

/-- The size of the number in front of characters, whether it is too great or too small, and the
characters after it. -/
def Precision.numberAt? (p : Precision) (s : List Char) :
    Option ((Magnitude × Bool) × List Char) :=
  match behindWord? "infinity" s, behindWord? "inf" s, behindWord? "nan" s, behindWord? "0x" s with
  | some rest, _, _, _ | none, some rest, _, _ => some ((.infinite, false), rest)
  | _, _, some rest, _ =>
    let after := match rest with
      | '(' :: more =>
        match more.dropWhile Arithmetic.inName with
        | ')' :: after => after
        | _ => rest
      | _ => rest
    some ((.none, false), after)
  | _, _, _, hex =>
    match hex.bind (pointed? 16), pointed? 10 s with
    | some (whole, fraction, rest), _ =>
      let (power, rest) := exponentAt 'p' (4 * (exponentLimit + s.length)) rest
      let place := power - 4 * fraction.length
      let (num, den) := fractionOf (Arithmetic.ofDigits 16 (whole ++ fraction)) place
      some (p.round num den, rest)
    | none, some (whole, fraction, rest) =>
      let (power, rest) := exponentAt 'e' (exponentLimit + s.length) rest
      let place := power - fraction.length
      let digits := Arithmetic.ofDigits 10 (whole ++ fraction)
      let size := if 0 ≤ place then p.round (digits * Nat.pow 10 place.toNat) 1
        else p.round digits (Nat.pow 10 (-place).toNat)
      some (size, rest)
    | none, none => none

/-- The number that an argument is, as far as it is one. -/
def Precision.argument (p : Precision) (s : List Char) : Signed × BadNumber :=
  let (negative, cs) := signAt (s.dropWhile Arithmetic.isSpace)
  match p.numberAt? cs with
  | none => (⟨false, .finite 0 0⟩, if s.isEmpty then .none else .noNumber)
  | some ((size, beyond), rest) =>
    (⟨negative, size⟩, if !rest.isEmpty then .unfinished else if beyond then .tooGreat else .none)

/-- The digits with a point before the last `places` of them, without one if there are none unless
`point` asks for it. -/
def withPlaces (base : Nat) (point : Bool) (places digits : Nat) : List Char :=
  let ds := Nat.toDigits base digits
  let ds := List.replicate (places + 1 - ds.length) '0' ++ ds
  let whole := ds.take (ds.length - places)
  whole ++ (if places = 0 && !point then [] else '.' :: ds.drop (ds.length - places))

/-- The first digits of a fraction, so many, and the power of ten of the first of them. -/
def significant (count num den : Nat) : Nat × Int :=
  if num = 0 then (0, 0)
  else
    let top := Binary64.decimalLog num den
    let place : Int := top - count + 1
    let digits :=
      if 0 ≤ place then Binary64.roundDiv num (den * Nat.pow 10 place.toNat)
      else Binary64.roundDiv (num * Nat.pow 10 (-place).toNat) den
    if digits = Nat.pow 10 count then (Nat.pow 10 (count - 1), top + 1) else (digits, top)

/-- A letter with an exponent of at least so many digits. -/
def exponentText (letter : Char) (least : Nat) (exponent : Int) : List Char :=
  let ds := Nat.toDigits 10 exponent.natAbs
  letter :: (if exponent < 0 then '-' else '+') :: (List.replicate (least - ds.length) '0' ++ ds)

/-- The digits with an exponent. -/
def withExponent (point : Bool) (places digits : Nat) (exponent : Int) : List Char :=
  withPlaces 10 point places digits ++ exponentText 'e' 2 exponent

/-- The text without zeros at the end of its fraction, and without a point at its end. -/
def withoutZeros (s : List Char) : List Char :=
  let mantissa := s.takeWhile (· ≠ 'e')
  let short :=
    if mantissa.contains '.' then
      match mantissa.reverse.dropWhile (· = '0') with
      | '.' :: rest => rest.reverse
      | other => other.reverse
    else mantissa
  short ++ s.drop mantissa.length

/-- A fraction in decimal digits as a directive of a kind writes it. -/
def decimalText (kind : Char) (point : Bool) (places : Nat) (num den : Nat) : List Char :=
  let fixed (places : Nat) : List Char :=
    withPlaces 10 point places (Binary64.roundDiv (num * Nat.pow 10 places) den)
  if kind = 'f' then fixed places
  else if kind = 'e' then
    let (digits, top) := significant (places + 1) num den
    withExponent point places digits top
  else
    let count := if places = 0 then 1 else places
    let (digits, top) := significant count num den
    let plain := top < count && -4 ≤ top
    let text :=
      if plain then fixed (count - 1 - top).toNat else withExponent point (count - 1) digits top
    if point then text else withoutZeros text

/-- How often a number is divisible by sixteen, up to a bound. -/
def hexZeros : Nat → Nat → Nat
  | 0, _ => 0
  | bound + 1, n => if n % 16 = 0 then hexZeros bound (n / 16) + 1 else 0

/-- A finite number in hexadecimal digits, after what stands in front of them: all of them, unless
`places` says how many. -/
def Precision.hexText (p : Precision) (point : Bool) (places : Option Nat) (mantissa : Nat)
    (exponent : Int) : List Char :=
  let all := p.places / 4
  if mantissa = 0 then withPlaces 16 point (places.getD 0) 0 ++ exponentText 'p' 1 0
  else
    let exponent := exponent + p.places
    let count := places.getD (all - hexZeros all mantissa)
    let digits := if count < all then Binary64.roundDiv mantissa (Nat.pow 16 (all - count))
      else mantissa * Nat.pow 16 (count - all)
    -- Sixteen before the point are one, four binary places further up.
    let carried := digits = 16 * Nat.pow 16 count
    withPlaces 16 point count (if carried then Nat.pow 16 count else digits) ++
      exponentText 'p' 1 (if carried then exponent + 4 else exponent)

/-- A number without its sign as a directive of a kind writes it: what stands in front of its
digits, and those. -/
def Precision.text (p : Precision) (kind : Char) (point : Bool) (places : Option Nat)
    (size : Magnitude) : List Char × List Char :=
  let (front, body) : List Char × List Char := match size with
    | .infinite => ([], "inf".toList)
    | .none => ([], "nan".toList)
    | .finite mantissa exponent =>
      if kind.toLower = 'a' then ("0x".toList, p.hexText point places mantissa exponent)
      else
        let (num, den) := fractionOf mantissa exponent
        ([], decimalText kind.toLower point (places.getD 6) num den)
  if kind.isUpper then (front.map Char.toUpper, body.map Char.toUpper) else (front, body)

end Suite.Shell
