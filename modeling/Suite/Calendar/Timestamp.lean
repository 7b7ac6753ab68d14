import Suite.Text.Blank

/-!
# Timestamps

A `Timestamp` is a date and a time of day in Coordinated Universal Time. `Timestamp.parse` reads the
internet format with some freedom: blanks may stand before a number, before a separator and before
the offset, and the time may be given for any offset below a day. `Timestamp.text` writes the format
without freedom.
-/

namespace Suite

/-- A date and a time of day; the second 60 is a leap second. -/
structure Timestamp where
  year : Int
  month : Nat
  day : Nat
  hour : Nat
  minute : Nat
  second : Nat
  nanosecond : Nat
  deriving DecidableEq, Repr

namespace Timestamp

/-- Why a text is no timestamp. -/
inductive Problem
  | outOfRange
  | invalid
  | tooShort
  | tooLong
  /-- The offset leads out of the years there are. -/
  | impossible
  deriving DecidableEq, Repr

/-- The wording of a problem. -/
def Problem.message : Problem → String
  | .outOfRange => "input is out of range"
  | .invalid => "input contains invalid characters"
  | .tooShort => "premature end of input"
  | .tooLong => "trailing input"
  | .impossible => "no possible date and time matching input"

/-- The first year. -/
def minYear : Int := -262143

/-- The last year. -/
def maxYear : Int := 262142

/-- The year has a 29th of February. -/
def isLeap (year : Int) : Bool := year % 4 = 0 && (year % 100 ≠ 0 || year % 400 = 0)

/-- The number of days of a month. -/
def monthLength (year : Int) (month : Nat) : Nat :=
  if month = 2 then (if isLeap year then 29 else 28)
  else if month = 4 || month = 6 || month = 9 || month = 11 then 30
  else 31

/-- The timestamp a day later. -/
def nextDay (t : Timestamp) : Timestamp :=
  if t.day < monthLength t.year t.month then { t with day := t.day + 1 }
  else if t.month < 12 then { t with month := t.month + 1, day := 1 }
  else { t with year := t.year + 1, month := 1, day := 1 }

/-- The timestamp a day earlier. -/
def previousDay (t : Timestamp) : Timestamp :=
  if 1 < t.day then { t with day := t.day - 1 }
  else if 1 < t.month then { t with month := t.month - 1, day := monthLength t.year (t.month - 1) }
  else { t with year := t.year - 1, month := 12, day := 31 }

/-- The minutes of a day. -/
def dayMinutes : Int := 1440

/-- The timestamp for a time given with an offset of some minutes, less than a day. -/
def atOffset (t : Timestamp) (offset : Int) : Except Problem Timestamp :=
  let minutes := (t.hour : Int) * 60 + t.minute - offset
  let dated :=
    if minutes < 0 then t.previousDay else if dayMinutes ≤ minutes then t.nextDay else t
  let rest := (minutes % dayMinutes).toNat
  if minYear ≤ dated.year && dated.year ≤ maxYear then
    .ok { dated with hour := rest / 60, minute := rest % 60 }
  else .error .impossible

/-- A reader of the characters in front. -/
abbrev Reader (α : Type) := List Char → Except Problem (α × List Char)

/-- The greatest number that is read at all. -/
def numberMax : Nat := Nat.pow 2 63 - 1

/-- A number of at least one and at most `width` digits; all digits there are without a width. -/
def number (width : Option Nat) : Reader Nat := fun s =>
  let run := s.takeWhile Char.isDigit
  let taken := match width with
    | some n => run.take n
    | none => run
  if s.isEmpty then .error .tooShort
  else if taken.isEmpty then .error .invalid
  else
    let n := taken.foldl (fun n c => n * 10 + (c.toNat - 48)) 0
    if n ≤ numberMax then .ok (n, s.drop taken.length) else .error .outOfRange

/-- A number of at most two digits within bounds, after blanks. -/
def field (low high : Nat) : Reader Nat := fun s => do
  let (n, rest) ← number (some 2) (Text.trimLeft s)
  if low ≤ n && n ≤ high then return (n, rest) else throw .outOfRange

/-- Years are read up to this size. -/
def yearLimit : Int := 2147483648

/-- A year, after blanks: four digits at most, or any number of them after a sign. -/
def yearField : Reader Int := fun s => do
  let (y, rest) ← match Text.trimLeft s with
    | '-' :: s => (number none s).map fun (n, rest) => (-(n : Int), rest)
    | '+' :: s => (number none s).map fun (n, rest) => ((n : Int), rest)
    | s => (number (some 4) s).map fun (n, rest) => ((n : Int), rest)
  if -yearLimit ≤ y && y < yearLimit then return (y, rest) else throw .outOfRange

/-- A character that must come next, after blanks. -/
def mark (c : Char) : Reader Unit := fun s =>
  match Text.trimLeft s with
  | [] => .error .tooShort
  | d :: rest => if d = c then .ok ((), rest) else .error .invalid

/-- What stands between the date and the time. -/
def dateEnd : Reader Unit
  | [] => .error .tooShort
  | c :: rest => if c = 't' || c = 'T' || c = ' ' then .ok ((), rest) else .error .invalid

/-- The fraction of a second, if there is one: nine digits count. -/
def fraction : Reader Nat
  | '.' :: s => do
    let (n, rest) ← number (some 9) s
    let places := s.length - rest.length
    return (n * Nat.pow 10 (9 - places), rest.dropWhile Char.isDigit)
  | s => .ok (0, s)

/-- Two digits, as a number. -/
def twoDigits : Reader Nat
  | [] => .error .tooShort
  | [c] => .error (if c.toNat < 0x80 then .tooShort else .invalid)
  | c :: d :: rest =>
    if c.isDigit && d.isDigit then .ok ((c.toNat - 48) * 10 + (d.toNat - 48), rest)
    else .error .invalid

/-- The offset in minutes: none for Coordinated Universal Time, or else hours and minutes after a
sign. -/
def offset : Reader Int := fun s =>
  match s with
  | [] => .error .tooShort
  | c :: rest =>
    if (s.take 3).map Char.toUpper = ['U', 'T', 'C'] then .ok (0, s.drop 3)
    else if c = 'Z' || c = 'z' then .ok (0, rest)
    else if c = '+' || c = '-' || c = '\u2212' then do
      let (hours, rest) ← twoDigits rest
      let (minutes, rest) ← twoDigits (rest.dropWhile fun c => c = ':' || Text.isBlank c)
      if 59 < minutes then throw .outOfRange
      let total : Int := (hours : Int) * 60 + minutes
      return (if c = '+' then total else -total, rest)
    else .error .invalid

/-- The timestamp that a text gives. -/
def parse (text : String) : Except Problem Timestamp := do
  let (year, s) ← yearField text.toList
  let ((), s) ← mark '-' s
  let (month, s) ← field 1 12 s
  let ((), s) ← mark '-' s
  let (day, s) ← field 1 31 s
  let ((), s) ← dateEnd s
  let (hour, s) ← field 0 23 s
  let ((), s) ← mark ':' s
  let (minute, s) ← field 0 59 s
  let ((), s) ← mark ':' s
  let (second, s) ← field 0 60 s
  let (nanosecond, s) ← fraction s
  let (minutes, s) ← offset (Text.trimLeft s)
  if !(Text.trimLeft s).isEmpty then throw .tooLong
  if year < minYear || maxYear < year || monthLength year month < day then throw .outOfRange
  if dayMinutes ≤ minutes || minutes ≤ -dayMinutes then throw .outOfRange
  atOffset ⟨year, month, day, hour, minute, second, nanosecond⟩ minutes

/-- The number with at least `width` digits. -/
def digits (width n : Nat) : String :=
  let ds := Nat.toDigits 10 n
  String.ofList (List.replicate (width - ds.length) '0' ++ ds)

/-- A year: four digits, with a sign if they do not suffice or the year is negative. -/
def yearText (year : Int) : String :=
  if 0 ≤ year && year ≤ 9999 then digits 4 year.toNat
  else (if year < 0 then "-" else "+") ++ digits 4 year.natAbs

/-- The fraction of a second, in as many groups of three digits as it needs. -/
def fractionText (n : Nat) : String :=
  if n = 0 then ""
  else if n % 1000000 = 0 then "." ++ digits 3 (n / 1000000)
  else if n % 1000 = 0 then "." ++ digits 6 (n / 1000)
  else "." ++ digits 9 n

/-- The text of a timestamp. -/
def text (t : Timestamp) : String :=
  yearText t.year ++ "-" ++ digits 2 t.month ++ "-" ++ digits 2 t.day ++ "T" ++ digits 2 t.hour
    ++ ":" ++ digits 2 t.minute ++ ":" ++ digits 2 t.second ++ fractionText t.nanosecond ++ "Z"

end Timestamp

end Suite
