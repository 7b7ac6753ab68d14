import Suite.Calendar.Timestamp
import Suite.Text.Pieces

/-!
# The time of day

`Timestamp.ofUnix` is the timestamp some seconds after the beginning of 1970. `Timestamp.ofKernel`
takes it from what a kernel reports: when it was started, and for how long it has been running.
-/

namespace Suite.Timestamp

/-- The seconds of a day. -/
def daySeconds : Nat := 86400

/-- The days from the 1st of March of the year 0 to the 1st of January 1970. -/
def daysToUnix : Nat := 719468

/-- The days of 400 years. -/
def eraDays : Nat := 146097

/-- The year, month and day some days after the beginning of 1970. Years are counted from March, so
that a leap day comes last. -/
def dateOfDay (days : Nat) : Int × Nat × Nat :=
  let n := days + daysToUnix
  let dayOfEra := n % eraDays
  let yearOfEra :=
    (dayOfEra - dayOfEra / 1460 + dayOfEra / 36524 - dayOfEra / 146096) / 365
  let dayOfYear := dayOfEra - (365 * yearOfEra + yearOfEra / 4 - yearOfEra / 100)
  let m := (5 * dayOfYear + 2) / 153
  let day := dayOfYear - (153 * m + 2) / 5 + 1
  let month := if m < 10 then m + 3 else m - 9
  let year := n / eraDays * 400 + yearOfEra
  ((if month ≤ 2 then year + 1 else year : Nat), month, day)

/-- The timestamp some seconds and nanoseconds after the beginning of 1970. -/
def ofUnix (seconds nanosecond : Nat) : Timestamp :=
  let (year, month, day) := dateOfDay (seconds / daySeconds)
  let rest := seconds % daySeconds
  ⟨year, month, day, rest / 3600, rest / 60 % 60, rest % 60, nanosecond⟩

/-- The second at which a kernel was started, from its statistics. -/
def startSecond? (statistics : String) : Option Nat :=
  ((Text.pieces '\n' statistics.toList).map (Text.pieces ' ')).findSome? fun
    | [name, n] => if String.ofList name = "btime" then (String.ofList n).toNat? else none
    | _ => none

/-- The hundredths of a second for which a kernel has been running. -/
def running? (uptime : String) : Option Nat :=
  match (Text.pieces ' ' uptime.toList).map (Text.pieces '.') with
  | [seconds, [c, d]] :: _ => do
    let s ← (String.ofList seconds).toNat?
    let h ← (String.ofList [c, d]).toNat?
    return s * 100 + h
  | _ => none

/-- The present time, from the statistics and the uptime of a kernel. -/
def ofKernel (statistics uptime : String) : Option Timestamp := do
  let start ← startSecond? statistics
  let hundredths ← running? uptime
  return ofUnix (start + hundredths / 100) (hundredths % 100 * 10000000)

end Suite.Timestamp
