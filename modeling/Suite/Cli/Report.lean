import Suite.Gate.Written
import Suite.Json.Printer

/-!
# What the tool prints

The report on a run of the gate, and the message of an error with its causes.
-/

namespace Suite.Cli

/-- The mark of an outcome. -/
def outcomeMark : Gate.Outcome → String
  | .passed => "✓"
  | .failed _ => "✗"
  | .skipped => "-"
  | .notRun => "·"

/-- Lines with their ends. -/
def lineTexts (ls : List String) : String := String.join (ls.map (· ++ "\n"))

/-- The report on a run, for people. -/
def reportText (r : Gate.Result) : String :=
  let violations := r.violations.map fun (task, error) => "  - " ++ task ++ ": " ++ error
  lineTexts <|
    ["Gate run: " ++ r.runId,
     "Status: " ++ (if r.passed then "✓ PASSED" else "✗ FAILED"),
     "Duration: " ++ toString r.durationMs ++ "ms",
     ""] ++
    (r.tasks.map fun t =>
      "  " ++ outcomeMark t.outcome ++ " " ++ t.name ++ " (" ++ toString t.durationMs ++ "ms)") ++
    (if violations.isEmpty then [] else ["", "Violations:"] ++ violations) ++
    ["",
     "Summary: " ++ toString r.passedCount ++ " passed, " ++ toString r.failedCount ++ " failed, "
       ++ toString r.skippedCount ++ " skipped"]

/-- The report on a run, for programs. -/
def reportJson (r : Gate.Result) : String := (Gate.Result.codec.encode r).pretty ++ "\n"

/-- A text with its lines joined by a line feed and an indentation. -/
def indented (indentation s : String) : String :=
  ("\n" ++ indentation).intercalate ((Text.pieces '\n' s.toList).map String.ofList)

/-- A number filled up with blanks. -/
def numberText (width n : Nat) : String :=
  let ds := (toString n).toList
  String.ofList (List.replicate (width - ds.length) ' ' ++ ds)

/-- The causes of an error: a single one is indented, several are numbered. -/
def causesText : List String → String
  | [cause] => "\n    " ++ indented "    " cause
  | causes =>
    String.join (causes.mapIdx fun i cause =>
      "\n" ++ numberText 5 i ++ ": " ++ indented "       " cause)

/-- The message of an error, from the outermost to its first cause. -/
def errorText : List String → String
  | [] => ""
  | [message] => "Error: " ++ message ++ "\n"
  | message :: causes => "Error: " ++ message ++ "\n\nCaused by:" ++ causesText causes ++ "\n"

end Suite.Cli
