import Suite.Gate.Run
import Suite.Json.Choice
import Suite.Json.Record

/-!
# Written results

How the result of a run is written in JSON. An outcome is an object whose member `status` says which
it is; that of a failed task holds the error beside it.
-/

namespace Suite

open Json (Choice Codec Content Decoder Field Fields Tagged Value)

/-- The names of the policies. -/
def FailurePolicy.choice : Choice FailurePolicy :=
  ⟨[("continue_on_failure", .continueOnFailure), ("stop_on_first_failure", .stopOnFirstFailure)]⟩

/-- A timestamp, written as a text. -/
def Timestamp.codec : Codec Timestamp where
  encode t := .string t.text
  decode := Decoder.accepted "an RFC 3339 formatted date and time string" fun s =>
    (Timestamp.parse s).mapError Timestamp.Problem.message

namespace Gate

/-- The names of the statuses. -/
def Status.choice : Choice Status := ⟨[("passed", .passed), ("failed", .failed)]⟩

namespace Outcome

/-- Outcomes without what they hold. -/
inductive Kind
  | skipped
  | passed
  | failed
  | notRun
  deriving DecidableEq, Repr

/-- The names of the outcomes. -/
def Kind.choice : Choice Kind :=
  ⟨[("skipped", .skipped), ("passed", .passed), ("failed", .failed), ("not_run", .notRun)]⟩

/-- What is shown of an outcome without error. -/
def plain (kind : Kind) : Value := .object [("status", .string (Kind.choice.name kind))]

/-- A written outcome. -/
def encode : Outcome → Value
  | .skipped => plain .skipped
  | .passed => plain .passed
  | .failed error =>
    .object [("status", .string (Kind.choice.name .failed)), ("error", .string error)]
  | .notRun => plain .notRun

/-- The outcome of a kind, with what was held beside it. -/
def ofContent (kind : Kind) (content : Content) : Except Json.Error Outcome :=
  match kind with
  | .skipped => content.nothing.map fun _ => .skipped
  | .passed => content.nothing.map fun _ => .passed
  | .notRun => content.nothing.map fun _ => .notRun
  | .failed =>
    (content.oneText "error" "struct variant TaskOutcome::Failed with 1 element").map .failed

/-- The outcome in a text. -/
def decode : Decoder Outcome := fun room s => do
  let t ← Tagged.decode Kind.choice "status" "internally tagged enum TaskOutcome" room s
  ofContent t.tag t.content

/-- A written outcome. -/
def codec : Codec Outcome := ⟨encode, decode⟩

end Outcome

namespace Report

/-- The fields of a written report. -/
def fields : Fields [String, Outcome, Nat] :=
  .cons (.required "name" .text) <|
  .cons (.required "outcome" Outcome.codec) <|
  .cons (.required "duration_ms" .natural) .nil

/-- A written report. -/
def codec : Codec Report :=
  (fields.codec "TaskReport").via (fun r => (r.name, r.outcome, r.durationMs, ()))
    fun (name, outcome, durationMs, ()) => ⟨name, outcome, durationMs⟩

end Report

namespace Result

/-- The fields of a written result. -/
def fields : Fields [String, Timestamp, Status, List Report, Nat] :=
  .cons (.required "run_id" .text) <|
  .cons (.required "started_at" Timestamp.codec) <|
  .cons (.required "status" Status.choice.codec) <|
  .cons (.required "tasks" (.list Report.codec)) <|
  .cons (.required "duration_ms" .natural) .nil

/-- A written result. -/
def codec : Codec Result :=
  (fields.codec "GateRunResult").via
    (fun r => (r.runId, r.startedAt, r.status, r.tasks, r.durationMs, ()))
    fun (runId, startedAt, status, tasks, durationMs, ()) =>
      ⟨runId, startedAt, status, tasks, durationMs⟩

end Result

end Gate

end Suite
