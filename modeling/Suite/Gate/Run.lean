import Suite.Calendar.Timestamp
import Suite.Gate.Task

/-!
# Runs of a gate

A `Gate` is a list of tasks and a policy on failures. A run goes through the tasks in their order,
evaluates those that the filter selects and reports on every one; a failure is recorded and ends
nothing but, under one policy, the evaluation of later tasks.
-/

namespace Suite

/-- What a run does after a task failed. -/
inductive FailurePolicy
  /-- It goes on. -/
  | continueOnFailure
  /-- It runs no further task. -/
  | stopOnFirstFailure
  deriving DecidableEq, Repr, Inhabited

/-- Tasks in the order in which they run. -/
structure Gate (σ : Type) where
  tasks : List (Gate.Task σ) := []
  policy : FailurePolicy := .continueOnFailure

namespace Gate

/-- Whether a run found a failure. -/
inductive Status
  | passed
  | failed
  deriving DecidableEq, Repr

/-- What is recorded of a run. -/
structure Result where
  runId : String
  startedAt : Timestamp
  status : Status
  tasks : List Report
  durationMs : Nat
  deriving DecidableEq, Repr

namespace Result

/-- No task failed. -/
def passed (r : Result) : Bool := r.status = .passed

/-- The outcome of the first task with a name. -/
def outcomeOf? (r : Result) (name : String) : Option Outcome :=
  (r.tasks.find? fun t => t.name = name).map (·.outcome)

/-- How many tasks passed. -/
def passedCount (r : Result) : Nat := r.tasks.countP fun t => t.outcome = .passed

/-- How many tasks failed. -/
def failedCount (r : Result) : Nat := r.tasks.countP fun t => t.outcome.isFailed

/-- How many tasks were skipped. -/
def skippedCount (r : Result) : Nat := r.tasks.countP fun t => t.outcome = .skipped

/-- The names and errors of the tasks that failed. -/
def violations (r : Result) : List (String × String) :=
  r.tasks.filterMap fun t =>
    match t.outcome with
    | .failed error => some (t.name, error)
    | _ => none

end Result

variable {σ : Type}

/-- The gate with one more task at its end. -/
def add (g : Gate σ) (t : Task σ) : Gate σ := { g with tasks := g.tasks ++ [t] }

/-- The reports on tasks one after the other; once the run has halted no task is run any more. -/
def reports (policy : FailurePolicy) (filter : TextSet) (halted : Bool) :
    List (Task σ) → σ → List Report × σ
  | [], s => ([], s)
  | t :: rest, s =>
    if halted then
      let (rs, s) := reports policy filter true rest s
      (⟨t.name, .notRun, 0⟩ :: rs, s)
    else
      match t.enter filter with
      | none =>
        let (rs, s) := reports policy filter false rest s
        (⟨t.name, .skipped, 0⟩ :: rs, s)
      | some entered =>
        let (_, entered, s) := entered.evaluate s
        let r := entered.exit
        let halts := r.outcome.isFailed && policy = .stopOnFirstFailure
        let (rs, s) := reports policy filter halts rest s
        (r :: rs, s)

/-- When a run takes place and how long it takes, and the name it gets. -/
structure Occasion where
  runId : String
  startedAt : Timestamp
  /-- The milliseconds from the start to the end. -/
  elapsed : Nat := 0

/-- The status that reports add up to. -/
def statusOf (rs : List Report) : Status :=
  if rs.any fun r => r.outcome.isFailed then .failed else .passed

/-- A run of the gate: its result, and the state that the actions leave. -/
def run (g : Gate σ) (on : Occasion) (filter : TextSet) (s : σ) : Result × σ :=
  let (rs, s) := reports g.policy filter false g.tasks s
  (⟨on.runId, on.startedAt, statusOf rs, rs, on.elapsed⟩, s)

end Gate

end Suite
