import Suite.Keyed
import Suite.Text.Pieces
import Suite.Text.Quoted

/-!
# Tasks of a gate

A `Task` has a name, tags and an action. A filter of tags selects it; a selected task is entered,
evaluated and left. However often it is evaluated between entering and leaving, its action is called
once, and whatever the action does becomes an `Outcome`.
-/

namespace Suite.Gate

/-- What one call of an action does. -/
inductive Attempt
  | success
  /-- An error; the messages go from the outermost to the first cause. -/
  | failure (messages : List String)
  /-- The call broke off, with a text or with something else. -/
  | panic (payload : Option String)
  deriving DecidableEq, Repr

/-- One call of an action and the milliseconds it took. -/
structure Call where
  attempt : Attempt
  elapsed : Nat := 0
  deriving DecidableEq, Repr

/-- The work of a task, on whatever state the actions of a gate share. -/
abbrev Action (σ : Type) := σ → Call × σ

/-- What became of a task in a run. -/
inductive Outcome
  /-- The filter did not select it. -/
  | skipped
  | passed
  | failed (error : String)
  /-- The run stopped before it. -/
  | notRun
  deriving DecidableEq, Repr

/-- The task failed. -/
def Outcome.isFailed : Outcome → Bool
  | .failed _ => true
  | _ => false

/-- What a call makes of its task. -/
def Attempt.outcome : Attempt → Outcome
  | .success => .passed
  | .failure messages => .failed (": ".intercalate messages)
  | .panic (some text) => .failed ("panicked: " ++ text)
  | .panic none => .failed "panicked: non-string panic payload"

/-- A named task. -/
structure Task (σ : Type) where
  name : String
  tags : TextSet
  action : Action σ

/-- What is recorded of a task. -/
structure Report where
  name : String
  outcome : Outcome
  durationMs : Nat := 0
  deriving DecidableEq, Repr

/-- The tags of a comma-separated list. -/
def parseTags (s : String) : TextSet := Keyed.ofList (Text.entries s)

variable {σ : Type}

/-- A task that was entered, with its outcome and duration once it is evaluated. -/
structure Entered (σ : Type) where
  task : Task σ
  evaluated : Option (Outcome × Nat) := none

namespace Task

/-- The filter selects the task: it is empty, or has a tag of the task. -/
def appliesTo (t : Task σ) (filter : TextSet) : Bool := filter.isEmpty || t.tags.meets filter

/-- The task entered under a filter, if that selects it. -/
def enter (t : Task σ) (filter : TextSet) : Option (Entered σ) :=
  if t.appliesTo filter then some { task := t } else none

/-- What is shown of a task. -/
def describe (t : Task σ) : String :=
  "GateTask \x7b name: " ++ Text.quote t.name ++ ", tags: \x7b" ++ Text.quoteAll t.tags.toList
    ++ "\x7d, .. \x7d"

end Task

namespace Entered

/-- The outcome of the task: the first evaluation calls its action, later ones do not. -/
def evaluate (e : Entered σ) (s : σ) : Outcome × Entered σ × σ :=
  match e.evaluated with
  | some (outcome, _) => (outcome, e, s)
  | none =>
    let (call, s) := e.task.action s
    let outcome := call.attempt.outcome
    (outcome, { e with evaluated := some (outcome, call.elapsed) }, s)

/-- The report on leaving the task; one that was never evaluated was not run. -/
def exit (e : Entered σ) : Report :=
  match e.evaluated with
  | some (outcome, elapsed) => ⟨e.task.name, outcome, elapsed⟩
  | none => ⟨e.task.name, .notRun, 0⟩

end Entered

end Suite.Gate
