import Suite.Gate.Run

/-!
# Reports of a run, task by task

A run is a pass over the tasks that may halt. `Task.report` is what it does with one task while it
goes on, `Task.unrun` what it records once it has halted; all other laws of `Gate.reports` rest on
the two equations `reports_halted` and `reports_cons`.

## Key results

- `reports_cons`: one step of a run
- `report_cases`: every report is made by one of the two
- `outcome_eq_notRun_iff`: when a run has halted
-/

namespace Suite.Gate

variable {σ : Type}

/-! ### Outcomes -/

namespace Outcome

@[simp] theorem isFailed_skipped : skipped.isFailed = false := rfl
@[simp] theorem isFailed_passed : passed.isFailed = false := rfl
@[simp] theorem isFailed_failed (error : String) : (failed error).isFailed = true := rfl
@[simp] theorem isFailed_notRun : notRun.isFailed = false := rfl

/-- The outcome comes from a call of the action. -/
def isEvaluated : Outcome → Bool
  | .passed | .failed _ => true
  | .skipped | .notRun => false

/-- An outcome from a call is one of a task that passed or failed. -/
theorem isEvaluated_iff (o : Outcome) : o.isEvaluated = true ↔ o ≠ .notRun ∧ o ≠ .skipped := by
  cases o <;> simp [isEvaluated]

end Outcome

/-- A task passed exactly if its action succeeded. -/
theorem Attempt.outcome_eq_passed_iff (a : Attempt) : a.outcome = .passed ↔ a = .success := by
  cases a with
  | success => simp [outcome]
  | failure messages => simp [outcome]
  | panic payload => cases payload <;> simp [outcome]

/-- A task failed exactly if its action did not succeed. -/
theorem Attempt.isFailed_outcome_iff (a : Attempt) :
    a.outcome.isFailed = true ↔ a ≠ .success := by
  cases a with
  | success => simp [outcome]
  | failure messages => simp [outcome]
  | panic payload => cases payload <;> simp [outcome]

/-- An attempt makes the outcome one of an evaluation. -/
@[simp] theorem Attempt.isEvaluated_outcome (a : Attempt) : a.outcome.isEvaluated = true := by
  cases a with
  | success => rfl
  | failure messages => rfl
  | panic payload => cases payload <;> rfl

/-! ### One task -/

/-- The report on a task that the run does not come to. -/
def Task.unrun (t : Task σ) : Report := ⟨t.name, .notRun, 0⟩

/-- The report on a task that the run comes to, and the state that is left. -/
def Task.report (t : Task σ) (filter : TextSet) (s : σ) : Report × σ :=
  if t.appliesTo filter then
    (⟨t.name, (t.action s).1.attempt.outcome, (t.action s).1.elapsed⟩, (t.action s).2)
  else (⟨t.name, .skipped, 0⟩, s)

/-- A task that is selected is reported with what its action did. -/
theorem Task.report_of_appliesTo {t : Task σ} {filter : TextSet} (s : σ)
    (h : t.appliesTo filter = true) :
    t.report filter s =
      (⟨t.name, (t.action s).1.attempt.outcome, (t.action s).1.elapsed⟩, (t.action s).2) := by
  rw [report, if_pos h]

/-- A task that is not selected is skipped. -/
theorem Task.report_of_not_appliesTo {t : Task σ} {filter : TextSet} (s : σ)
    (h : ¬ t.appliesTo filter = true) : t.report filter s = (⟨t.name, .skipped, 0⟩, s) := by
  rw [report, if_neg h]

/-- A filter selects a task if it is empty, or holds a tag of the task. -/
theorem Task.appliesTo_iff (t : Task σ) (filter : TextSet) :
    t.appliesTo filter = true ↔ (¬ ∃ tag, tag ∈ filter) ∨ ∃ tag ∈ filter, tag ∈ t.tags := by
  have hempty : filter.isEmpty = true ↔ ¬ ∃ tag, tag ∈ filter := by
    rw [← Keyed.isEmpty_eq_false_iff, Bool.not_eq_false]
  have hmeets : t.tags.meets filter = true ↔ ∃ tag ∈ filter, tag ∈ t.tags := by
    rw [TextSet.meets_iff]
    exact exists_congr fun tag => and_comm
  rw [appliesTo, Bool.or_eq_true, hempty, hmeets]

/-- A report has the name of its task. -/
@[simp] theorem Task.name_report (t : Task σ) (filter : TextSet) (s : σ) :
    (t.report filter s).1.name = t.name := by
  unfold report
  split <;> rfl

/-- A task is skipped exactly if the filter does not select it. -/
private theorem Task.outcome_report_eq_skipped_iff (t : Task σ) (filter : TextSet) (s : σ) :
    (t.report filter s).1.outcome = .skipped ↔ ¬ t.appliesTo filter = true := by
  by_cases h : t.appliesTo filter = true
  · rw [report_of_appliesTo s h]
    have heval := (t.action s).1.attempt.isEvaluated_outcome
    rw [Outcome.isEvaluated_iff] at heval
    simp [h, heval.2]
  · rw [report_of_not_appliesTo s h]
    simp [h]

/-- A task that the run comes to is not left out. -/
private theorem Task.outcome_report_ne_notRun (t : Task σ) (filter : TextSet) (s : σ) :
    (t.report filter s).1.outcome ≠ .notRun := by
  by_cases h : t.appliesTo filter = true
  · rw [report_of_appliesTo s h]
    have heval := (t.action s).1.attempt.isEvaluated_outcome
    rw [Outcome.isEvaluated_iff] at heval
    exact heval.1
  · rw [report_of_not_appliesTo s h]
    simp

/-! ### All tasks -/

section Run

variable {policy : FailurePolicy} {filter : TextSet}

/-- A report makes the run halt. -/
def Report.halts (policy : FailurePolicy) (r : Report) : Bool :=
  r.outcome.isFailed && policy = .stopOnFirstFailure

@[simp] theorem reports_nil (halted : Bool) (s : σ) :
    reports policy filter halted [] s = ([], s) := rfl

/-- A run that has halted leaves out all tasks and touches nothing. -/
theorem reports_halted (tasks : List (Task σ)) (s : σ) :
    reports policy filter true tasks s = (tasks.map Task.unrun, s) := by
  induction tasks with
  | nil => rfl
  | cons t rest ih =>
    rw [reports, if_pos rfl, ih]
    rfl

/-- One step of a run that has not halted. -/
theorem reports_cons (t : Task σ) (rest : List (Task σ)) (s : σ) :
    reports policy filter false (t :: rest) s =
      let (r, s₁) := t.report filter s
      let (rs, s₂) := reports policy filter (r.halts policy) rest s₁
      (r :: rs, s₂) := by
  rw [reports, if_neg Bool.false_ne_true]
  unfold Task.enter Task.report
  -- A task that is left out does not change the state, and one that is not is evaluated once.
  by_cases h : t.appliesTo filter = true
  · rw [if_pos h, if_pos h]
    rfl
  · rw [if_neg h, if_neg h]
    rfl

/-- The first report of a run, and those behind it. -/
@[simp] theorem fst_reports_cons (t : Task σ) (rest : List (Task σ)) (s : σ) :
    (reports policy filter false (t :: rest) s).1 =
      (t.report filter s).1 ::
        (reports policy filter ((t.report filter s).1.halts policy) rest
          (t.report filter s).2).1 := by
  rw [reports_cons]

/-- The state that a run leaves is that of the rest after the first task. -/
@[simp] theorem snd_reports_cons (t : Task σ) (rest : List (Task σ)) (s : σ) :
    (reports policy filter false (t :: rest) s).2 =
      (reports policy filter ((t.report filter s).1.halts policy) rest
        (t.report filter s).2).2 := by
  rw [reports_cons]

/-- The reports bear the names of the tasks, in their order. -/
theorem map_name_reports (policy : FailurePolicy) (filter : TextSet) (halted : Bool)
    (tasks : List (Task σ)) (s : σ) :
    (reports policy filter halted tasks s).1.map (·.name) = tasks.map (·.name) := by
  induction tasks generalizing halted s with
  | nil => rfl
  | cons t rest ih =>
    cases halted with
    | true => simp [reports_halted, Task.unrun]
    | false =>
      -- The names do not depend on whether the first report makes the run halt.
      rw [fst_reports_cons, List.map_cons, List.map_cons, ih, Task.name_report]

/-- There is a report on every task. -/
theorem length_reports (policy : FailurePolicy) (filter : TextSet) (halted : Bool)
    (tasks : List (Task σ)) (s : σ) :
    (reports policy filter halted tasks s).1.length = tasks.length := by
  have hnames := congrArg List.length (map_name_reports policy filter halted tasks s)
  simpa using hnames

/-- Every report is made on coming to its task or on leaving it out. -/
theorem report_cases {halted : Bool} {tasks : List (Task σ)} {s : σ} {i : Nat} {t : Task σ}
    {r : Report} (ht : tasks[i]? = some t)
    (hr : (reports policy filter halted tasks s).1[i]? = some r) :
    r = t.unrun ∨ ∃ s', r = (t.report filter s').1 := by
  -- By induction on the tasks; the state is any, as the tasks before have changed it.
  induction tasks generalizing halted s i with
  | nil => simp at ht
  | cons u rest ih =>
    cases halted with
    | true =>
      rw [reports_halted, List.getElem?_map, ht] at hr
      exact .inl (Option.some.inj hr).symm
    | false =>
      rw [fst_reports_cons] at hr
      cases i with
      | zero =>
        obtain rfl : u = t := by simpa using ht
        exact .inr ⟨s, by simpa using hr.symm⟩
      | succ i => exact ih (by simpa using ht) (by simpa using hr)

/-- A task that is not left out is skipped exactly if the filter does not select it. -/
theorem outcome_eq_skipped_iff {halted : Bool} {tasks : List (Task σ)} {s : σ} {i : Nat}
    {t : Task σ} {r : Report} (ht : tasks[i]? = some t)
    (hr : (reports policy filter halted tasks s).1[i]? = some r) (hrun : r.outcome ≠ .notRun) :
    r.outcome = .skipped ↔ ¬ t.appliesTo filter = true := by
  rcases report_cases ht hr with rfl | ⟨s', rfl⟩
  · exact absurd rfl hrun
  · exact Task.outcome_report_eq_skipped_iff t filter s'

/-- A task is left out exactly if the run had halted before, or halts at an earlier task. -/
theorem outcome_eq_notRun_iff {halted : Bool} {tasks : List (Task σ)} {s : σ} {i : Nat}
    {r : Report} (hr : (reports policy filter halted tasks s).1[i]? = some r) :
    r.outcome = .notRun ↔
      halted = true ∨
        ∃ earlier ∈ (reports policy filter halted tasks s).1.take i,
          earlier.halts policy = true := by
  induction tasks generalizing halted s i with
  | nil => simp at hr
  | cons t rest ih =>
    cases halted with
    | true =>
      rw [reports_halted, List.getElem?_map, Option.map_eq_some_iff] at hr
      obtain ⟨u, -, rfl⟩ := hr
      simp [Task.unrun]
    | false =>
      rw [fst_reports_cons] at hr ⊢
      cases i with
      | zero =>
        -- Nothing is earlier than the first report, and the run comes to the first task.
        obtain rfl := Option.some.inj hr
        simp [Task.outcome_report_ne_notRun]
      | succ i =>
        rw [List.getElem?_cons_succ] at hr
        -- Whether the rest begins halted depends on the first report, which is the earliest.
        rw [ih hr, List.take_succ_cons]
        simp

end Run

end Suite.Gate
