import Suite.Proofs.Gate.Reports

/-!
# Calls of actions

Which actions a run calls cannot be seen from its reports alone. A gate is watched by letting every
action write down its call beside the state: `Gate.watched` is the gate with such actions, and
`Gate.calls` is what they have written down at the end of a run. Watching changes nothing else
(`run_watched`).

## Key results

- `run_watched`: a watched run is the run, with its calls beside the state
- `outcomes_calls`: the calls are those of the tasks that passed or failed, one each and in their
  order
- `outcome_callsAt`: the calls at one position, read off the report there
-/

namespace Suite.Gate

/-- The calls of actions in a run, in their order, each with the position of its task. -/
abbrev Log := List (Nat × Call)

variable {σ : Type}

/-- The task, with an action that writes down its calls as those at a position. -/
def Task.watched (t : Task σ) (position : Nat) : Task (σ × Log) where
  name := t.name
  tags := t.tags
  action := fun (s, log) => ((t.action s).1, (t.action s).2, log ++ [(position, (t.action s).1)])

/-- The tasks watched, the first one at the position `start`. -/
def watchedFrom (start : Nat) (tasks : List (Task σ)) : List (Task (σ × Log)) :=
  (tasks.zipIdx start).map fun (t, position) => t.watched position

/-- The gate with actions that write down their calls. -/
def watched (g : Gate σ) : Gate (σ × Log) := ⟨watchedFrom 0 g.tasks, g.policy⟩

/-- The calls of actions in a run of the gate. -/
def calls (g : Gate σ) (on : Occasion) (filter : TextSet) (s : σ) : Log :=
  (g.watched.run on filter (s, [])).2.2

/-- The calls at one position. -/
def Log.callsAt (log : Log) (position : Nat) : List Call :=
  (log.filter fun entry => entry.1 = position).map (·.2)

/-! ### Watching -/

@[simp] theorem watchedFrom_nil (start : Nat) : watchedFrom start ([] : List (Task σ)) = [] := rfl

@[simp] theorem watchedFrom_cons (start : Nat) (t : Task σ) (rest : List (Task σ)) :
    watchedFrom start (t :: rest) = t.watched start :: watchedFrom (start + 1) rest := rfl

/-- Watched tasks that are not run are reported like the tasks themselves. -/
private theorem map_unrun_watchedFrom (start : Nat) (tasks : List (Task σ)) :
    (watchedFrom start tasks).map Task.unrun = tasks.map Task.unrun := by
  -- By induction on the tasks, whatever position the first of them has.
  induction tasks generalizing start with
  | nil => rfl
  | cons t rest ih =>
    rw [watchedFrom_cons, List.map_cons, List.map_cons, ih]
    rfl

/-- The calls that reports tell of, the first report being on the position `start`. -/
def evaluatedFrom (start : Nat) (rs : List Report) : List (Nat × Outcome) :=
  (rs.zipIdx start).filterMap fun (r, position) =>
    if r.outcome.isEvaluated then some (position, r.outcome) else none

/-- The calls of a log with what they make of their tasks. -/
def Log.outcomes (log : Log) : List (Nat × Outcome) :=
  log.map fun entry => (entry.1, entry.2.attempt.outcome)

/-- The evaluations that reports tell of: those of the first report, and the others. -/
private theorem evaluatedFrom_cons (start : Nat) (r : Report) (rest : List Report) :
    evaluatedFrom start (r :: rest) =
      evaluatedFrom start [r] ++ evaluatedFrom (start + 1) rest := by
  unfold evaluatedFrom
  cases h : r.outcome.isEvaluated <;> simp [h]

/-- Reports on tasks that were not run tell of no evaluations. -/
private theorem evaluatedFrom_map_unrun (start : Nat) (tasks : List (Task σ)) :
    evaluatedFrom start (tasks.map Task.unrun) = [] := by
  -- By induction on the tasks, whatever position the first of them has.
  induction tasks generalizing start with
  | nil => rfl
  | cons t rest ih =>
    rw [List.map_cons, evaluatedFrom_cons, ih]
    rfl

/-- A watched task is reported on as the task is, and writes down the call that the report tells
of. -/
private theorem Task.report_watched (t : Task σ) (filter : TextSet) (position : Nat) (s : σ)
    (log : Log) :
    ∃ made : Log,
      (t.watched position).report filter (s, log) =
        ((t.report filter s).1, (t.report filter s).2, log ++ made) ∧
      made.outcomes = evaluatedFrom position [(t.report filter s).1] := by
  -- Watching a task leaves its tags as they are, so both are skipped or both are called.
  by_cases h : t.appliesTo filter = true
  · have hwatched : (t.watched position).appliesTo filter = true := h
    refine ⟨[(position, (t.action s).1)], ?_, ?_⟩
    · rw [report_of_appliesTo _ hwatched, report_of_appliesTo _ h]
      rfl
    · rw [report_of_appliesTo _ h]
      simp [Log.outcomes, evaluatedFrom]
  · have hwatched : ¬ (t.watched position).appliesTo filter = true := h
    refine ⟨[], ?_, ?_⟩
    · rw [report_of_not_appliesTo _ hwatched, report_of_not_appliesTo _ h, List.append_nil]
      rfl
    · rw [report_of_not_appliesTo _ h]
      rfl

/-- Watched tasks are reported on as the tasks are, and write down the calls that the reports tell
of. -/
private theorem reports_watchedFrom (policy : FailurePolicy) (filter : TextSet) (halted : Bool)
    (start : Nat) (tasks : List (Task σ)) (s : σ) (log : Log) :
    ∃ made : Log,
      reports policy filter halted (watchedFrom start tasks) (s, log) =
        ((reports policy filter halted tasks s).1, (reports policy filter halted tasks s).2,
          log ++ made) ∧
      made.outcomes = evaluatedFrom start (reports policy filter halted tasks s).1 := by
  induction tasks generalizing halted start s log with
  | nil => exact ⟨[], by simp, rfl⟩
  | cons t rest ih =>
    cases halted with
    | true =>
      refine ⟨[], ?_, ?_⟩
      · rw [reports_halted, reports_halted, map_unrun_watchedFrom, List.append_nil]
      · rw [reports_halted, evaluatedFrom_map_unrun]
        rfl
    | false =>
      -- The first task writes down its call, and the rest goes on with the longer log.
      obtain ⟨made, hreport, hmade⟩ := t.report_watched filter start s log
      obtain ⟨more, hrest, hmore⟩ := ih ((t.report filter s).1.halts policy) (start + 1)
        (t.report filter s).2 (log ++ made)
      refine ⟨made ++ more, ?_, ?_⟩
      · rw [watchedFrom_cons, reports_cons, hreport]
        dsimp only
        rw [hrest, fst_reports_cons, snd_reports_cons, List.append_assoc]
      · rw [fst_reports_cons, evaluatedFrom_cons, ← hmade, ← hmore]
        exact List.map_append

/-- A watched run has the result and leaves the state of the run; its log is the longer by the calls
that the reports tell of. -/
theorem run_watched_of_log (g : Gate σ) (on : Occasion) (filter : TextSet) (s : σ) (log : Log) :
    ∃ made : Log,
      g.watched.run on filter (s, log) =
        ((g.run on filter s).1, (g.run on filter s).2, log ++ made) ∧
      made.outcomes = evaluatedFrom 0 (g.run on filter s).1.tasks := by
  obtain ⟨made, hreports, hmade⟩ := reports_watchedFrom g.policy filter false 0 g.tasks s log
  refine ⟨made, ?_, hmade⟩
  unfold run watched
  dsimp only
  rw [hreports]

/-- A watched run has the result and leaves the state of the run; beside the state stand its
calls. -/
theorem run_watched (g : Gate σ) (on : Occasion) (filter : TextSet) (s : σ) :
    g.watched.run on filter (s, []) =
      ((g.run on filter s).1, (g.run on filter s).2, g.calls on filter s) := by
  obtain ⟨made, hrun, -⟩ := g.run_watched_of_log on filter s []
  rw [calls, hrun]

/-- The calls of a run are those of the tasks that passed or failed, one for each, in the order of
the tasks. -/
theorem outcomes_calls (g : Gate σ) (on : Occasion) (filter : TextSet) (s : σ) :
    (g.calls on filter s).outcomes = evaluatedFrom 0 (g.run on filter s).1.tasks := by
  obtain ⟨made, hrun, hmade⟩ := g.run_watched_of_log on filter s []
  rw [calls, hrun, ← hmade]
  rfl

/-! ### Calls at one position -/

/-- Evaluations are counted from the start on. -/
private theorem le_of_mem_evaluatedFrom {start : Nat} {rs : List Report} {entry : Nat × Outcome}
    (h : entry ∈ evaluatedFrom start rs) : start ≤ entry.1 := by
  obtain ⟨⟨r, position⟩, hr, hentry⟩ := List.mem_filterMap.1 h
  have hle : start ≤ position := List.le_snd_of_mem_zipIdx hr
  dsimp only at hentry
  split at hentry
  · exact Option.some.inj hentry ▸ hle
  · cases hentry

/-- What reports tell of one position. -/
theorem filter_evaluatedFrom (start i : Nat) (rs : List Report) :
    ((evaluatedFrom start rs).filter fun entry => entry.1 = start + i).map (·.2) =
      (rs[i]?.toList.map (·.outcome)).filter Outcome.isEvaluated := by
  -- By induction on the reports, whatever position the first of them has.
  induction rs generalizing start i with
  | nil => rfl
  | cons r rest ih =>
    rw [evaluatedFrom_cons, List.filter_append, List.map_append]
    cases i with
    | zero =>
      -- The other reports tell of later positions only.
      have hlater : (evaluatedFrom (start + 1) rest).filter (fun entry => entry.1 = start + 0) =
          [] := by
        refine List.filter_eq_nil_iff.2 fun entry hentry => ?_
        have hle := le_of_mem_evaluatedFrom hentry
        simp only [decide_eq_true_eq]
        omega
      rw [hlater]
      cases h : r.outcome.isEvaluated <;> simp [evaluatedFrom, h]
    | succ i =>
      have hfirst : (evaluatedFrom start [r]).filter (fun entry => entry.1 = start + (i + 1)) =
          [] := by
        cases h : r.outcome.isEvaluated <;> simp [evaluatedFrom, h]
      have hposition : start + (i + 1) = start + 1 + i := by omega
      rw [hfirst, hposition, ih]
      rfl

/-- What the calls at a position make of their task. -/
theorem Log.map_outcome_callsAt (log : Log) (i : Nat) :
    (log.callsAt i).map (·.attempt.outcome) =
      (log.outcomes.filter fun entry => entry.1 = i).map (·.2) := by
  rw [outcomes, List.filter_map, List.map_map, callsAt, List.map_map]
  rfl

/-- The calls of the action at a position: one if the report there is of a task that passed or
failed, with that outcome, and none otherwise. -/
theorem outcome_callsAt (g : Gate σ) (on : Occasion) (filter : TextSet) (s : σ) (i : Nat) :
    ((g.calls on filter s).callsAt i).map (·.attempt.outcome) =
      ((g.run on filter s).1.tasks[i]?.toList.map (·.outcome)).filter Outcome.isEvaluated := by
  rw [← filter_evaluatedFrom 0 i, ← outcomes_calls, Nat.zero_add, Log.map_outcome_callsAt]

/-- A task that passed or failed was called once, and its report has the outcome of that call. -/
theorem callsAt_of_isEvaluated {g : Gate σ} {on : Occasion} {filter : TextSet} {s : σ} {i : Nat}
    {r : Report} (hr : (g.run on filter s).1.tasks[i]? = some r)
    (h : r.outcome.isEvaluated = true) :
    ∃ call, (g.calls on filter s).callsAt i = [call] ∧ r.outcome = call.attempt.outcome := by
  have hcalls := outcome_callsAt g on filter s i
  rw [hr, Option.toList_some, List.map_singleton, List.filter_cons_of_pos h,
    List.filter_nil] at hcalls
  obtain ⟨call, hcall, hout⟩ := List.map_eq_singleton_iff.1 hcalls
  exact ⟨call, hcall, hout.symm⟩

/-- Without a report on a task that passed or failed, there is no call at a position. -/
theorem callsAt_eq_nil {g : Gate σ} {on : Occasion} {filter : TextSet} {s : σ} {i : Nat}
    (h : ∀ r, (g.run on filter s).1.tasks[i]? = some r → ¬ r.outcome.isEvaluated = true) :
    (g.calls on filter s).callsAt i = [] := by
  have hcalls := outcome_callsAt g on filter s i
  cases hr : (g.run on filter s).1.tasks[i]? with
  | none =>
    rw [hr] at hcalls
    exact List.map_eq_nil_iff.1 hcalls
  | some r =>
    rw [hr, Option.toList_some, List.map_singleton, List.filter_cons_of_neg (h r hr)] at hcalls
    exact List.map_eq_nil_iff.1 hcalls

end Suite.Gate
