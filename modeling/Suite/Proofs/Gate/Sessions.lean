import Suite.Proofs.Gate.Account

/-!
# Gates that are filled and run again

Tasks are added to a gate and runs are made of it, in any order. A `Session` is what has come of
that so far: the gate, the state that its actions have left, and the results. What was called is
seen as in a single run, by actions that write down their calls; the log goes on from one run to the
next, and so does the account that the reports give of it.

## Key results

- `gate_afterAll`: a run leaves the gate as it was
- `Watches.after_add`, `Watches.after_run`, `Watches.afterAll`: what one step, and what all steps,
  add to the log
- `outcome_callsAt_session`: the calls at one position, read off the reports of all runs
- `session_accounts_for_calls`: the account of a whole session
-/

namespace Suite.Gate

variable {σ : Type}

/-- What is done with a gate. -/
inductive Step (σ : Type)
  | add (t : Task σ)
  | run (on : Occasion) (filter : TextSet)

/-- The task that a step adds. -/
def Step.task? : Step σ → Option (Task σ)
  | .add t => some t
  | .run _ _ => none

/-- The tasks that steps add, in their order. -/
def added (steps : List (Step σ)) : List (Task σ) := steps.filterMap Step.task?

/-- A gate in use: the state of its actions and the results of the runs so far. -/
structure Session (σ : Type) where
  gate : Gate σ
  state : σ
  results : List Result

/-- The reports on a position that tell of a call, over several runs. -/
def evaluatedAt (results : List Result) (i : Nat) : List Report :=
  (results.filterMap fun r => r.tasks[i]?).filter fun report => report.outcome.isEvaluated

namespace Session

/-- A gate that is not filled yet. -/
def start (policy : FailurePolicy) (s : σ) : Session σ := ⟨⟨[], policy⟩, s, []⟩

/-- The session one step later. -/
def after (x : Session σ) : Step σ → Session σ
  | .add t => { x with gate := x.gate.add t }
  | .run on filter =>
    let (result, s) := x.gate.run on filter x.state
    { x with state := s, results := x.results ++ [result] }

/-- The session some steps later. -/
def afterAll (x : Session σ) (steps : List (Step σ)) : Session σ := steps.foldl after x

/-- Steps that add watched tasks, the first one at the position `start`. -/
def watchedSteps (start : Nat) : List (Step σ) → List (Step (σ × Log))
  | [] => []
  | .add t :: rest => .add (t.watched start) :: watchedSteps (start + 1) rest
  | .run on filter :: rest => .run on filter :: watchedSteps start rest

/-- The calls of actions in all runs of a session. -/
def calls (policy : FailurePolicy) (s : σ) (steps : List (Step σ)) : Log :=
  ((start policy (s, [])).afterAll (watchedSteps 0 steps)).state.2

/-! ### Sessions -/

@[simp] theorem afterAll_nil (x : Session σ) : x.afterAll [] = x := rfl

@[simp] theorem afterAll_cons (x : Session σ) (step : Step σ) (rest : List (Step σ)) :
    x.afterAll (step :: rest) = (x.after step).afterAll rest := rfl

/-- Steps one after the other go on from the session that the first ones leave. -/
private theorem afterAll_append (x : Session σ) (steps more : List (Step σ)) :
    x.afterAll (steps ++ more) = (x.afterAll steps).afterAll more := List.foldl_append

/-- A gate changes only by the tasks that are added at its end: a run leaves it as it was. -/
theorem gate_afterAll (x : Session σ) (steps : List (Step σ)) :
    (x.afterAll steps).gate = ⟨x.gate.tasks ++ added steps, x.gate.policy⟩ := by
  -- By induction on the steps: adding a task makes the list longer, and a run leaves it.
  induction steps generalizing x with
  | nil => simp [added]
  | cons step rest ih =>
    rw [afterAll_cons, ih]
    cases step with
    | add t =>
      have hadded : added (.add t :: rest) = t :: added rest := rfl
      rw [hadded]
      simp [after, add]
    | run on filter => rfl

/-- No result is ever changed or taken back. -/
private theorem results_afterAll (x : Session σ) (steps : List (Step σ)) :
    x.results <+: (x.afterAll steps).results := by
  -- By induction on the steps: results are only added at the end.
  induction steps generalizing x with
  | nil => exact List.prefix_rfl
  | cons step rest ih =>
    have hstep : x.results <+: (x.after step).results := by
      cases step with
      | add t => exact List.prefix_rfl
      | run on filter => exact List.prefix_append _ _
    exact hstep.trans (ih (x.after step))

/-- The result of a run stands where the results before it end. -/
private theorem getElem?_results (x : Session σ) {steps before rest : List (Step σ)} {on : Occasion}
    {filter : TextSet} (h : steps = before ++ .run on filter :: rest) :
    (x.afterAll steps).results[(x.afterAll before).results.length]? =
      some ((x.afterAll before).gate.run on filter (x.afterAll before).state).1 := by
  -- The result is the last one after the run, and later steps keep it in its place.
  have hprefix := results_afterAll ((x.afterAll before).after (.run on filter)) rest
  have hlast : ((x.afterAll before).after (.run on filter)).results =
      (x.afterAll before).results ++
        [((x.afterAll before).gate.run on filter (x.afterAll before).state).1] := rfl
  rw [hlast] at hprefix
  obtain ⟨later, hlater⟩ := hprefix
  rw [h, afterAll_append, afterAll_cons, ← hlater]
  simp

/-! ### Watching -/

/-- The session `y` is the session `x` with watched actions, and the log beside the state holds the
calls that the results tell of, run after run. -/
structure Watches (y : Session (σ × Log)) (x : Session σ) : Prop where
  gate : y.gate = x.gate.watched
  state : y.state.1 = x.state
  results : y.results = x.results
  log : y.state.2.outcomes = x.results.flatMap fun r => evaluatedFrom 0 r.tasks

/-- At the start the watched session is like the other one, with an empty log. -/
private theorem watches_start (policy : FailurePolicy) (s : σ) :
    Watches (start policy (s, [])) (start policy s) := ⟨rfl, rfl, rfl, rfl⟩

/-- A task is watched at the position at which it is added. -/
private theorem watched_add (g : Gate σ) (t : Task σ) :
    (g.add t).watched = g.watched.add (t.watched g.tasks.length) := by
  have htasks : watchedFrom 0 (g.tasks ++ [t]) =
      watchedFrom 0 g.tasks ++ [t.watched g.tasks.length] := by
    simp [watchedFrom, List.zipIdx_append]
  simp only [add, watched, htasks]

variable {y : Session (σ × Log)} {x : Session σ}

/-- A watched task is added like the task, and no call is made. -/
theorem Watches.after_add (h : Watches y x) (t : Task σ) :
    Watches (y.after (.add (t.watched x.gate.tasks.length))) (x.after (.add t)) where
  gate := by
    rw [after, after, watched_add, h.gate]
  state := h.state
  results := h.results
  log := h.log

/-- A watched run gives the result of the run, and writes down the calls that this tells of. -/
theorem Watches.after_run (h : Watches y x) (on : Occasion) (filter : TextSet) :
    Watches (y.after (.run on filter)) (x.after (.run on filter)) := by
  obtain ⟨made, hrun, hmade⟩ := x.gate.run_watched_of_log on filter x.state y.state.2
  rw [← h.gate, ← h.state] at hrun
  -- The watched run gives the same result and adds its calls to the log.
  have hafter : y.after (.run on filter) =
      ⟨y.gate, ((x.gate.run on filter x.state).2, y.state.2 ++ made),
        y.results ++ [(x.gate.run on filter x.state).1]⟩ := by
    rw [after, hrun, h.state]
  rw [hafter]
  refine ⟨h.gate, rfl, ?_, ?_⟩
  · rw [h.results]
    rfl
  · have hresults : (x.after (.run on filter)).results =
        x.results ++ [(x.gate.run on filter x.state).1] := rfl
    have houtcomes : (y.state.2 ++ made).outcomes = y.state.2.outcomes ++ made.outcomes :=
      List.map_append
    rw [hresults, houtcomes, h.log, hmade, List.flatMap_append, List.flatMap_singleton]

/-- Watched steps lead from a watched session to a watched session. -/
theorem Watches.afterAll (h : Watches y x) (steps : List (Step σ)) :
    Watches (y.afterAll (watchedSteps x.gate.tasks.length steps)) (x.afterAll steps) := by
  induction steps generalizing y x with
  | nil => exact h
  | cons step rest ih =>
    cases step with
    | add t =>
      -- The next task will be watched one position further on.
      have hlength : (x.after (.add t)).gate.tasks.length = x.gate.tasks.length + 1 := by
        simp [after, add]
      have hrest := ih (h.after_add t)
      rw [hlength] at hrest
      exact hrest
    | run on filter => exact ih (h.after_run on filter)

end Session

/-! ### The account -/

open Session

/-- A watched session stays like the other one, whatever is done. -/
private theorem watches_calls (policy : FailurePolicy) (s : σ) (steps : List (Step σ)) :
    Watches ((start policy (s, [])).afterAll (watchedSteps 0 steps))
      ((start policy s).afterAll steps) :=
  (watches_start policy s).afterAll steps

/-- The calls of the action at a position, over all runs: those that the reports on the position
tell of, with the same outcomes in the same order. -/
theorem outcome_callsAt_session (policy : FailurePolicy) (s : σ) (steps : List (Step σ)) (i : Nat) :
    ((Session.calls policy s steps).callsAt i).map (·.attempt.outcome) =
      (evaluatedAt ((start policy s).afterAll steps).results i).map (·.outcome) := by
  have hlog : (Session.calls policy s steps).outcomes = _ := (watches_calls policy s steps).log
  rw [Log.map_outcome_callsAt, hlog, evaluatedAt]
  generalize ((start policy s).afterAll steps).results = results
  -- Run by run, a position is told of once or not at all.
  induction results with
  | nil => rfl
  | cons r rest ih =>
    have hrun := filter_evaluatedFrom 0 i r.tasks
    rw [Nat.zero_add] at hrun
    rw [List.flatMap_cons, List.filter_append, List.map_append, hrun, ih]
    cases hr : r.tasks[i]? with
    | none => simp [hr]
    | some report => cases heval : report.outcome.isEvaluated <;> simp [hr, heval]

/-- The session with watched actions is the session, with its calls beside the state. -/
private theorem afterAll_watchedSteps (policy : FailurePolicy) (s : σ) (steps : List (Step σ)) :
    (start policy (s, [])).afterAll (watchedSteps 0 steps) =
      ⟨((start policy s).afterAll steps).gate.watched,
        (((start policy s).afterAll steps).state, Session.calls policy s steps),
        ((start policy s).afterAll steps).results⟩ := by
  have h := watches_calls policy s steps
  rw [← h.gate, ← h.state, ← h.results]
  rfl

/-- Tasks are added to an empty gate and runs are made of it, in any order and with any filters. At
each position there were as many calls of the action as there are reports, over all runs so far, of
a task that passed or failed, and the reports have the outcomes of these calls one by one. Nothing
else is called. Every run is one of a gate with the tasks added before it, from the state that the
actions were left in: it reports on these tasks, leaves some out only for a failure of its own, and
selects the others by its own filter. -/
theorem session_accounts_for_calls (policy : FailurePolicy) (s : σ) (steps : List (Step σ)) :
    let x := (start policy s).afterAll steps
    let calls := Session.calls policy s steps
    ((start policy (s, [])).afterAll (watchedSteps 0 steps) =
      ⟨x.gate.watched, (x.state, calls), x.results⟩) ∧
    (∀ i, (calls.callsAt i).length = (evaluatedAt x.results i).length ∧
      ∀ (j : Nat) (call : Call) (report : Report), (calls.callsAt i)[j]? = some call →
        (evaluatedAt x.results i)[j]? = some report →
        report.outcome = call.attempt.outcome) ∧
    ∀ before on filter rest, steps = before ++ .run on filter :: rest →
      let earlier := (start policy s).afterAll before
      let result := ((⟨added before, policy⟩ : Gate σ).run on filter earlier.state).1
      x.results[earlier.results.length]? = some result ∧
      result.tasks.map (·.name) = (added before).map (·.name) ∧
      ∀ i t report, (added before)[i]? = some t → result.tasks[i]? = some report →
        (report.outcome = .notRun ↔
          policy = .stopOnFirstFailure ∧
            ∃ previous ∈ result.tasks.take i, previous.outcome.isFailed = true) ∧
        (report.outcome ≠ .notRun →
          (report.outcome = .skipped ↔ (∃ tag, tag ∈ filter) ∧ ∀ tag ∈ filter, tag ∉ t.tags)) := by
  intro x calls
  have houtcomes : ∀ i, (calls.callsAt i).map (·.attempt.outcome) =
      (evaluatedAt x.results i).map (·.outcome) := outcome_callsAt_session policy s steps
  refine ⟨afterAll_watchedSteps policy s steps, fun i => ⟨?_, ?_⟩, ?_⟩
  · -- as many calls as reports
    have hlength := congrArg List.length (houtcomes i)
    simpa using hlength
  · -- with the same outcomes
    intro j call report hcall hreport
    have hj := congrArg (·[j]?) (houtcomes i)
    simp only [List.getElem?_map, hcall, hreport, Option.map_some] at hj
    exact (Option.some.inj hj).symm
  · intro before on filter rest hsteps earlier result
    -- A run sees the tasks that were added before it, and none of the later ones.
    have hgate : earlier.gate = ⟨added before, policy⟩ := gate_afterAll (start policy s) before
    have hresult := getElem?_results (start policy s) hsteps
    rw [hgate] at hresult
    refine ⟨hresult, map_name_reports policy filter false (added before) earlier.state, ?_⟩
    intro i t report ht hreport
    refine ⟨outcome_run_eq_notRun_iff hreport, fun hrun => ?_⟩
    rw [outcome_eq_skipped_iff ht hreport hrun, Task.not_appliesTo_iff]

-- A failure in one run leaves nothing out of the next, and a task is added between the two.
example (on : Occasion) :
    let flaky : Task Nat := ⟨"A", Keyed.empty, fun n =>
      (⟨if n = 0 then .failure ["broken"] else .success, 0⟩, n + 1)⟩
    (((start .stopOnFirstFailure 0).afterAll
      [.add flaky, .run on Keyed.empty, .add flaky, .run on Keyed.empty]).results.map
        fun r => r.tasks.map (·.outcome)) = [[.failed "broken"], [.passed, .passed]] := by
  cbv

end Suite.Gate
