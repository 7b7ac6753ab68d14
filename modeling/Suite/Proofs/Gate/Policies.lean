import Suite.Proofs.Gate.Account

/-!
# The two policies side by side

A run that stops at failures goes in lockstep with one that goes on, from the same state, up to the
first failure. It then leaves out what is left, so it is the run that goes on over fewer tasks.

## Key results

- `reports_stop`: a run that stops, in terms of one that goes on
- `run_stop_follows_run_continue`: both runs of a gate
-/

namespace Suite.Gate

variable {σ : Type}

/-- The position of the first report on a task that failed. -/
def firstFailed? (rs : List Report) : Option Nat := rs.findIdx? (·.outcome.isFailed)

/-- A run that goes on is not halted by a report. -/
@[simp] theorem Report.halts_continueOnFailure (r : Report) :
    r.halts .continueOnFailure = false := by
  simp [halts]

/-- A run that stops at failures is halted by a report on one. -/
@[simp] theorem Report.halts_stopOnFirstFailure (r : Report) :
    r.halts .stopOnFirstFailure = r.outcome.isFailed := by
  simp [halts]

/-- A run that stops has, up to the first failure, the reports and the states of one that goes on;
if there is a failure, it reports as left out what comes later. -/
theorem reports_stop (filter : TextSet) (tasks : List (Task σ)) (s : σ) :
    reports .stopOnFirstFailure filter false tasks s =
      match firstFailed? (reports .continueOnFailure filter false tasks s).1 with
      | none => reports .continueOnFailure filter false tasks s
      | some k =>
        ((reports .continueOnFailure filter false tasks s).1.take (k + 1) ++
            (tasks.drop (k + 1)).map Task.unrun,
          (reports .continueOnFailure filter false (tasks.take (k + 1)) s).2) := by
  induction tasks generalizing s with
  | nil => rfl
  | cons t rest ih =>
    rw [reports_cons, reports_cons]
    simp only [Report.halts_continueOnFailure, Report.halts_stopOnFirstFailure]
    cases hfailed : (t.report filter s).1.outcome.isFailed with
    | true =>
      -- The first task fails: nothing else is run.
      rw [reports_halted]
      simp [firstFailed?, List.findIdx?_cons, hfailed]
    | false =>
      -- Both go on with the rest, so its first failure is one position further on.
      have hfirst : ∀ rs, firstFailed? ((t.report filter s).1 :: rs) =
          (firstFailed? rs).map (· + 1) := by
        intro rs
        simp [firstFailed?, List.findIdx?_cons, hfailed]
      rw [ih, hfirst]
      cases firstFailed? (reports .continueOnFailure filter false rest (t.report filter s).2).1 with
      | none => rfl
      | some j =>
        simp only [Option.map_some, List.take_succ_cons, List.drop_succ_cons, snd_reports_cons,
          Report.halts_continueOnFailure, List.cons_append]

/-- Leaving out what comes after the first failure leaves the status as it is. -/
private theorem statusOf_take_append {rs unrun : List Report} {k : Nat}
    (h : firstFailed? rs = some k) :
    statusOf (rs.take (k + 1) ++ unrun) = statusOf rs := by
  obtain ⟨hk, hfailed, -⟩ := List.findIdx?_eq_some_iff_getElem.1 h
  have hmem : rs[k] ∈ rs.take (k + 1) := by
    rw [List.take_succ_eq_append_getElem hk]
    exact List.mem_append_right _ List.mem_cons_self
  -- The report that failed is kept, so the run has failed with and without the others.
  have hstop : statusOf (rs.take (k + 1) ++ unrun) = .failed :=
    (statusOf_eq_failed_iff _).2 ⟨rs[k], List.mem_append_left _ hmem, hfailed⟩
  have hgo : statusOf rs = .failed :=
    (statusOf_eq_failed_iff _).2 ⟨rs[k], List.getElem_mem hk, hfailed⟩
  rw [hstop, hgo]

/-- From one state, a gate that stops at failures and one that goes on have the same status. If no
task of the one that goes on fails, both have the same reports and leave the same state. Otherwise
they have the same reports up to the first failure, at the position `k`; what comes later is left
out by the one that stops, and it calls no action there. -/
theorem run_stop_follows_run_continue (tasks : List (Task σ)) (on on' : Occasion)
    (filter : TextSet) (s : σ) :
    let going : Gate σ := ⟨tasks, .continueOnFailure⟩
    let stopping : Gate σ := ⟨tasks, .stopOnFirstFailure⟩
    (stopping.run on' filter s).1.status = (going.run on filter s).1.status ∧
    match firstFailed? (going.run on filter s).1.tasks with
    | none =>
      (stopping.run on' filter s).1.tasks = (going.run on filter s).1.tasks ∧
      (stopping.run on' filter s).2 = (going.run on filter s).2
    | some k =>
      (stopping.run on' filter s).1.tasks =
        (going.run on filter s).1.tasks.take (k + 1) ++ (tasks.drop (k + 1)).map Task.unrun ∧
      ∀ i > k, (stopping.calls on' filter s).callsAt i = [] := by
  intro going stopping
  -- Both runs are passes over the same tasks; only the policy differs.
  have hgoing : (going.run on filter s).1.tasks =
      (reports .continueOnFailure filter false tasks s).1 := rfl
  have hstopping : (stopping.run on' filter s).1.tasks =
      (reports .stopOnFirstFailure filter false tasks s).1 := rfl
  have hlockstep := reports_stop filter tasks s
  rw [← hgoing] at hlockstep
  cases hfirst : firstFailed? (going.run on filter s).1.tasks with
  | none =>
    -- Nothing fails: both runs are the same.
    rw [hfirst] at hlockstep
    have htasks := congrArg Prod.fst hlockstep
    have hstate := congrArg Prod.snd hlockstep
    exact ⟨congrArg statusOf htasks, htasks, hstate⟩
  | some k =>
    rw [hfirst] at hlockstep
    have htasks : (stopping.run on' filter s).1.tasks =
        (going.run on filter s).1.tasks.take (k + 1) ++ (tasks.drop (k + 1)).map Task.unrun :=
      congrArg Prod.fst hlockstep
    refine ⟨(congrArg statusOf htasks).trans (statusOf_take_append hfirst), htasks, fun i hi => ?_⟩
    -- Whatever report there is at a later position, it is on a task that was left out.
    refine callsAt_eq_nil fun r hr => ?_
    have hlen : ((going.run on filter s).1.tasks.take (k + 1)).length ≤ i := by
      rw [List.length_take]
      omega
    rw [htasks, List.getElem?_append_right hlen, List.getElem?_map] at hr
    obtain ⟨t, -, rfl⟩ := Option.map_eq_some_iff.1 hr
    simp [Task.unrun, Outcome.isEvaluated]

end Suite.Gate
