import Suite.Proofs.Gate.Calls

/-!
# The account that a run gives

A run reports on every task, and its reports say what was called: nothing else is called, and what
is said of a task follows from the filter, the policy, the reports before and the one call of its
action.

## Key results

- `Result.map_violations`, `Result.sum_counts`: violations and counts of any result
- `run_reports_every_task`: the account as a whole
-/

namespace Suite.Gate

variable {σ : Type}

/-! ### Results -/

/-- A run failed exactly if some task did. -/
theorem statusOf_eq_failed_iff (rs : List Report) :
    statusOf rs = .failed ↔ ∃ r ∈ rs, r.outcome.isFailed = true := by
  unfold statusOf
  split
  · next h => simpa using h
  · next h => simpa using h

namespace Result

/-- The violations are the reports on tasks that failed, in their order. -/
theorem map_violations (r : Result) :
    r.violations.map (fun v => (v.1, Outcome.failed v.2)) =
      (r.tasks.filter (·.outcome.isFailed)).map fun t => (t.name, t.outcome) := by
  unfold violations
  -- By induction on the reports, with a case for each outcome.
  induction r.tasks with
  | nil => rfl
  | cons t rest ih => cases h : t.outcome <;> simp [h, ih]

/-- There are violations exactly if some task failed. -/
private theorem violations_ne_nil_iff (r : Result) :
    r.violations ≠ [] ↔ ∃ t ∈ r.tasks, t.outcome.isFailed = true := by
  have hmap := congrArg (· = []) r.map_violations
  simp only [List.map_eq_nil_iff, List.filter_eq_nil_iff] at hmap
  rw [ne_eq, hmap]
  simp

/-- Every task is counted once. -/
theorem sum_counts (r : Result) :
    r.passedCount + r.failedCount + r.skippedCount + r.tasks.countP (·.outcome = .notRun) =
      r.tasks.length := by
  unfold passedCount failedCount skippedCount
  -- By induction on the reports: each outcome adds to one of the four counts.
  induction r.tasks with
  | nil => rfl
  | cons t rest ih =>
    cases h : t.outcome <;> simp [h] <;> omega

end Result

/-! ### Tasks -/

/-- A filter passes a task over if it holds tags, but none of the task's. -/
theorem Task.not_appliesTo_iff (t : Task σ) (filter : TextSet) :
    ¬ t.appliesTo filter = true ↔ (∃ tag, tag ∈ filter) ∧ ∀ tag ∈ filter, tag ∉ t.tags := by
  rw [appliesTo_iff, not_or, Classical.not_not]
  exact and_congr_right fun _ => ⟨fun h tag hf ht => h ⟨tag, hf, ht⟩,
    fun h ⟨tag, hf, ht⟩ => h tag hf ht⟩

/-- A run leaves out a task exactly if it stops at failures and an earlier task failed. -/
theorem outcome_run_eq_notRun_iff {g : Gate σ} {on : Occasion} {filter : TextSet} {s : σ} {i : Nat}
    {r : Report} (hr : (g.run on filter s).1.tasks[i]? = some r) :
    r.outcome = .notRun ↔
      g.policy = .stopOnFirstFailure ∧
        ∃ earlier ∈ (g.run on filter s).1.tasks.take i, earlier.outcome.isFailed = true := by
  have hrun : (g.run on filter s).1.tasks = (reports g.policy filter false g.tasks s).1 := rfl
  rw [hrun] at hr ⊢
  rw [outcome_eq_notRun_iff hr]
  -- A report halts the run if it failed and the policy is to stop there.
  simp only [Report.halts, Bool.and_eq_true, decide_eq_true_eq]
  constructor
  · rintro (h | ⟨earlier, hmem, hfailed, hpolicy⟩)
    · cases h
    · exact ⟨hpolicy, earlier, hmem, hfailed⟩
  · rintro ⟨hpolicy, earlier, hmem, hfailed⟩
    exact .inr ⟨earlier, hmem, hfailed, hpolicy⟩

/-- A run reports on every task, in their order and under their names. A task is left out exactly if
the policy stops at failures and an earlier task failed; any other is skipped exactly if the filter
holds tags, but none of the task's; any other is called once, and passed or failed as that call
says. Nothing else is called. The run failed exactly if some task did, and the violations are the
tasks that failed; every task is counted once. -/
theorem run_reports_every_task (g : Gate σ) (on : Occasion) (filter : TextSet) (s : σ) :
    (g.watched.run on filter (s, []) =
      ((g.run on filter s).1, (g.run on filter s).2, g.calls on filter s)) ∧
    (g.run on filter s).1.tasks.map (·.name) = g.tasks.map (·.name) ∧
    (∀ i t r, g.tasks[i]? = some t → (g.run on filter s).1.tasks[i]? = some r →
      (r.outcome = .notRun ↔
        g.policy = .stopOnFirstFailure ∧
          ∃ earlier ∈ (g.run on filter s).1.tasks.take i, earlier.outcome.isFailed = true) ∧
      (r.outcome ≠ .notRun →
        (r.outcome = .skipped ↔ (∃ tag, tag ∈ filter) ∧ ∀ tag ∈ filter, tag ∉ t.tags)) ∧
      (r.outcome ≠ .notRun ∧ r.outcome ≠ .skipped →
        ∃ call, (g.calls on filter s).callsAt i = [call] ∧ r.outcome = call.attempt.outcome ∧
          (r.outcome = .passed ↔ call.attempt = .success) ∧
          (r.outcome.isFailed = true ↔ call.attempt ≠ .success)) ∧
      (r.outcome = .notRun ∨ r.outcome = .skipped → (g.calls on filter s).callsAt i = [])) ∧
    ((g.run on filter s).1.status = .failed ↔
      ∃ r ∈ (g.run on filter s).1.tasks, r.outcome.isFailed = true) ∧
    ((g.run on filter s).1.status = .failed ↔ (g.run on filter s).1.violations ≠ []) ∧
    (g.run on filter s).1.violations.map (fun v => (v.1, Outcome.failed v.2)) =
      ((g.run on filter s).1.tasks.filter (·.outcome.isFailed)).map
        (fun r => (r.name, r.outcome)) ∧
    (g.run on filter s).1.passedCount + (g.run on filter s).1.failedCount +
        (g.run on filter s).1.skippedCount +
        (g.run on filter s).1.tasks.countP (·.outcome = .notRun) =
      g.tasks.length := by
  have hstatus : (g.run on filter s).1.status = .failed ↔
      ∃ r ∈ (g.run on filter s).1.tasks, r.outcome.isFailed = true := statusOf_eq_failed_iff _
  refine ⟨run_watched g on filter s, map_name_reports g.policy filter false g.tasks s,
    fun i t r ht hr => ?_,
    hstatus, hstatus.trans (Result.violations_ne_nil_iff _).symm, Result.map_violations _, ?_⟩
  · refine ⟨outcome_run_eq_notRun_iff hr, fun hrun => ?_, fun heval => ?_, fun hidle => ?_⟩
    · -- skipped by the filter
      rw [outcome_eq_skipped_iff ht hr hrun, Task.not_appliesTo_iff]
    · -- called once
      obtain ⟨call, hcall, hout⟩ := callsAt_of_isEvaluated hr ((Outcome.isEvaluated_iff _).2 heval)
      refine ⟨call, hcall, hout, ?_, ?_⟩
      · rw [hout, Attempt.outcome_eq_passed_iff]
      · rw [hout, Attempt.isFailed_outcome_iff]
    · -- not called
      refine callsAt_eq_nil fun r' hr' heval => ?_
      obtain rfl : r = r' := Option.some.inj (hr.symm.trans hr')
      obtain ⟨hrun, hskipped⟩ := (Outcome.isEvaluated_iff _).1 heval
      exact hidle.elim hrun hskipped
  · -- every task counted
    rw [Result.sum_counts]
    exact length_reports g.policy filter false g.tasks s

-- A task that the filter would pass over is left out all the same once the run has halted.
example (on : Occasion) :
    ((⟨[⟨"A", Keyed.ofList ["a"], fun s => (⟨.failure ["broken"], 0⟩, s)⟩,
        ⟨"B", Keyed.ofList ["b"], fun s => (⟨.success, 0⟩, s)⟩], .stopOnFirstFailure⟩ :
        Gate Unit).run on (Keyed.ofList ["a"]) ()).1.tasks.map (·.outcome) =
      [.failed "broken", .notRun] := by
  cbv

end Suite.Gate
