import Suite.Cli.Run
import Suite.Proofs.Gate.Stages

/-!
# The outcome of a gate

What a run of the gate leaves behind and which programs it asked for, told by the commands of the
description and by how their programs ended. That the tool reports success is a statement about
every program that was to be started, whatever these programs do.

## Key results

- `startAll_recording`: the programs asked for when commands are started one after the other
- `exit_gateOutcome_iff`, `gateOutcome_of_failed`: exit code and message, by the failures reported
- `gate_starts_selected_commands`: the outcome of a gate as a whole
-/

namespace Suite.Cli

open Host (Executor Launch Machine)

/-! ### Programs asked for -/

section Recording

variable (exec : Executor Machine) (directory : Option Path)

/-- Starting a command puts its program, if there is one, on the list. -/
private theorem start_recording (t : GateCommand) (w : World) :
    t.start (recording exec) directory w =
      ((t.start exec directory w.machine).1,
        { machine := (t.start exec directory w.machine).2
          launches := w.launches ++ (t.launch? directory).toList }) := by
  unfold GateCommand.start
  cases t.launch? directory with
  | none => simp
  | some l =>
    simp only [recording]
    rcases exec l w.machine with ⟨e | f, m⟩ <;> rfl

/-- Starting commands one after the other puts their programs on the list, in their order. -/
theorem startAll_recording (ts : List GateCommand) (w : World) :
    GateCommand.startAll (recording exec) directory ts w =
      ((GateCommand.startAll exec directory ts w.machine).1,
        { machine := (GateCommand.startAll exec directory ts w.machine).2
          launches := w.launches ++ ts.filterMap (GateCommand.launch? directory) }) := by
  -- By induction on the commands: what is recorded so far stands in front of what is added.
  induction ts generalizing w with
  | nil => simp
  | cons t rest ih =>
    rw [GateCommand.startAll_cons, GateCommand.startAll_cons, start_recording, ih]
    cases h : t.launch? directory <;> simp [h]

end Recording

/-! ### Outcomes -/

section Outcomes

variable {σ : Type} (g : Gate σ) (on : Gate.Occasion) (filter : TextSet) (s : σ) (asJson : Bool)

/-- A run passed exactly if no task is reported to have failed. -/
private theorem passed_run_iff :
    (g.run on filter s).1.passed = true ↔ (g.run on filter s).1.failedCount = 0 := by
  have hstatus : (g.run on filter s).1.status = .failed ↔ _ :=
    Gate.statusOf_eq_failed_iff (g.run on filter s).1.tasks
  cases hr : (g.run on filter s).1.status <;>
    simp_all [Gate.Result.passed, Gate.Result.failedCount]

/-- The exit code is 0 exactly if no task is reported to have failed. -/
theorem exit_gateOutcome_iff :
    (gateOutcome (g.run on filter s).1 asJson).exit = 0 ↔
      (g.run on filter s).1.failedCount = 0 := by
  rw [← passed_run_iff, gateOutcome]
  split
  · next hpassed => simp [hpassed]
  · next hfailed => simp [hfailed, failed, failureCode]

/-- Otherwise the tool fails with a message that says how many tasks are. -/
private theorem gateOutcome_of_exit_ne_zero
    (h : (gateOutcome (g.run on filter s).1 asJson).exit ≠ 0) :
    (gateOutcome (g.run on filter s).1 asJson).exit = failureCode ∧
    (gateOutcome (g.run on filter s).1 asJson).stderr =
      Text.encode ("Error: Gate failed with " ++ toString (g.run on filter s).1.failedCount ++
        " violation(s)\n") := by
  -- A run that passed exits with zero, so this one did not pass.
  have hpassed : ¬ (g.run on filter s).1.passed = true := fun hpassed =>
    h ((exit_gateOutcome_iff g on filter s asJson).2 ((passed_run_iff g on filter s).1 hpassed))
  -- The texts are cut where the error message is put together.
  have hfront : "Error: Gate failed with " = "Error: " ++ "Gate failed with " := rfl
  have hback : " violation(s)\n" = " violation(s)" ++ "\n" := rfl
  rw [gateOutcome, if_neg hpassed, hfront, hback]
  refine ⟨rfl, ?_⟩
  simp only [failed, errorText, String.append_assoc]

end Outcomes

/-- A command line comes to what it asks for, once the description is loaded. -/
private theorem run_of_parse {exec : Executor Machine} {on : Gate.Occasion} {m : Machine}
    {line : List String} {config : Option Path} {request : Request} {c : Config}
    (hparse : parse m.setting? line = .ok ⟨config, request⟩) (hload : loadConfig m config = .ok c) :
    run exec on m line = perform exec on m (requestPlan m c request) := by
  rw [run, plan, hparse]
  simp only [hload]

/-- The gate goes through the commands of the description in their order and starts those with a
requested tag, all of them if none is requested; if it is to stop at failures, it starts only those
that no failure comes before. The tool exits with the code 0 exactly if each of these commands could
be started as a program and exited with the code 0 in time. Otherwise it fails and says how many
could not or did not. -/
theorem gate_starts_selected_commands (exec : Executor Machine) (on : Gate.Occasion) (m : Machine)
    (c : Config) (tags : String) (stop : Bool) (directory : Option Path) (asJson : Bool) :
    let finished := perform exec on m (requestPlan m c (.gate tags stop directory asJson))
    let selected := c.gate.tasks.filter (·.isSelected (Text.entries tags))
    (∀ line config, parse m.setting? line = .ok ⟨config, .gate tags stop directory asJson⟩ →
      loadConfig m config = .ok c → run exec on m line = finished) ∧
    ∃ started, started <+: selected ∧
      let endings := (GateCommand.startAll exec directory started m).1
      (∀ i < selected.length, i < started.length ↔
        stop = false ∨ ∀ ending ∈ endings.take i, ending = some (.exited 0)) ∧
      finished.2.machine = (GateCommand.startAll exec directory started m).2 ∧
      finished.2.launches = started.filterMap (GateCommand.launch? directory) ∧
      (finished.1.exit = 0 ↔ ∀ ending ∈ endings, ending = some (.exited 0)) ∧
      (finished.1.exit ≠ 0 → finished.1.exit = 1 ∧ finished.1.stderr =
        Text.encode ("Error: Gate failed with " ++
          toString (endings.countP (· ≠ some (.exited 0))) ++ " violation(s)\n")) := by
  intro finished selected
  refine ⟨fun line config hparse hload => run_of_parse hparse hload, ?_⟩
  -- The gate of the plan, and its run with the list of programs beside the machine.
  let policy : FailurePolicy := if stop then .stopOnFirstFailure else .continueOnFailure
  let g : Gate World := Stage.gate (c.stages directory) (recording exec) policy
  let filter := Gate.parseTags tags
  have hpolicy : policy = .continueOnFailure ↔ stop = false := by cases stop <;> simp [policy]
  have htasks : g.tasks = c.gate.tasks.map fun t => (t.stage directory).task (recording exec) := by
    change (c.stages directory).map _ = _
    rw [GateCommand.stages_eq, List.map_map]
    rfl
  have hfinished : finished =
      (gateOutcome (g.run on filter { machine := m }).1 asJson,
        (g.run on filter { machine := m }).2) := rfl
  obtain ⟨started, hprefix, hends, hworld, hcount⟩ :=
    GateCommand.reports_stages (recording exec) directory policy tags c.gate.tasks { machine := m }
  rw [← htasks] at hworld hcount
  -- What is recorded beside the machine does not change what is started.
  rw [startAll_recording] at hends hworld hcount
  change (g.run on filter { machine := m }).2 = _ at hworld
  change (g.run on filter { machine := m }).1.failedCount = _ at hcount
  refine ⟨started, hprefix, ?_, ?_, ?_, ?_, ?_⟩
  · intro i hi
    rw [← hpolicy, ← GateCommand.length_startAll exec directory started m]
    exact hends i hi
  · rw [hfinished, hworld]
  · rw [hfinished, hworld]
    simp
  · rw [hfinished, exit_gateOutcome_iff, hcount, List.countP_eq_zero]
    simp
  · intro hexit
    rw [← hcount]
    exact gateOutcome_of_exit_ne_zero g on filter { machine := m } asJson hexit

-- A program that a signal ends has no exit code, and fails the gate.
example (on : Gate.Occasion) (m : Machine) :
    let finished := perform (fun _ m => (.ok ⟨[], [], .signalled 9, 0⟩, m)) on m
      (requestPlan m {} (.gate " jackpot," false none false))
    finished.1.exit = 1 ∧
      finished.2.launches = [⟨"mx", ["jackpot", "--fail-on-warnings"], none⟩] := by
  cbv

end Suite.Cli
