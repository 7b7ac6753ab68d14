import Suite.Proofs.Gate.Failures
import Suite.Proofs.Gate.Policies

/-!
# Gates of commands

The tasks of a gate may be the commands of a description, each run as a program of its own. A run
of such a gate is told here without tasks and reports: some commands are started, one after the
other, and each of them ends in some way, or is ended when its time is over, or cannot be started at
all (`startAll`).

## Key results

- `action_stage`: a stage is the program of its command, and succeeds if that exits with the code 0
  in time
- `reports_stages`: which commands a run starts, and how many of them are reported to have failed
-/

namespace Suite

open Host (Ending Executor Launch)

variable {σ : Type}

namespace GateCommand

/-- The program that a command asks for; an empty command asks for none. -/
def launch? (directory : Option Path) (t : GateCommand) : Option Launch :=
  match t.command with
  | [] => none
  | program :: arguments => some ⟨program, arguments, directory⟩

/-- A requested tag is one of the command's, or no tag is requested. -/
def isSelected (requested : List String) (t : GateCommand) : Bool :=
  requested.isEmpty || t.tags.any requested.contains

/-- The stage of a command. -/
def stage (directory : Option Path) (t : GateCommand) : Stage :=
  { Stage.ofCommand t with directory }

/-- Starts the program of a command: how it ends, if it can be started and ends in time. -/
def start (exec : Executor σ) (directory : Option Path) (t : GateCommand) (s : σ) :
    Option Ending × σ :=
  match t.launch? directory with
  | none => (none, s)
  | some l =>
    match exec l s with
    | (.error _, s) => (none, s)
    | (.ok f, s) => (if (t.stage directory).endsInTime f then some f.ending else none, s)

/-- Starts the programs of commands one after the other, whatever becomes of them. -/
def startAll (exec : Executor σ) (directory : Option Path) :
    List GateCommand → σ → List (Option Ending) × σ
  | [], s => ([], s)
  | t :: rest, s =>
    let (ending, s) := t.start exec directory s
    let (endings, s) := startAll exec directory rest s
    (ending :: endings, s)

@[simp] theorem startAll_nil (exec : Executor σ) (directory : Option Path) (s : σ) :
    startAll exec directory [] s = ([], s) := rfl

@[simp] theorem startAll_cons (exec : Executor σ) (directory : Option Path) (t : GateCommand)
    (rest : List GateCommand) (s : σ) :
    startAll exec directory (t :: rest) s =
      ((t.start exec directory s).1 ::
          (startAll exec directory rest (t.start exec directory s).2).1,
        (startAll exec directory rest (t.start exec directory s).2).2) := rfl

/-- Every command that is started has an ending, or none in time. -/
theorem length_startAll (exec : Executor σ) (directory : Option Path) (ts : List GateCommand)
    (s : σ) : (startAll exec directory ts s).1.length = ts.length := by
  induction ts generalizing s with
  | nil => rfl
  | cons t rest ih => rw [startAll_cons, List.length_cons, List.length_cons, ih]

/-- The stages of a description are those of its commands. -/
theorem stages_eq (c : Config) (directory : Option Path) :
    c.stages directory = c.gate.tasks.map (stage directory) := by
  cases directory <;> rfl

variable {exec : Executor σ} {directory : Option Path} {t : GateCommand}

/-- The action of a stage runs the program of the command, and succeeds exactly if the program is
started and exits with the code 0 in time. -/
theorem action_stage (exec : Executor σ) (directory : Option Path) (t : GateCommand) (s : σ) :
    ((t.stage directory).action exec s).2 = (t.start exec directory s).2 ∧
    (((t.stage directory).action exec s).1.attempt = .success ↔
      (t.start exec directory s).1 = some (.exited 0)) := by
  have hcommand : (t.stage directory).command = t.command := rfl
  have hdirectory : (t.stage directory).directory = directory := rfl
  unfold start launch?
  -- The command is empty, cannot be started, or ends; the stage follows it in each case.
  cases hprogram : t.command with
  | nil => simp [Stage.action, Stage.execute, Stage.callOf, hcommand, hprogram]
  | cons program arguments =>
    cases hexec : exec ⟨program, arguments, directory⟩ s with
    | mk result s' =>
      cases result with
      | error e =>
        simp [Stage.action, Stage.execute, Stage.callOf, hcommand, hdirectory, hprogram, hexec]
      | ok f =>
        rw [Stage.action_of_started (hcommand.trans hprogram) hexec]
        simp only [hexec, true_and]
        rw [(Stage.attempt_callOfFinished (t.stage directory) f).1]
        cases (t.stage directory).endsInTime f <;> simp

/-- The filter selects the commands that have a tag in its text. -/
private theorem appliesTo_task (tags : String) :
    ((t.stage directory).task exec).appliesTo (Gate.parseTags tags) =
      t.isSelected (Text.entries tags) := by
  have hnone : (Gate.parseTags tags).isEmpty = false ↔ (Text.entries tags).isEmpty = false := by
    rw [Keyed.isEmpty_eq_false_iff, List.isEmpty_eq_false_iff_exists_mem]
    simp only [Gate.parseTags, TextSet.mem_ofList_iff]
  -- Both sides look at the list of tags in two ways: is it empty, and does it meet the own tags.
  have hempty : (Gate.parseTags tags).isEmpty = (Text.entries tags).isEmpty :=
    Bool.not_inj (Bool.eq_iff_iff.2 (by simpa using hnone))
  have hmeets : TextSet.meets (Keyed.ofList t.tags) (Gate.parseTags tags) =
      t.tags.any (Text.entries tags).contains := by
    rw [Bool.eq_iff_iff, TextSet.meets_iff]
    simp [Gate.parseTags, TextSet.mem_ofList_iff]
  rw [isSelected, ← hempty, ← hmeets]
  rfl

/-! ### Runs -/

section Runs

variable {tags : String} {policy : FailurePolicy}

/-- The commands that a filter selects, in their order. -/
def selected (tags : String) (ts : List GateCommand) : List GateCommand :=
  ts.filter (isSelected (Text.entries tags))

/-- Of `total` commands those were started that no failure comes before, or all of them under a
policy that goes on; these are their endings. -/
def EndsAtFailure (policy : FailurePolicy) (total : Nat) (endings : List (Option Ending)) : Prop :=
  ∀ i < total, i < endings.length ↔
    policy = .continueOnFailure ∨ ∀ ending ∈ endings.take i, ending = some (.exited 0)

/-- Nothing is started where there are no commands. -/
private theorem endsAtFailure_nil : EndsAtFailure policy 0 [] := fun i hi => by cases hi

/-- A failure that halts is the last of the endings. -/
private theorem endsAtFailure_singleton {ending : Option Ending}
    (hfailed : ending ≠ some (.exited 0))
    (hpolicy : policy ≠ .continueOnFailure) (total : Nat) :
    EndsAtFailure policy total [ending] := by
  intro i _
  cases i with
  | zero => simp
  | succ i => simp [hfailed, hpolicy]

/-- An ending that does not halt is followed by the other endings. -/
theorem EndsAtFailure.cons {total : Nat} {ending : Option Ending} {endings : List (Option Ending)}
    (h : EndsAtFailure policy total endings)
    (hgoes : policy = .continueOnFailure ∨ ending = some (.exited 0)) :
    EndsAtFailure policy (total + 1) (ending :: endings) := by
  intro i hi
  -- The first command goes on by assumption, and the others are as before.
  cases i with
  | zero => simp
  | succ i =>
    have hrest := h i (Nat.lt_of_succ_lt_succ hi)
    simp only [List.length_cons, Nat.succ_lt_succ_iff, hrest, List.take_succ_cons,
      List.forall_mem_cons]
    rcases hgoes with hpolicy | hsucceeded
    · simp [hpolicy]
    · simp [hsucceeded]

/-- How many reports are on tasks that failed. -/
def failedIn (rs : List Gate.Report) : Nat := rs.countP (·.outcome.isFailed)

/-- Failures are counted report by report. -/
private theorem failedIn_cons (r : Gate.Report) (rs : List Gate.Report) :
    failedIn (r :: rs) = failedIn rs + if r.outcome.isFailed then 1 else 0 :=
  List.countP_cons

/-- Tasks that were not run did not fail. -/
private theorem failedIn_map_unrun (tasks : List (Gate.Task σ)) :
    failedIn (tasks.map Gate.Task.unrun) = 0 := by
  simp [failedIn, List.countP_eq_zero, Gate.Task.unrun]

section Step

variable {s : σ}

/-- The state after the report on a selected command. -/
private theorem snd_report_task (h : t.isSelected (Text.entries tags) = true) :
    (((t.stage directory).task exec).report (Gate.parseTags tags) s).2 =
      (t.start exec directory s).2 := by
  rw [Gate.Task.report_of_appliesTo s ((appliesTo_task tags).trans h)]
  exact (action_stage exec directory t s).1

/-- A selected command is reported to have failed unless it exits with the code 0 in time. -/
private theorem isFailed_report_task (h : t.isSelected (Text.entries tags) = true) :
    (((t.stage directory).task exec).report (Gate.parseTags tags) s).1.outcome.isFailed =
      decide ((t.start exec directory s).1 ≠ some (.exited 0)) := by
  rw [Gate.Task.report_of_appliesTo s ((appliesTo_task tags).trans h), Bool.eq_iff_iff,
    decide_eq_true_iff]
  exact (Gate.Attempt.isFailed_outcome_iff _).trans
    (not_congr (action_stage exec directory t s).2)

/-- A selected command halts the run by a failure, unless the policy goes on. -/
private theorem halts_report_task (h : t.isSelected (Text.entries tags) = true) :
    (((t.stage directory).task exec).report (Gate.parseTags tags) s).1.halts policy =
      !decide (policy = .continueOnFailure ∨
        (t.start exec directory s).1 = some (.exited 0)) := by
  rw [Gate.Report.halts, isFailed_report_task h]
  cases policy <;> simp

end Step

/-- A run of the stages of commands starts the selected ones that no failure comes before, or all of
them under a policy that goes on, and reports a failure on each of these that could not be started
or did not exit with the code 0 in time. -/
theorem reports_stages (exec : Executor σ) (directory : Option Path) (policy : FailurePolicy)
    (tags : String) (ts : List GateCommand) (s : σ) :
    let reports := Gate.reports policy (Gate.parseTags tags) false
      (ts.map fun t => (t.stage directory).task exec) s
    ∃ started, started <+: selected tags ts ∧
      EndsAtFailure policy (selected tags ts).length (startAll exec directory started s).1 ∧
      reports.2 = (startAll exec directory started s).2 ∧
      failedIn reports.1 =
        (startAll exec directory started s).1.countP (· ≠ some (.exited 0)) := by
  -- By induction on the commands: those started are a first part of those that were asked for.
  induction ts generalizing s with
  | nil => exact ⟨[], List.prefix_rfl, endsAtFailure_nil, rfl, rfl⟩
  | cons t rest ih =>
    rw [List.map_cons]
    simp only [Gate.fst_reports_cons, Gate.snd_reports_cons]
    by_cases hselected : t.isSelected (Text.entries tags) = true
    · have hasked : selected tags (t :: rest) = t :: selected tags rest :=
        List.filter_cons_of_pos hselected
      rw [hasked, snd_report_task hselected, halts_report_task hselected, failedIn_cons,
        isFailed_report_task hselected]
      by_cases hgoes : policy = .continueOnFailure ∨
          (t.start exec directory s).1 = some (.exited 0)
      · obtain ⟨started, hprefix, hends, hleft, hcount⟩ := ih (t.start exec directory s).2
        rw [decide_eq_true hgoes, Bool.not_true]
        refine ⟨t :: started, (List.prefix_cons_inj t).2 hprefix, hends.cons hgoes, hleft, ?_⟩
        rw [hcount, startAll_cons, List.countP_cons]
      · -- The failure halts the run: no other command is started.
        obtain ⟨hpolicy, hne⟩ := not_or.1 hgoes
        rw [decide_eq_false hgoes, Bool.not_false, Gate.reports_halted, failedIn_map_unrun]
        refine ⟨[t], (List.prefix_cons_inj t).2 List.nil_prefix, ?_, rfl, ?_⟩
        · exact endsAtFailure_singleton hne hpolicy _
        · simp [hne]
    · -- A command that is not selected is passed over.
      have hasked : selected tags (t :: rest) = selected tags rest :=
        List.filter_cons_of_neg hselected
      have happlies : ¬ ((t.stage directory).task exec).appliesTo (Gate.parseTags tags) = true :=
        (appliesTo_task tags).symm ▸ hselected
      rw [hasked, Gate.Task.report_of_not_appliesTo s happlies, failedIn_cons]
      exact ih s

end Runs

end GateCommand

end Suite
