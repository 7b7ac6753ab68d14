import Suite.Config.Written
import Suite.Gate.Run
import Suite.Host.Machine

/-!
# Stages

A `Stage` is a command with a name and tags, run as a program of its own. As the action of a gate
task it succeeds exactly when the program can be started, ends in time and exits with the code 0;
the error of a program that ended otherwise holds the end of what it wrote to its standard error.
-/

namespace Suite

/-- A command that runs as a stage of a gate. -/
structure Stage where
  name : String
  tags : List String
  /-- The program and its arguments. -/
  command : List String
  /-- The longest time it may take, in seconds; 0 for any time. -/
  timeout : Nat
  /-- Where it runs, if not in the current directory. -/
  directory : Option Path := none
  deriving DecidableEq, Repr

namespace Stage

/-- The fields of a written stage. -/
def fields : Json.Fields [String, List String, List String, Nat, Option Path] :=
  .cons (.required "name" .text) <|
  .cons (.required "tags" (.list .text)) <|
  .cons (.required "command" (.list .text)) <|
  .cons (.required "timeout_secs" .natural) <|
  .cons (.optional "cwd" Path.codec) .nil

/-- A written stage. -/
def codec : Json.Codec Stage :=
  (fields.codec "StageConfig").via
    (fun s => (s.name, s.tags, s.command, s.timeout, s.directory, ()))
    fun (name, tags, command, timeout, directory, ()) => ⟨name, tags, command, timeout, directory⟩

/-- The stage for a command of a gate. -/
def ofCommand (c : GateCommand) : Stage := ⟨c.name, c.tags, c.command, c.timeout, none⟩

/-- The stage, run in a directory. -/
def inDirectory (s : Stage) (directory : Path) : Stage := { s with directory := some directory }

/-- What a program that ran as a stage left behind. -/
structure Result where
  stageName : String
  /-- The exit code, -1 if a signal ended the program. -/
  exitCode : Int
  stdout : String
  stderr : String
  success : Bool
  durationMs : Nat := 0
  deriving DecidableEq, Repr

namespace Result

/-- The stage passed. -/
def passed (r : Result) : Bool := r.success && r.exitCode = 0

/-- The last `n` lines of the standard error. -/
def stderrTail (r : Result) (n : Nat) : String := Text.lastLines n r.stderr

end Result

/-- Why a stage has no result. -/
inductive Problem
  | emptyCommand (stage : String)
  | io (why : Host.IoError)
  /-- The program was ended when it had taken so many seconds. -/
  | timedOut (stage : String) (seconds : Nat)
  deriving DecidableEq, Repr

namespace Problem

/-- The wording of a problem. -/
def message : Problem → String
  | .emptyCommand stage => "Stage " ++ stage ++ " has empty command"
  | .io why => why.message
  | .timedOut stage seconds =>
    "Stage " ++ stage ++ " timed out after " ++ toString seconds ++ " seconds"

/-- The milliseconds until the problem is found. -/
def elapsed : Problem → Nat
  | .timedOut _ seconds => seconds * 1000
  | _ => 0

end Problem

/-- What a program left behind, as the result of a stage. Output that is no text is read as far as
it is one. -/
def ofFinished (name : String) (f : Host.Finished) : Result :=
  let out := Text.decodeLossy f.stdout
  let err := Text.decodeLossy f.stderr
  match f.ending with
  | .exited code => ⟨name, code, out, err, code = 0, f.elapsed⟩
  | .signalled _ => ⟨name, -1, out, err, false, f.elapsed⟩

/-- The program comes to its end before the time of the stage is over. -/
def endsInTime (stage : Stage) (f : Host.Finished) : Bool :=
  stage.timeout = 0 || f.elapsed ≤ stage.timeout * 1000

variable {σ : Type}

/-- Runs the program of a stage, which is ended when its time is over. -/
def execute (stage : Stage) (exec : Host.Executor σ) (s : σ) : Except Problem Result × σ :=
  match stage.command with
  | [] => (.error (.emptyCommand stage.name), s)
  | program :: arguments =>
    match exec ⟨program, arguments, stage.directory⟩ s with
    | (.error e, s) => (.error (.io e), s)
    | (.ok f, s) =>
      if stage.endsInTime f then (.ok (ofFinished stage.name f), s)
      else (.error (.timedOut stage.name stage.timeout), s)

/-- How many lines of the standard error an error shows. -/
def shownLines : Nat := 20

/-- The error of a stage that did not pass. -/
def failureText (r : Result) : String :=
  let tail := r.stderrTail shownLines
  r.stageName ++ " exited with code " ++ toString r.exitCode
    ++ if tail = "" then "" else ":\n" ++ tail

/-- What a stage is as a call of an action. -/
def callOf : Except Problem Result → Gate.Call
  | .error e => ⟨.failure [e.message], e.elapsed⟩
  | .ok r => ⟨if r.passed then .success else .failure [failureText r], r.durationMs⟩

/-- The stage as an action. -/
def action (stage : Stage) (exec : Host.Executor σ) : Gate.Action σ := fun s =>
  let (result, s) := stage.execute exec s
  (callOf result, s)

/-- The stage as a task of a gate. -/
def task (stage : Stage) (exec : Host.Executor σ) : Gate.Task σ :=
  ⟨stage.name, Keyed.ofList stage.tags, stage.action exec⟩

/-- The gate that runs stages in their order. -/
def gate (stages : List Stage) (exec : Host.Executor σ) (policy : FailurePolicy) : Gate σ :=
  ⟨stages.map fun stage => stage.task exec, policy⟩

end Stage

namespace Config

/-- The stages of the gate, in order, all run in one directory if that is given. -/
def stages (c : Config) (directory : Option Path) : List Stage :=
  c.gate.tasks.map fun t =>
    match directory with
    | some d => (Stage.ofCommand t).inDirectory d
    | none => Stage.ofCommand t

end Config

end Suite
