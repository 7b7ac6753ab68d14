import Suite.Ci.Check
import Suite.Cli.Help
import Suite.Launch.Command
import Suite.Profile
import Suite.Stage

/-!
# Carrying out a command line

`plan` decides what a command line comes to before any program is started: an outcome, one program
to launch, or the stages of a gate. `perform` carries a plan out with an executor and keeps a list
of the programs it asked for.
-/

namespace Suite.Cli

open Host (Ending Executor Finished IoError Launch Machine)

/-- What the tool leaves behind. -/
structure Outcome where
  exit : Nat
  stdout : List UInt8 := []
  stderr : List UInt8 := []
  deriving DecidableEq, Repr

/-- What a command line comes to. -/
inductive Plan
  /-- Nothing is started; the machine may have changed. -/
  | finish (outcome : Outcome) (machine : Machine)
  | launch (l : Launch)
  | gate (stages : List Stage) (policy : FailurePolicy) (filter : TextSet) (reportJson : Bool)

/-- The exit code for a command line that is wrong. -/
def usageCode : Nat := 2

/-- The exit code for an error. -/
def failureCode : Nat := 1

/-- An outcome that printed something. -/
def printed (s : String) : Outcome := { exit := 0, stdout := Text.encode s }

/-- An outcome with an error, from the outermost message to the first cause. -/
def failed (messages : List String) : Outcome :=
  { exit := failureCode, stderr := Text.encode (errorText messages) }

/-- The description that an invocation asks for. -/
def loadConfig (m : Machine) (config : Option Path) : Except (List String) Config :=
  match config with
  | none => .ok {}
  | some p =>
    (Config.load m p).mapError fun e => ("Failed to load suite config " ++ p.text) :: e.causes

/-- A program and its arguments as a launch. -/
def launchOf (argv : List String) (directory : Option Path) : Except (List String) Launch :=
  match argv with
  | [] => .error ["empty command line"]
  | program :: arguments => .ok ⟨program, arguments, directory⟩

/-- The launch of the platform's launcher. -/
def embeddedLaunch (m : Machine) (c : Config) (directory home : Option Path)
    (arguments : List String) : Except (List String) Launch := do
  let locator := match home with
    | some h => Locator.fixed h
    | none => Locator.environment
  let command ← (c.embedded .unix m locator arguments).mapError fun e =>
    "Failed to resolve embedded launcher" :: e.causes
  launchOf command.arguments directory

/-- The launch of the main class on the classpath of the suite. -/
def standaloneLaunch (m : Machine) (c : Config) (directory root javaHome : Option Path)
    (arguments : List String) : Except (List String) Launch := do
  let root := match root with
    | some r => distRoot m r
    | none => distRootOfEnvironment m
  let toolchain ← match javaHome with
    | some home => .ok ⟨home⟩
    | none => (Toolchain.ofEnvironment m).mapError fun e =>
      "No JDK configured for standalone launch" :: e.causes
  let command ←
    (c.standalone .unix (c.classpath root) c.standaloneArtifacts c.launcherMainClass
      arguments).mapError fun e => "Failed to resolve standalone launcher" :: e.causes
  let argv ← (command.argv (some toolchain) .unix).mapError Error.causes
  launchOf argv directory

/-- The plan to launch, or to fail before. -/
def launchPlan (m : Machine) : Except (List String) Launch → Plan
  | .ok l => .launch l
  | .error messages => .finish (failed messages) m

/-- The plan that has checked the copy of a shared file. -/
def verifyPlan (m : Machine) (c : Config) (sync : Bool) (own shared : Option Path) : Plan :=
  match Ci.check m (own.getD c.ci.own) (shared.getD c.ci.shared) sync with
  | (.error e, m) => .finish (failed e.causes) m
  | (.ok v, m) =>
    let first :=
      if v.synced then "Synced " ++ v.own.text ++ " from " ++ v.shared.text
      else "✓ " ++ v.own.text ++ " is in sync"
    .finish (printed (lineTexts [first, "Digest: " ++ v.digest])) m

/-- What is printed of the profiles. -/
def profilesOutcome (show_ : Registry → Except Error String) : Outcome :=
  match Registry.builtin.bind show_ with
  | .ok s => printed s
  | .error e => failed e.causes

/-- A profile, for people. -/
def profileText (p : Profile) : String :=
  lineTexts
    ["Profile: " ++ p.name, "Components: " ++ ",".intercalate (p.components.map Component.id),
     "Env file: " ++ p.envFile]

/-- The plan for a request. -/
def requestPlan (m : Machine) (c : Config) : Request → Plan
  | .embedded directory home arguments =>
    launchPlan m (embeddedLaunch m c directory home arguments)
  | .standalone directory root javaHome arguments =>
    launchPlan m (standaloneLaunch m c directory root javaHome arguments)
  | .verifyCi sync own shared => verifyPlan m c sync own shared
  | .gate tags stop directory reportJson =>
    .gate (c.stages directory) (if stop then .stopOnFirstFailure else .continueOnFailure)
      (Gate.parseTags tags) reportJson
  | .listProfiles => .finish (profilesOutcome fun r => .ok (lineTexts r.names)) m
  | .showProfile name => .finish (profilesOutcome fun r => (r.resolve name).map profileText) m
  | .component =>
    .finish (printed ((LanguageComponent.codec.encode c.component).pretty ++ "\n")) m

/-- What a command line comes to that asks for nothing to be done. -/
def refusalOutcome (m : Machine) : Refusal → Outcome
  | .usage =>
    { exit := usageCode,
      stderr := Text.encode
        (lineTexts ["error: invalid command line", "", "For more information, try '--help'."]) }
  | .version => printed (toolName ++ " " ++ toolVersion ++ "\n")
  | .help c => printed (c.helpText m.setting?)

/-- The plan for a command line on a machine. -/
def plan (m : Machine) (argv : List String) : Plan :=
  match parse m.setting? argv with
  | .error refusal => .finish (refusalOutcome m refusal) m
  | .ok invocation =>
    match loadConfig m invocation.config with
    | .error messages => .finish (failed messages) m
    | .ok c => requestPlan m c invocation.request

/-- The exit code of the tool for how a launched program ended. -/
def exitCodeOf : Ending → Nat
  | .exited code => if 0 ≤ code && code ≤ 255 then code.toNat else failureCode
  | .signalled _ => failureCode

/-- What the launch of a program comes to. -/
def launchOutcome (l : Launch) : Except IoError Finished → Outcome
  | .error e => failed ["Failed to run " ++ l.program, e.message]
  | .ok f => ⟨exitCodeOf f.ending, f.stdout, f.stderr⟩

/-- What a run of the gate comes to. -/
def gateOutcome (r : Gate.Result) (asJson : Bool) : Outcome :=
  let stdout := Text.encode (if asJson then reportJson r else reportText r)
  if r.passed then { exit := 0, stdout }
  else
    let message := "Gate failed with " ++ toString r.failedCount ++ " violation(s)"
    { failed [message] with stdout }

/-- A machine and the programs that were asked for on it, in order. -/
structure World where
  machine : Machine
  launches : List Launch := []

/-- An executor that keeps a list of what it is asked for. -/
def recording (exec : Executor Machine) : Executor World := fun l w =>
  let (result, machine) := exec l w.machine
  (result, { machine, launches := w.launches ++ [l] })

/-- Carries out a plan. -/
def perform (exec : Executor Machine) (on : Gate.Occasion) (m : Machine) : Plan → Outcome × World
  | .finish outcome machine => (outcome, { machine })
  | .launch l =>
    let (result, w) := recording exec l { machine := m }
    (launchOutcome l result, w)
  | .gate stages policy filter asJson =>
    let (r, w) := (Stage.gate stages (recording exec) policy).run on filter { machine := m }
    (gateOutcome r asJson, w)

/-- Carries out a command line on a machine. -/
def run (exec : Executor Machine) (on : Gate.Occasion) (m : Machine) (argv : List String) :
    Outcome × World :=
  perform exec on m (plan m argv)

end Suite.Cli
