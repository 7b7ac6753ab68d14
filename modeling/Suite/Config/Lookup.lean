import Suite.Config.Written
import Suite.Error
import Suite.Host.Machine

/-!
# Looking into a description

Distributions are found by their id, with or without the name of the suite in front. `validate`
checks that what a description refers to is there; `Config.load` reads a description from a file and
checks it.
-/

namespace Suite

namespace Config

/-- The distribution that an id stands for: the one declared under it, or else the one declared
under what follows the name of the suite and a colon. -/
def distribution? (c : Config) (id : String) : Option Distribution :=
  match c.distributions.get? id with
  | some d => some d
  | none => (Text.withoutFront? (c.name ++ ":") id).bind c.distributions.get?

/-- The main class of the launcher. -/
def launcherMainClass (c : Config) : String := c.component.launcher.mainClass

/-- A dependency that no declared distribution stands for, the first one in the order of the ids. -/
def danglingDependency? (c : Config) : Option (String × String) :=
  c.distributions.toList.findSome? fun (id, d) =>
    (d.dependencies.find? fun dep => (c.distribution? dep).isNone).map fun dep => (id, dep)

/-- The first thing that is wrong with a description. -/
def problem? (c : Config) : Option ConfigProblem :=
  match c.danglingDependency? with
  | some (id, dep) => some (.undeclaredDependency id dep)
  | none =>
    match c.component.launcher.jars.find? fun jar => (c.distribution? jar).isNone with
    | some jar => some (.undeclaredJar jar)
    | none => if c.gate.tasks.any (fun t => t.command = []) then some .emptyCommand else none

/-- Nothing is wrong with the description. -/
def validate (c : Config) : Except Error Unit :=
  match c.problem? with
  | some why => .error (.config why)
  | none => .ok ()

/-- The description in a text. -/
def ofText (s : String) : Except Error Config := (codec.decode.ofText s).mapError .json

/-- The description in a file, if nothing is wrong with it. -/
def load (m : Host.Machine) (p : Path) : Except Error Config := do
  let text ← (m.readText p).mapError Error.io
  let c ← ofText text
  c.validate
  return c

/-- The variable that may name the file of the description. -/
def fileVariable : String := "BF_SUITE_CONFIG"

/-- The description in the file that the environment names, or else the default one. -/
def ofEnvironment (m : Host.Machine) : Except Error Config :=
  match m.setting? fileVariable with
  | some p => load m ⟨p⟩
  | none => .ok {}

end Config

namespace Launcher

/-- The directory part of the destination. -/
def directory (l : Launcher) : String := (Text.beforeLast? '/' l.destination).getD ""

/-- The name of the executable: the file part of the destination, without the mark around it. -/
def executable (l : Launcher) : String :=
  let file := Text.afterLast '/' l.destination
  ((Text.withoutFront? "<exe:" file).bind (Text.withoutEnd? ">")).getD file

end Launcher

/-- The list without the elements that equal the one directly before them. -/
def dropRepeats {α : Type} [DecidableEq α] : List α → List α
  | [] => []
  | [x] => [x]
  | x :: y :: rest => if x = y then dropRepeats (y :: rest) else x :: dropRepeats (y :: rest)

/-- The ids of the distributions that a standalone launch puts on the classpath. -/
def Config.standaloneArtifacts (c : Config) : List String :=
  dropRepeats (c.component.languageJars ++ c.component.launcher.jars)

end Suite
