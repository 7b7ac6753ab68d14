import Suite.Json.Choice
import Suite.Launch.Arguments
import Suite.Launch.Classpath
import Suite.Launch.Platform

/-!
# Commands for launching

A launch is resolved to a `CommandLine` before any program is started: from the home of the platform
(`Config.embedded`) or from loose jars on a classpath (`Config.standalone`).
-/

namespace Suite

/-- Which program runs a command line. -/
inductive CommandKind
  /-- The first argument is the program. -/
  | native
  /-- The program is that of a toolchain. -/
  | java
  deriving DecidableEq, Repr

/-- A command that is ready to be started. -/
structure CommandLine where
  kind : CommandKind
  arguments : List String
  deriving DecidableEq, Repr

/-- The names of the kinds. -/
def CommandKind.choice : Json.Choice CommandKind := ⟨[("native", .native), ("java", .java)]⟩

namespace CommandLine

/-- The fields of a written command line. -/
def fields : Json.Fields [CommandKind, List String] :=
  .cons (.required "kind" CommandKind.choice.codec) <|
  .cons (.required "args" (.list .text)) .nil

/-- A written command line. -/
def codec : Json.Codec CommandLine :=
  (fields.codec "CommandLine").via (fun c => (c.kind, c.arguments, ()))
    fun (kind, arguments, ()) => ⟨kind, arguments⟩

/-- The program and its arguments. -/
def argv (c : CommandLine) (toolchain : Option Toolchain) (os : OsFamily) :
    Except Error (List String) :=
  match c.kind, toolchain with
  | .native, _ => .ok c.arguments
  | .java, some t => .ok ((t.javaExecutable os).text :: c.arguments)
  | .java, none => .error (.toolchainNotFound .needed)

end CommandLine

namespace Config

/-- The file name of the launcher. -/
def executableName (c : Config) (os : OsFamily) : String :=
  os.launcherName c.component.launcher.executable c.naming

/-- The launcher below the home of the platform. -/
def executablePath (c : Config) (os : OsFamily) (home : Path) : Path :=
  let directory := c.component.launcher.directory
  (if directory = "" then home else home.below directory).below (c.executableName os)

/-- The launcher in the platform that a locator finds, with the arguments as they are. -/
def embedded (c : Config) (os : OsFamily) (m : Host.Machine) (locator : Locator)
    (arguments : List String) : Except Error CommandLine := do
  let home ← locator m
  return ⟨.native, (c.executablePath os home).text :: arguments⟩

/-- The main class on the classpath for some ids: flags for the virtual machine, classpath, main
class and the arguments of the program. -/
def standalone (c : Config) (os : OsFamily) (resolver : Resolver) (ids : List String)
    (mainClass : String) (raw : List String) : Except Error CommandLine := do
  let entries ← resolver ids
  if entries.isEmpty then throw (.emptyClasspath ids)
  let division := c.component.launcher.vmFlags.divide raw
  let classpath := os.pathSeparator.intercalate (entries.map (·.text))
  return ⟨.java, division.flags ++ ["-cp", classpath, mainClass] ++ division.arguments⟩

end Config

/-- How a launch finds what it starts. -/
inductive LaunchMode
  | embedded
  | standalone
  deriving DecidableEq, Repr

/-- What a launch starts. -/
inductive LaunchSpec
  | embedded (home : Path) (arguments : List String)
  | standalone (ids : List String) (mainClass : String) (arguments : List String)
  deriving DecidableEq, Repr

/-- The mode of a launch. -/
def LaunchSpec.mode : LaunchSpec → LaunchMode
  | .embedded _ _ => .embedded
  | .standalone _ _ _ => .standalone

/-- The command for a launch. -/
def LaunchSpec.resolve (spec : LaunchSpec) (c : Config) (os : OsFamily) (m : Host.Machine)
    (resolver : Resolver) : Except Error CommandLine :=
  match spec with
  | .embedded home arguments => c.embedded os m (.fixed home) arguments
  | .standalone ids mainClass arguments => c.standalone os resolver ids mainClass arguments

end Suite
