import Suite.Host.FileTree
import Suite.Keyed
import Suite.Text.Utf8

/-!
# Machines and the programs they run

A `Machine` is what a program sees: a file tree, the environment and the current directory.
Programs are run by an `Executor`, about which nothing is assumed: it may refuse to start a
program, let it end in any way and change whatever it keeps.
-/

namespace Suite.Host

/-- What a program sees of its surroundings. -/
structure Machine where
  files : FileTree
  environment : Table OsText
  cwd : Location
  deriving Repr

namespace Machine

/-- The current directory as an absolute path. -/
def cwdPath (m : Machine) : Path := m.cwd.path

/-- The value of an environment variable. -/
def setting? (m : Machine) (name : String) : Option OsText := m.environment.get? name

/-- The value of an environment variable that is not empty. -/
def filled? (m : Machine) (name : String) : Option OsText :=
  (m.setting? name).filter (fun v => v ≠ "")

/-- The path leads to a directory. -/
def isDirectory (m : Machine) (p : Path) : Bool := m.files.isDirectory m.cwd p

/-- The bytes of a file. -/
def read (m : Machine) (p : Path) : Except IoError (List UInt8) := m.files.read m.cwd p

/-- The text of a file. -/
def readText (m : Machine) (p : Path) : Except IoError String := do
  match Text.decode? (← m.read p) with
  | some s => .ok s
  | none => .error .notText

/-- The machine after bytes are written to a file. -/
def write (m : Machine) (p : Path) (content : List UInt8) : Except IoError Machine :=
  (m.files.write m.cwd p content).map fun files => { m with files }

end Machine

/-- A program to be started: its name, its arguments and the directory it starts in, if that is not
the current one. -/
structure Launch where
  program : String
  arguments : List String
  directory : Option Path
  deriving DecidableEq, Repr

/-- How a program ends. -/
inductive Ending
  | exited (code : Int)
  | signalled (signal : Nat)
  deriving DecidableEq, Repr

/-- What a program leaves behind when it has ended. -/
structure Finished where
  stdout : List UInt8
  stderr : List UInt8
  ending : Ending
  /-- The milliseconds it takes to its end, if nobody ends it before. -/
  elapsed : Nat := 0
  deriving DecidableEq, Repr

/-- Runs a program to its end, or refuses to start it; `σ` is what it keeps from one to the next. -/
abbrev Executor (σ : Type) := Launch → σ → Except IoError Finished × σ

end Suite.Host
