import Suite.Shell.Stream
import Suite.Shell.Usage

/-!
# What programs see and write

A program of every machine is a function from what it sees, a `Scene`, to what it writes and its
status, a `Report`. Its messages begin with the name by which it is called.
-/

namespace Suite.Shell

open Host (IoError Location Node)

/-- The variables that a program sees. -/
abbrev Environment := List (String × String)

/-- The value of a variable. -/
def Environment.get? (e : Environment) (name : String) : Option String := e.lookup name

/-- What a program sees. -/
structure Scene where
  world : World
  cwd : Location
  /-- The name by which the program is called. -/
  name : String
  arguments : List String
  settings : Environment

/-- What a program writes, and its status. -/
structure Report where
  out : String := ""
  err : String := ""
  status : Nat := 0

namespace Scene

/-- A line on which the program says something. -/
def saying (s : Scene) (message : String) : String := s.name ++ ": " ++ message ++ "\n"

/-- The way a program is used is wrong. -/
def misused (s : Scene) (message : String) (status : Nat) : Report :=
  { err := s.saying message ++ "Try '" ++ s.name ++ " --help' for more information.\n", status }

/-- What stands at the place that a path leads to. -/
def place (s : Scene) (path : String) : Except IoError (Location × Node) :=
  s.world.placeOf s.cwd ⟨.ofOctets path⟩

/-- What a program does once its arguments are read; `status` is that of a wrong use. -/
def withUsage (s : Scene) (kinds : List OptionKind) (mixed : Bool) (status : Nat)
    (f : Usage → Report) : Report :=
  match Usage.ofArguments kinds mixed (s.arguments.length + 1) s.arguments with
  | .error message => s.misused message status
  | .ok u => f u

end Scene

end Suite.Shell
