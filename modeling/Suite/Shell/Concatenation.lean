import Suite.Shell.Running
import Suite.Shell.Scene

/-!
# Files one after the other

`concatenate` writes the contents of files, and of what there is to read, one after the other, as
they come.
-/

namespace Suite.Shell

open Host (Ending IoError)

/-- Writes what comes through a stream until its end, and tells whether that was possible. -/
def copyStream (stream : Nat) : Nat → Eval Bool
  | 0 => return true
  | portions + 1 => do
    waitUntil (·.settled stream) maxDisturbances
    let s ← get
    match (s.world.unread? stream).getD [] with
    | [] => return true
    | text =>
      set { s with world := s.world.skip stream text.length }
      if ← put 1 text then copyStream stream portions else return false

/-- Writes what a path leads to and gives the status; nothing if it cannot be written. -/
def copyPath (program path : String) : Eval (Option Nat) := do
  let refuse (why : String) : Eval (Option Nat) := do
    let _ ← put 2 (program ++ ": " ++ Quotation.named path ++ ": " ++ why ++ "\n").toList
    return some 1
  let copied (stream : Nat) : Eval (Option Nat) := do
    return if ← copyStream stream maxPortions then some 0 else none
  let s ← get
  if path = "-" then
    match s.channels.lookup 0 with
    | some i => copied i
    | none => refuse "Bad file descriptor"
  else
    match s.places path with
    | .error e => refuse (reason e)
    | .ok (_, .directory) => refuse (reason .isDirectory)
    | .ok _ =>
      match s.opened .read path with
      | .error e => refuse (reason e)
      | .ok (i, s) =>
        set s
        copied i

/-- Writes what paths lead to, one after the other, and gives the status, at least this one. -/
def copyPaths (program : String) (status : Nat) : List String → Eval (Option Nat)
  | [] => return some status
  | path :: rest => do
    match ← copyPath program path with
    | some s => copyPaths program (max status s) rest
    | none => return none

/-- Writes files one after the other and tells how that ends. -/
def concatenate (program : String) (args : List String) : Eval Ending := do
  let say (message : String) : Eval Ending := do
    let _ ← put 2 (program ++ ": " ++ message ++ "\n").toList
    return .exited 1
  if ((← get).channels.lookup 1).isNone then say "standard output: Bad file descriptor"
  else
    match ← copyPaths program 0 (if args.isEmpty then ["-"] else args) with
    | some status => return .exited status
    | none => say ("write error: " ++ (← get).writeFault 1)

end Suite.Shell
