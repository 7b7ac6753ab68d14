import Suite.Calendar.Clock
import Suite.Cli.Lookups
import Suite.Gate.RunId
import Suite.Shell.Interpreter

/-!
# The program

`main` looks up the part of the machine that the command line depends on, carries the command line
out on it, and brings the machine up to date.
-/

namespace Suite.Cli

open Host (Location Machine Node)

/-- The error number for a directory that is read like a file. -/
def directoryNumber : UInt32 := 21

/-- Bytes that begin like a script, which are taken to be a program. -/
def isScript (content : List UInt8) : Bool := content.take 2 = Text.encode "#!"

/-- The machine with what stands at a location. -/
def lookUp (m : Machine) (l : Location) : IO Machine := do
  if (m.files.node? l).isSome then return m
  try
    let content := (← IO.FS.readBinFile l.path.text).toList
    return { m with files := m.files.put l (.file content (isScript content)) }
  catch
    | .inappropriateType _ number _ =>
      if number = directoryNumber then return { m with files := m.files.put l .directory }
      else return m
    | _ => return m

/-- The machine with what stands at a place and on the way to it. -/
def lookUpPath (m : Machine) (p : Path) : IO Machine :=
  (Host.FileTree.ancestors (m.cwd.follow p)).foldlM lookUp m

/-- The machine with everything that a command line looks at. -/
def lookUpAll (argv : List String) : Nat → Machine → IO Machine
  | 0, m => return m
  | rounds + 1, m => do
    let m ← (lookups m argv).foldlM lookUpPath m
    lookUpAll argv rounds m

/-- The machine as it is known at the start: what every machine has, the current directory and the
environment. -/
def startMachine : IO Machine := do
  let cwd := Location.ofText (toString (← IO.currentDir))
  let settings ← ("PATH" :: variableNames).filterMapM fun name => do
    return (← IO.getEnv name).map fun value => (name, OsText.ofText value)
  return ⟨Host.FileTree.furnished.makeDirectories cwd, Keyed.ofList settings, cwd⟩

/-- The text that the kernel shows at a place. -/
def kernelText (place : String) : IO String := do
  try return Text.decodeLossy (← IO.FS.readBinFile place).toList
  catch _ => return ""

/-- The occasion of a run that starts now. The programs that it starts take no time. -/
def occasionNow : IO Gate.Occasion := do
  let id := Gate.runIdOf (← IO.getRandomBytes 16).toList
  let time := Timestamp.ofKernel (← kernelText "/proc/stat") (← kernelText "/proc/uptime")
  return ⟨id, time.getD (Timestamp.ofUnix 0 0), 0⟩

/-- Brings the files up to date with those of a machine. -/
def update (before after : Machine) : IO Unit := do
  for l in after.files.lostFiles before.files do
    IO.FS.removeFile l.path.text
  for (l, content) in after.files.newFiles before.files do
    IO.FS.createDirAll (Location.path l.dropLast).text
    IO.FS.writeBinFile l.path.text ⟨content.toArray⟩

end Suite.Cli

/-- Carries out the command line of the process and gives its exit code. -/
def main (argv : List String) : IO UInt32 := do
  let m ← Suite.Cli.lookUpAll argv Suite.Cli.lookupRounds (← Suite.Cli.startMachine)
  let (outcome, world) :=
    Suite.Cli.run Suite.Shell.execute (← Suite.Cli.occasionNow) m argv
  Suite.Cli.update m world.machine
  (← IO.getStdout).write ⟨outcome.stdout.toArray⟩
  (← IO.getStderr).write ⟨outcome.stderr.toArray⟩
  return outcome.exit.toUInt32
