import Suite.Shell.Command
import Suite.Shell.Task

/-!
# The state of a running script

A `Session` is what a shell knows: its variables, functions and channels, the status of the last
command, and the world it shares with other processes. Commands are evaluated in the monad `Eval`,
which yields a `Task`, so that processes can take turns; a `Flow` is why the commands that follow do
not run, and state survives it.
-/

namespace Suite.Shell

open Host (Ending IoError Location)

/-- What is known of a variable. -/
structure Variable where
  /-- Nothing if the variable is only marked. -/
  value : Option String
  /-- Programs see the variable. -/
  exported : Bool := false
  readOnly : Bool := false
  deriving DecidableEq, Repr

/-- Why the commands that follow do not run. -/
inductive Flow
  /-- Leaves so many repetitions. -/
  | breaking (levels : Nat)
  /-- Leaves so many repetitions but the last, which goes on with its next turn. -/
  | continuing (levels : Nat)
  /-- Leaves a function or a file of commands. -/
  | returning
  /-- Something went wrong, which ends the shell unless it happened inside an ordinary command. -/
  | failed
  /-- The command `exit` ends the shell. -/
  | exiting
  /-- The shell has nothing more to do. -/
  | stopping
  /-- A program took the place of the shell and has ended. -/
  | replaced (ending : Ending)
  /-- A signal ended the process that the script began as. -/
  | killed (signal : Nat)
  deriving DecidableEq, Repr

/-- What a function has made its own, as it was before. -/
inductive Kept
  | setting (name : String) (before : Option Variable)
  | options (before : List Char)
  deriving DecidableEq, Repr

/-- Commands that nothing waits for. -/
structure Job where
  /-- The number by which scripts can name it. -/
  number : Nat
  /-- Its processes, the last one of which gives its status. -/
  processes : List Nat
  /-- How those have ended of which the shell knows. -/
  endings : List (Nat × Ending) := []
  /-- The shell has waited for its end. -/
  waited : Bool := false
  deriving DecidableEq, Repr

/-- All processes of a job have ended. -/
def Job.isDone (j : Job) : Bool := j.processes.all fun p => j.endings.any (·.1 = p)

/-- The job after the shell has waited for its end. -/
def Job.met (j : Job) : Job := { j with waited := true }

/-- How the last process of a job has ended, if it has. -/
def Job.ending? (j : Job) : Option Ending := j.processes.getLast?.bind fun p => j.endings.lookup p

/-- A program that the shell has found. -/
structure Tracked where
  name : String
  path : String
  /-- The shell has gone to another directory since. -/
  stale : Bool := false
  deriving DecidableEq, Repr

/-- What a shell knows. -/
structure Session where
  world : World
  /-- The streams that channels lead to. -/
  channels : List (Nat × Nat)
  cwd : Location
  /-- The path of the directory, by the names that led there. -/
  workingPath : String
  settings : Table Variable
  functions : Table Command := .empty
  documents : Array Word := #[]
  parameters : List String := []
  /-- The name that messages begin with. -/
  name : String
  /-- The command that runs inside the shell, which messages mention. -/
  command : Option String := none
  /-- The status of the last command. -/
  status : Nat := 0
  /-- The number of the process. -/
  process : Nat
  /-- The number of the process that the shell began as. -/
  shell : Nat
  /-- The options that are on, by their letters. -/
  options : List Char := []
  /-- What to do at a signal, or at number zero when the shell ends. -/
  traps : List (Nat × String) := []
  /-- Signals that the shell has not seen from its beginning. -/
  ignored : List Nat := []
  /-- Signals that have come and wait for their traps, the last one first. -/
  pending : List Nat := []
  /-- What functions have made their own, the innermost function first. -/
  frames : List (List Kept) := []
  /-- How many functions surround the command. -/
  calls : Nat := 0
  /-- How many repetitions surround the command. -/
  loops : Nat := 0
  line : Nat := 0
  /-- The line that the reading of the script has come to. -/
  reached : Nat := 0
  /-- The status of the last command whose output took its place. -/
  substituted : Nat := 0
  /-- The last process that nothing waited for. -/
  background : Option Nat := none
  /-- The jobs of the shell, the last one first. -/
  jobs : List Job := []
  /-- Streams that are held open for what comes later. -/
  held : List Nat := []
  /-- The status to end with while a trap runs. -/
  leaving : Option Nat := none
  /-- The programs that were found, the last one that is new last. -/
  tracked : List Tracked := []
  /-- Words that stand for other texts in front of a command. -/
  aliases : List (String × String) := []
  /-- The permissions that new files do not have. -/
  umask : Nat := 18
  /-- Where the reading of options stands: the next argument, and the place in the one before. -/
  nextOption : Nat := 1
  optionOffset : Option Nat := none

/-- How a command is evaluated. -/
structure Flags where
  /-- The status of the command decides something, so that a failure is none of the script. -/
  tested : Bool := false
  /-- Nothing follows the command. -/
  last : Bool := false
  deriving DecidableEq, Repr

/-- Evaluates a part of a script: what has to be done until its value is there, or the reason why
there is none, and with it the session, and what follows then. -/
def Eval (α : Type) : Type := Session → (Except Flow α → Session → Task) → Task

namespace Eval

instance : Monad Eval where
  pure a := fun s next => next (.ok a) s
  bind x f := fun s next => x s fun r s =>
    match r with
    | .ok a => f a s next
    | .error e => next (.error e) s

instance : MonadStateOf Session Eval where
  get := fun s next => next (.ok s) s
  set s := fun _ next => next (.ok ()) s
  modifyGet f := fun s next =>
    let (a, s) := f s
    next (.ok a) s

instance : MonadExceptOf Flow Eval where
  throw e := fun s next => next (.error e) s
  tryCatch x handle := fun s next => x s fun r s =>
    match r with
    | .ok a => next (.ok a) s
    | .error e => handle e s next

instance {α : Type} : Inhabited (Eval α) := ⟨throw .failed⟩

end Eval

/-- Evaluates commands. -/
abbrev Runner := Flags → Command → Eval Unit

/-- The value, or why there is none. -/
def attempt {α : Type} (x : Eval α) : Eval (Except Flow α) := fun s next =>
  x s fun r s => next (.ok r) s

/-- What happens after `x` whatever becomes of it. -/
def thenAlways {α : Type} (x : Eval α) (after : Eval Unit) : Eval α := do
  let r ← attempt x
  after
  match r with
  | .ok a => return a
  | .error f => throw f

/-- The signals by their names. -/
def signals : List (String × Nat) :=
  [("HUP", 1), ("INT", 2), ("QUIT", 3), ("ILL", 4), ("TRAP", 5), ("ABRT", 6), ("BUS", 7),
   ("FPE", 8), ("KILL", 9), ("USR1", 10), ("SEGV", 11), ("USR2", 12), ("PIPE", 13), ("ALRM", 14),
   ("TERM", 15), ("STKFLT", 16), ("CHLD", 17), ("CONT", 18), ("STOP", 19), ("TSTP", 20),
   ("TTIN", 21), ("TTOU", 22), ("URG", 23), ("XCPU", 24), ("XFSZ", 25), ("VTALRM", 26),
   ("PROF", 27), ("WINCH", 28), ("IO", 29), ("PWR", 30), ("SYS", 31), ("RTMIN", 34),
   ("RTMAX", 64)]

/-- The greatest number of a signal. -/
def maxSignal : Nat := 64

/-- The name of a signal. -/
def signalName (signal : Nat) : String :=
  if signal = 0 then "EXIT"
  else
    match signals.find? fun e => e.2 = signal with
    | some (name, _) => name
    | none =>
      if signal < 34 then toString signal
      else if signal < 50 then "RTMIN+" ++ toString (signal - 34)
      else "RTMAX-" ++ toString (64 - signal)

/-- A process does not end at the signal by itself. -/
def isHarmless (signal : Nat) : Bool := [17, 18, 23, 28].contains signal

/-- A process stops at the signal until it is told to continue. -/
def isStopping (signal : Nat) : Bool := 19 ≤ signal && signal ≤ 22

/-- The signal that tells a process to continue. -/
def continueSignal : Nat := 18

/-- The signal at which every process ends. -/
def killSignal : Nat := 9

/-- The signal for writing where nobody reads. -/
def pipeSignal : Nat := 13

/-- How a signal is described. -/
def signalText (signal : Nat) : String :=
  match signal with
  | 1 => "Hangup"
  | 2 => "Interrupt"
  | 3 => "Quit"
  | 4 => "Illegal instruction"
  | 5 => "Trace/breakpoint trap"
  | 6 => "Aborted"
  | 7 => "Bus error"
  | 8 => "Floating point exception"
  | 9 => "Killed"
  | 10 => "User defined signal 1"
  | 11 => "Segmentation fault"
  | 12 => "User defined signal 2"
  | 13 => "Broken pipe"
  | 14 => "Alarm clock"
  | 15 => "Terminated"
  | 16 => "Stack fault"
  | 17 => "Child exited"
  | 18 => "Continued"
  | 19 => "Stopped (signal)"
  | 20 => "Stopped"
  | 21 => "Stopped (tty input)"
  | 22 => "Stopped (tty output)"
  | 23 => "Urgent I/O condition"
  | 24 => "CPU time limit exceeded"
  | 25 => "File size limit exceeded"
  | 26 => "Virtual timer expired"
  | 27 => "Profiling timer expired"
  | 28 => "Window changed"
  | 29 => "I/O possible"
  | 30 => "Power failure"
  | 31 => "Bad system call"
  | n => "Real-time signal " ++ toString (n - 34)

/-- What is said of a process that a signal ended, if that is worth saying. -/
def signalReport? (signal : Nat) : Option String :=
  if signal = 2 || signal = pipeSignal then none else some (signalText signal)

/-- The letters of options with their names, in the order in which they are shown. -/
def optionNames : List (Char × String) :=
  [('e', "errexit"), ('f', "noglob"), ('I', "ignoreeof"), ('i', "interactive"), ('m', "monitor"),
   ('n', "noexec"), ('s', "stdin"), ('x', "xtrace"), ('v', "verbose"), ('V', "vi"), ('E', "emacs"),
   ('C', "noclobber"), ('a', "allexport"), ('b', "notify"), ('u', "nounset"), ('p', "privileged")]

namespace Session

/-- An option is on. -/
def has (s : Session) (option : Char) : Bool := s.options.contains option

/-- The session with an option on or off. -/
def withOption (s : Session) (option : Char) (on : Bool) : Session :=
  let others := s.options.filter (· ≠ option)
  { s with options := if on then option :: others else others }

/-- The session with an option on or off by its letter: of two ways to edit lines the last one
stays. -/
def withLetter (s : Session) (option : Char) (on : Bool) : Session :=
  let others := [('V', 'E'), ('E', 'V')].lookup option
  (if on then others.elim s (s.withOption · false) else s).withOption option on

/-- The value of a variable. -/
def value? (s : Session) (name : String) : Option String :=
  (s.settings.get? name).bind (·.value)

/-- The characters that divide fields. -/
def separators (s : Session) : List Char := ((s.value? "IFS").getD " \t\n").toList

/-- The value of a parameter. -/
def parameter? (s : Session) (name : String) : Option String :=
  match name with
  | "#" => some (toString s.parameters.length)
  | "?" => some (toString s.status)
  | "$" => some (toString s.shell)
  | "!" => s.background.map toString
  | "-" => some (String.ofList ((optionNames.map (·.1)).reverse.filter s.has))
  | "0" => some s.name
  | _ =>
    match name.toNat? with
    | some n => s.parameters[n - 1]?
    | none => s.value? name

/-- The world as the other processes see it. -/
def published (s : Session) : World :=
  s.world.holding s.process (s.held ++ s.channels.map (·.2))

/-- The session with a channel that leads to a stream, or nowhere. -/
def withChannel (s : Session) (channel : Nat) (stream : Option Nat) : Session :=
  let others := s.channels.filter fun c => c.1 ≠ channel
  { s with channels := (stream.map fun i => (channel, i)).toList ++ others }

/-- What the shell says on a line, with the command that says it. -/
def saying (s : Session) (message : String) : String :=
  let speaker := match s.command with
    | some c => c ++ ": "
    | none => ""
  s.name ++ ": " ++ toString s.line ++ ": " ++ speaker ++ message ++ "\n"

end Session

/-- The channel that a path of a device stands for. -/
def deviceChannel? (path : String) : Option Nat :=
  match path with
  | "/dev/stdin" => some 0
  | "/dev/stdout" => some 1
  | "/dev/stderr" => some 2
  | _ => (Text.withoutFront? "/dev/fd/" path).bind String.toNat?

namespace Session

/-- The stream that a path stands for, which stands for a channel itself. -/
def channelStream? (s : Session) (path : String) : Option (Except IoError (Nat × Stream)) :=
  (deviceChannel? path).map fun channel =>
    match (s.channels.lookup channel).bind fun i => s.world.streams[i]?.map fun t => (i, t) with
    | some found => .ok found
    | none => .error .notFound

/-- What stands at the places that paths lead to. -/
def places (s : Session) (path : String) : Except IoError (Location × Host.Node) :=
  match s.channelStream? path with
  | none => s.world.placeOf s.cwd ⟨.ofOctets path⟩
  | some (.error e) => .error e
  | some (.ok (_, .file l _ _ _ _)) => s.world.placeOf [] l.path
  | some (.ok _) => .ok (["dev", "fd", path], .device .null)

/-- The last name of a path leads elsewhere. -/
def isLink (s : Session) (path : String) : Bool :=
  (deviceChannel? path).isSome || s.world.files.isLink s.cwd ⟨.ofOctets path⟩

/-- Opens what a path leads to: the number of the stream, and the session with it. A file that a
channel leads to is opened from its beginning again. -/
def opened (s : Session) (access : Access) (path : String) : Except IoError (Nat × Session) := do
  let anew (cwd : Location) (p : Path) : Except IoError (Nat × Session) := do
    let (stream, world) ← s.world.openFile cwd access p
    let (i, world) := world.push stream
    return (i, { s with world })
  match s.channelStream? path with
  | none => anew s.cwd ⟨.ofOctets path⟩
  | some (.error e) => .error e
  | some (.ok (_, .file l _ _ _ _)) => anew [] l.path
  | some (.ok (i, _)) => return (i, s)

/-- The path of the directory, by the names of the directories themselves. -/
def physicalPath (s : Session) : String := s.cwd.path.written.octets

end Session

/-- Gives other processes a turn. -/
def pause : Eval Unit := fun s next =>
  .paused s.published fun world => next (.ok ()) { s with world }

/-- Waits until the world is ready. -/
def block (ready : World → Bool) : Eval Unit := fun s next =>
  .waiting s.published ready fun world => next (.ok ()) { s with world }

/-- Waits until the process is told to continue or to end. -/
def suspend : Eval Unit := do
  let process := (← get).process
  block fun w => w.sent.any fun m =>
    m.1 = process && (m.2 = continueSignal || m.2 = killSignal)

/-- What a signal does that has come: it may be waiting for its trap now. -/
def accept (signal : Nat) : Eval Unit := do
  let s ← get
  if signal = killSignal then throw (.killed signal)
  else if s.ignored.contains signal && signal ≠ continueSignal then return
  else
    match s.traps.lookup signal with
    | some action =>
      if action ≠ "" && !s.pending.contains signal then
        set { s with pending := signal :: s.pending }
    | none =>
      if isStopping signal then suspend
      else if !isHarmless signal then throw (.killed signal)

/-- Takes the signals that are on their way to the process. -/
def receive : Eval Unit := do
  let s ← get
  if s.world.isCalled s.process then
    let (mine, others) := s.world.sent.partition fun m => m.1 = s.process
    set { s with world := { s.world with sent := others } }
    mine.forM fun m => accept m.2

/-- How often a process may be disturbed while it waits. -/
def maxDisturbances : Nat := 100000

/-- Waits until the world is ready, whatever signals come, of which there are at most so many. -/
def waitUntil (ready : World → Bool) : Nat → Eval Unit
  | 0 => return
  | disturbances + 1 => do
    let process := (← get).process
    block fun w => ready w || w.isCalled process
    receive
    if !ready (← get).world then waitUntil ready disturbances

/-- Writes characters to a pipe, as soon as there is room, and tells whether somebody reads it. -/
def feed (pipe : Nat) : Nat → List Char → Eval Bool
  | 0, _ => return false
  | portions + 1, text => do
    if text.isEmpty then return true
    else
      let needed := if text.length ≤ Pipe.whole then text.length else 1
      waitUntil (fun w => needed ≤ w.room pipe || !w.isRead pipe) maxDisturbances
      let s ← get
      if !s.published.isRead pipe then
        accept pipeSignal
        return false
      else
        let room := s.world.room pipe
        set { s with world := s.world.withPipe pipe (·.push (text.take room)) }
        feed pipe portions (text.drop room)

/-- Writes characters to a channel and tells whether that is possible. -/
def put (channel : Nat) (text : List Char) : Eval Bool := do
  let s ← get
  match s.channels.lookup channel with
  | none => return false
  | some i =>
    match s.world.streams[i]? with
    | some (.inlet pipe) => feed pipe (text.length + 1) text
    | _ =>
      match s.world.write? i text with
      | some world =>
        set { s with world }
        return true
      | none => return false

/-- Why nothing can be written to a channel. -/
def Session.writeFault (s : Session) (channel : Nat) : String :=
  match (s.channels.lookup channel).bind fun i => s.world.streams[i]? with
  | some (.inlet _) => "Broken pipe"
  | some (.device .full) => reason .noSpace
  | _ => "Bad file descriptor"

/-- Sets the status. -/
def finish (status : Nat) : Eval Unit := modify fun s => { s with status }

/-- Says something on the channel for errors. -/
def complain (message : String) : Eval Unit := do
  let _ ← put 2 ((← get).saying message).toList

/-- Says what went wrong, and gives up. -/
def fail {α : Type} (message : String) : Eval α := do
  complain message
  finish 2
  throw .failed

/-- Gives up to control jobs, which needs a terminal. A copy of a shell does not try. -/
def giveUpControl : Eval Unit := do
  let s ← get
  if s.has 'm' && s.process = s.shell then
    complain "can't access tty; job control turned off"
    modify (·.withOption 'm' false)

/-- Writes what a command inside the shell writes, and gives its status. -/
def write (text : List Char) (status : Nat) : Eval Nat := do
  if text.isEmpty then return status
  else if ← put 1 text then return status
  else
    complain (((← get).command.getD "") ++ ": I/O error")
    return 1

/-- The session in a directory, which its variables show by the path that led there. -/
def Session.withPlace (s : Session) (cwd : Location) (path : String) (old : Option String) :
    Session :=
  let exported (value : String) : Variable := { value := some value, exported := true }
  let settings := match old with
    | some value => s.settings.insert ("OLDPWD", exported value)
    | none => s.settings
  { s with cwd, workingPath := path, settings := settings.insert ("PWD", exported path) }

/-- What else changes with a variable. -/
def Session.following (s : Session) (name : String) (value : Option String) : Session :=
  if name = "OPTIND" then
    { s with nextOption := max 1 ((value.bind String.toNat?).getD 1), optionOffset := none }
  else if name = "PATH" then { s with tracked := [] }
  else s

/-- Changes a variable that may be changed. -/
def change (name : String) (f : Option Variable → Variable) : Eval Unit := do
  if !isName name.toList then fail (name ++ ": bad variable name")
  let s ← get
  let before := s.settings.get? name
  if (before.map (·.readOnly)).getD false then fail (name ++ ": is read only")
  let after := f before
  set ({ s with settings := s.settings.insert (name, after) }.following name after.value)

/-- Sets a variable. -/
def assign (name value : String) : Eval Unit := do
  let all := (← get).has 'a'
  change name fun before =>
    let v := before.getD { value := none }
    { v with value := some value, exported := v.exported || all }

/-- Takes a variable away. -/
def unsetVariable (name : String) : Eval Unit := do
  change name fun _ => { value := none }
  modify fun s => { s with settings := s.settings.erase name }

/-- Makes something one of the innermost function's own, which has it back as it was when that
ends. -/
def keep (k : Session → Kept) : Eval Unit :=
  modify fun s =>
    match s.frames with
    | frame :: rest => { s with frames := (k s :: frame) :: rest }
    | [] => s

/-- Makes a variable one of the innermost function's own. -/
def makeOwn (name : String) : Eval Unit := keep fun s => .setting name (s.settings.get? name)

/-- The session with something as it was before. -/
def Session.withKept (s : Session) (k : Kept) : Session :=
  match k with
  | .setting name (some v) =>
    { s with settings := s.settings.insert (name, v) }.following name v.value
  | .setting name none => { s with settings := s.settings.erase name }.following name none
  | .options before => { s with options := before }

/-- Everything as it was before the innermost function made some of it its own. -/
def leaveFrame : Eval Unit :=
  modify fun s =>
    match s.frames with
    | frame :: rest => frame.foldl Session.withKept { s with frames := rest }
    | [] => s

end Suite.Shell
