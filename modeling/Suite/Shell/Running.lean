import Suite.Shell.Script
import Suite.Shell.Session

/-!
# Running texts of commands

`runText` reads commands from a text and runs one after the other. Some run at signals and when the
shell ends: `runTraps`, `conclude`. Many commands run in a process of their own with a copy of the
shell, of which only what all processes share is left: `fork`, `inCopy`. What runs a single command
is an argument of all of them.
-/

namespace Suite.Shell

open Host (Ending)

/-- What is done when a part of a text has been read, and so many lines with which it went on. -/
abbrev Attendant := List Char → Nat → Eval Unit

/-- Nothing is done with what is read. -/
def silently : Attendant := fun _ _ => return

/-- Shows what is read, if an option says so. -/
def visibly : Attendant := fun text _ => do
  if (← get).has 'v' then
    let _ ← put 2 text

/-- The first lines of a text. -/
def firstLines : Nat → List Char → List Char
  | 0, _ => []
  | _, [] => []
  | lines + 1, c :: rest => c :: firstLines (if c = '\n' then lines else lines + 1) rest

/-- What was read from one place of a reader to another, and how many lines went on after others. -/
def Reader.passed (before after : Reader) : List Char × Nat :=
  let text := before.rest.take (before.rest.length - after.rest.length)
  (text, text.count '\n' - if text.getLast? = some '\n' then 1 else 0)

/-- Runs the commands of a reader and gives the status of the last one, or that of the commands
before. -/
def runLines (again : Runner) (flags : Flags) (attend : Attendant) :
    Nat → Reader → Nat → Eval Nat
  | 0, _, status => return status
  | lines + 1, before, status => do
    let s ← get
    match { before with documents := s.documents, aliases := s.aliases }.command? with
    | .error b =>
      let more := b.line - before.line
      attend (firstLines (more + 1) before.rest) more
      modify fun s => { s with line := b.line }
      fail b.message
    | .ok (c, r) =>
      let (text, more) := before.passed r
      attend text more
      modify fun s => { s with documents := r.documents }
      match c with
      | none => return status
      | some c =>
        modify fun s => { s with reached := r.line }
        again flags c
        let after := (← get).status
        runLines again flags attend lines r (if c.isNothing then status else after)

/-- Runs the commands of a text and gives the status of the last one, zero if there are none. -/
def runText (again : Runner) (flags : Flags) (attend : Attendant) (text : List Char) : Eval Nat :=
  runLines again flags attend (text.length + 2) { rest := text } 0

/-- The flow leaves something that surrounds the command, but not the shell. -/
def Flow.isLocal : Flow → Bool
  | .breaking _ | .continuing _ | .returning => true
  | _ => false

/-- Runs the traps of signals that have come, that of the least number first. The status stays as it
was. -/
def runTraps (again : Runner) : Nat → Eval Unit
  | 0 => return
  | rounds + 1 => do
    let s ← get
    match s.pending.min? with
    | none => return
    | some n =>
      set { s with pending := s.pending.filter (· ≠ n) }
      match s.traps.lookup n with
      | none => runTraps again rounds
      | some action =>
        let status := s.leaving.getD s.status
        modify fun t => { t with leaving := some status }
        match ← attempt (runText again {} silently action.toList) with
        | .ok _ => modify fun t => { t with status, leaving := s.leaving }
        | .error f =>
          if f.isLocal then modify fun t => { t with leaving := s.leaving }
          throw f
        runTraps again rounds

/-- How a shell ends after its commands have led to a flow, or to none. What it was to do when it
ends is done now; its status counts only if it goes wrong. -/
def conclude (again : Runner) (flow : Option Flow) : Eval Ending := do
  match flow with
  | some (.replaced ending) => return ending
  | some (.killed signal) => return .signalled signal
  | _ =>
    if flow = some .exiting then modify fun s => { s with status := s.leaving.getD s.status }
    -- The trap of the end runs once only, so that an end inside it is the last one.
    let s ← get
    let traps := s.traps.filter fun t => t.1 ≠ 0
    let leaving := some s.status
    set { s with leaving, traps, loops := 0, command := none }
    match s.traps.lookup 0 with
    | none => return .exited ((← get).status % 256 : Nat)
    | some action =>
      match ← attempt (runText again {} silently action.toList) with
      | .error (.replaced ending) => return ending
      | .error (.killed signal) => return .signalled signal
      | .error .failed | .error .stopping => pure ()
      | _ => modify fun s => { s with status := s.leaving.getD s.status }
      return .exited ((← get).status % 256 : Nat)

/-- The flow that commands led to, if any. -/
def flowOf {α : Type} : Except Flow α → Option Flow
  | .ok _ => none
  | .error f => some f

/-- Runs commands after which the shell ends, and tells how. -/
def concluding (again : Runner) (x : Eval Unit) : Eval Ending := do
  let r ← attempt x
  conclude again (flowOf r)

/-- The copy of a shell that runs commands apart. Traps do not run in it, but signals that the shell
does not see are none to the copy. -/
def Session.copied (s : Session) : Session :=
  { s with
    traps := s.traps.filter fun t => t.2 = ""
    pending := []
    leaving := none
    jobs := []
    held := [] }

/-- What the end of a process means for the session: nothing if that fails. -/
def endingOf : Except Flow Ending → Ending
  | .ok ending => ending
  | .error (.killed signal) => .signalled signal
  | .error _ => .exited 2

/-- The number for one more job, and the jobs without those that gave up a number less than that:
they have ended, and the shell has waited for their end. -/
def freeNumber (jobs : List Job) : Nat → Nat → Nat × List Job
  | 0, number => (number, jobs)
  | steps + 1, number =>
    match jobs.find? fun j => j.number = number with
    | none => (number, jobs)
    | some j =>
      if j.isDone && j.waited then (number, jobs.filter fun j => j.number ≠ number)
      else freeNumber jobs steps (number + 1)

/-- The number for one more job; one that is done with may have to give up its own. -/
def claimNumber : Eval Nat := do
  let s ← get
  let (number, jobs) := freeNumber s.jobs s.jobs.length 1
  set { s with jobs }
  return number

/-- Starts a process that runs with a copy of the shell, changed by `prepare`, and gives its
number. -/
def fork (prepare : Session → Session) (x : Eval Ending) : Eval Nat := fun s next =>
  let number := s.world.nextProcess
  let child := prepare { s.copied with process := number }
  let world := { s.published with nextProcess := number + 1 }
  let world := { child with world }.published
  .forked world number
    (fun world => x { child with world } fun r t => .ended t.world (endingOf r))
    (fun world => next (.ok number) { s with world })

/-- What the shell knows of its jobs after it has looked how processes have ended. -/
def notice : Eval Unit :=
  modify fun s =>
    let mine := s.jobs.flatMap (·.processes)
    let (news, others) := s.world.ended.partition fun e => mine.contains e.1
    if news.isEmpty then s
    else
      let jobs := s.jobs.map fun j =>
        { j with endings := j.endings ++ news.filter fun e => j.processes.contains e.1 }
      { s with jobs, world := { s.world with ended := others } }

/-- Waits for the end of a process that was started by the shell. -/
def waitFor (process : Nat) : Eval Ending := do
  waitUntil (fun w => (w.ended.lookup process).isSome) maxDisturbances
  let s ← get
  let ending := (s.world.ended.lookup process).getD (.exited 2)
  let ended := s.world.ended.filter fun e => e.1 ≠ process
  set { s with world := { s.world with ended } }
  notice
  return ending

/-- Runs commands in a copy of the shell, changed by `prepare`, and tells how that ended. -/
def inCopy (again : Runner) (prepare : Session → Session) (x : Eval Unit) : Eval Ending := do
  let _ ← claimNumber
  waitFor (← fork prepare (concluding again x))

/-- The status that a shell has of a process that has ended. -/
def statusOf : Ending → Nat
  | .exited code => (code % 256).toNat
  | .signalled signal => 128 + signal

/-- Says that a signal ended a process, if that is worth saying. -/
def report (ending : Ending) : Eval Unit :=
  match ending with
  | .exited _ => return
  | .signalled signal => do
    match signalReport? signal with
    | some text => let _ ← put 2 (text ++ "\n").toList
    | none => return

/-- A pipe, of which the shell holds the end open where it is read: that end and the other one. -/
def openPipe : Eval (Nat × Nat) := do
  let s ← get
  let (outlet, inlet, world) := s.world.pushPipe
  set { s with world, held := outlet :: s.held }
  return (outlet, inlet)

/-- Gives up a stream that was held open. -/
def release (stream : Nat) : Eval Unit :=
  modify fun s => { s with held := s.held.erase stream }

/-- Everything that is written to a pipe until nobody can write to it, after the portions of `acc`,
the last one first. -/
def drain (outlet : Nat) : Nat → List (List Char) → Eval (List Char)
  | 0, acc => return acc.reverse.flatten
  | portions + 1, acc => do
    waitUntil (·.settled outlet) maxDisturbances
    let s ← get
    match (s.world.unread? outlet).getD [] with
    | [] => return acc.reverse.flatten
    | text =>
      set { s with world := s.world.skip outlet text.length }
      drain outlet portions (text :: acc)

/-- How many portions of a text may come through a pipe. -/
def maxPortions : Nat := 1000000

/-- What a command writes, without the line ends behind it. -/
def capture (again : Runner) (body : Command) : Eval (List Char) := do
  if body.isNothing then return []
  let _ ← claimNumber
  let (outlet, inlet) ← openPipe
  let process ← fork (·.withChannel 1 (some inlet)) (concluding again (again { last := true } body))
  let text := (← drain outlet maxPortions []).filter (· ≠ '\x00')
  release outlet
  let ending ← waitFor process
  report ending
  modify fun s => { s with substituted := statusOf ending }
  return (text.reverse.dropWhile (· = '\n')).reverse

end Suite.Shell
