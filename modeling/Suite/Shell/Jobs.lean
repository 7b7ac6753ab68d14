import Suite.Shell.Arguments
import Suite.Shell.Running

/-!
# Jobs and signals

The commands that deal with the processes of a shell: `jobs`, `fg` and `bg` with those that nothing
waits for, `wait` with their ends, and `kill` with signals. A job is named by a percent sign and its
number, or by its process.
-/

namespace Suite.Shell

open Host (Ending)

/-- The job that an argument names, the last one if there is no argument, or why there is none. -/
def Session.job? (s : Session) (spec : Option String) : Except String Job :=
  let ofOption (missing : String) (j : Option Job) : Except String Job :=
    match j with
    | some j => .ok j
    | none => .error missing
  match spec with
  | none => ofOption "No current job" s.jobs.head?
  | some text =>
    let missing := "No such job: " ++ text
    match text.toList with
    | ['%'] | ['%', '+'] | ['%', '%'] => ofOption "No current job" s.jobs.head?
    | ['%', '-'] => ofOption "No previous job" s.jobs.tail.head?
    | '%' :: name =>
      ofOption missing (if name.all Char.isDigit then
        s.jobs.find? fun j => (String.ofList name).toNat? = some j.number else none)
    | _ => .error missing

/-- How a list of jobs says that a process has ended. -/
def endingText : Ending → String
  | .exited 0 => "Done"
  | .exited code => "Done(" ++ toString code ++ ")"
  | .signalled signal => signalText signal

/-- The width of what a list of jobs says before the commands. -/
def jobWidth : Nat := 33

/-- How a list shows a job. The commands themselves are not known any more. With `numbers` it shows
the numbers of processes. -/
def Session.jobText (s : Session) (numbers : Bool) (j : Job) : String :=
  let label := "[" ++ toString j.number ++ "] "
  let mark :=
    if s.jobs.head? = some j then "+ " else if s.jobs.tail.head? = some j then "- " else "  "
  let state := if j.isDone then (j.ending?.map endingText).getD "Done" else "Running"
  let filled (text : String) : String :=
    text ++ String.ofList (List.replicate (max 1 (jobWidth - text.length)) ' ')
  match j.processes with
  | [] => ""
  | first :: others =>
    if numbers then
      let indent := String.ofList (List.replicate label.length ' ') ++ "  "
      let lines := others.map fun p => filled (" |\n" ++ indent ++ toString p ++ " ")
      filled (label ++ mark ++ toString first ++ " " ++ state) ++ String.join lines ++ "\n"
    else
      filled (label ++ mark ++ state) ++ String.join (others.map fun _ => " | ") ++ "\n"

/-- Shows a job, which is forgotten then if it is done. -/
def showJob (letters : List Char) (j : Job) : Eval String := do
  let s ← get
  if letters.getLast? = some 'p' then return toString (j.processes.headD 0) ++ "\n"
  else
    let text := s.jobText (letters.contains 'l') j
    if j.isDone then set { s with jobs := s.jobs.erase j }
    return text

/-- Shows jobs. -/
def jobsCommand (args : List String) : Eval Nat := do
  let (letters, names) ← optionsOf "lp" args
  notice
  let shown ← if names.isEmpty then pure (← get).jobs
    else names.mapM fun name => do
      match (← get).job? (some name) with
      | .ok j => pure j
      | .error message => fail message
  let texts ← shown.mapM (showJob letters)
  write (String.join texts).toList 0

/-- Brings a job to the front or sets it going, which is refused: no job is under control. -/
def controlJob (args : List String) : Eval Nat := do
  let (_, names) ← optionsOf "" args
  match (← get).job? names.head? with
  | .error message => fail message
  | .ok _ =>
    let name := names.head?.getD "(null)"
    fail ("job " ++ name ++ " not created under job control")

/-- The status that the last signal gives which interrupts a wait. -/
def Session.interruption (s : Session) : Option Nat := s.pending.head?.map (128 + ·)

/-- Waits until something has happened that concerns some processes, or a signal has come. -/
def waitForNews (processes : List Nat) : Eval Unit := do
  let own := (← get).process
  block fun w => w.isCalled own || w.ended.any fun e => processes.contains e.1
  receive

/-- Waits for the end of a job and gives its status; nothing if a signal interrupts that. -/
def waitForJob (number : Nat) : Nat → Eval (Option Nat)
  | 0 => return none
  | rounds + 1 => do
    let s ← get
    match s.jobs.find? fun j => j.number = number with
    | none => return some 127
    | some j =>
      if j.isDone then
        let jobs := s.jobs.map fun k => if k.number = number then k.met else k
        set { s with jobs }
        return some ((j.ending?.map statusOf).getD 0)
      else if !s.pending.isEmpty then return none
      else
        waitForNews j.processes
        notice
        let news := ((← get).jobs.find? fun k => k.number = number).map (·.endings)
        ((news.getD []).drop j.endings.length).forM fun e => report e.2
        waitForJob number rounds

/-- Waits for the end of all jobs; a signal may interrupt that. -/
def waitForJobs : Nat → Eval (Option Nat)
  | 0 => return none
  | rounds + 1 => do
    notice
    let s ← get
    match s.jobs.filter fun j => !j.isDone with
    | [] =>
      set { s with jobs := s.jobs.map Job.met }
      return some 0
    | running =>
      if !s.pending.isEmpty then return none
      else
        waitForNews (running.flatMap (·.processes))
        waitForJobs rounds

/-- Waits for jobs one after the other; `status` is that of the last one that was known. -/
def waitInOrder (status : Nat) : List String → Eval Nat
  | [] => return status
  | a :: rest => do
    let job ← match a.toList with
      | '%' :: _ =>
        match (← get).job? (some a) with
        | .ok j => pure (some j)
        | .error message => fail message
      | _ => do
        let process ← numberOf a
        pure ((← get).jobs.find? fun j => j.processes.getLast? = some process)
    match job with
    | none => waitInOrder status rest
    | some j =>
      notice
      match ← waitForJob j.number maxDisturbances with
      | some status => waitInOrder status rest
      | none => return (← get).interruption.getD status

/-- Waits for jobs, for all of them if none is named. -/
def waitCommand (args : List String) : Eval Nat := do
  match (← optionsOf "" args).2 with
  | [] =>
    match ← waitForJobs maxDisturbances with
    | some status => return status
    | none => return (← get).interruption.getD 0
  | names => waitInOrder 127 names

/-- The signal that an argument names. -/
def signalOf? (least : Nat) (a : String) : Option Nat :=
  let byName := ((List.range (maxSignal + 1)).drop least).find? fun n =>
    (signalName n).toList.map Char.toUpper = a.toList.map Char.toUpper
  match if a.toList.all Char.isDigit then a.toNat? else none with
  | some n => if n ≤ maxSignal then some n else none
  | none => byName

/-- Sends a signal to a process and tells whether there is one. There is always a first one, which
no signal is sent to here. -/
def sendSignal (signal process : Nat) : Eval Bool := do
  let s ← get
  if process = 1 then return signal = 0
  else
    let process := if process = 0 then s.process else process
    if !s.published.knows process then return false
    else
      if signal ≠ 0 then
        set { s with world := { s.world with sent := s.world.sent ++ [(process, signal)] } }
      if process = s.process then receive
      return true

/-- How `kill` is used. -/
def killUsage : String :=
  "Usage: kill [-s sigspec | -signum | -sigspec] [pid | job]... or\nkill -l [exitstatus]"

/-- Sends a signal to processes. None of them leads a group, so that there is no group to send it
to. -/
def killProcesses (signal : Nat) : List String → Eval Nat
  | [] => return 0
  | a :: rest => do
    let met ← match a.toList with
      | '%' :: _ =>
        match (← get).job? (some a) with
        | .ok _ => pure false
        | .error message => fail message
      | '-' :: more =>
        let _ ← numberOf (String.ofList more)
        pure false
      | _ => do sendSignal signal (← numberOf a)
    if !met then complain "No such process\n"
    let others ← killProcesses signal rest
    return if met then others else 1

/-- The names of signals. -/
def listSignals (args : List String) : Eval Nat := do
  match args with
  | [] =>
    let names := (List.range maxSignal).map fun n => signalName (n + 1)
    write ("0\n" ++ String.join (names.map (· ++ "\n"))).toList 0
  | a :: _ =>
    let n ← numberOf a
    let n := if 128 < n then n - 128 else n
    if 0 < n && n ≤ maxSignal then write (signalName n ++ "\n").toList 0
    else fail ("invalid signal number or exit status: " ++ a)

/-- Sends a signal that is given first, or shows signals. -/
def killCommand (args : List String) : Eval Nat := do
  let send (signal : Nat) (processes : List String) : Eval Nat :=
    if processes.isEmpty then fail killUsage else killProcesses signal processes
  let named (name : String) (processes : List String) : Eval Nat :=
    match signalOf? 1 name with
    | some n => send n processes
    | none => fail ("invalid signal number or name: " ++ name)
  match args with
  | [] => fail killUsage
  | a :: rest =>
    match a.toList with
    | '-' :: spec =>
      match if spec.isEmpty then none else signalOf? 1 (String.ofList spec), spec, rest with
      | some n, _, _ => send n rest
      | none, ['0'], _ => send 0 rest
      | none, ['-'], _ => send 15 rest
      | none, ['l'], _ => listSignals rest
      | none, ['s'], name :: rest => named name rest
      | none, ['s'], [] => fail "No arg for -s option"
      | none, 's' :: name, _ => named (String.ofList name) rest
      | none, c :: _, _ => fail ("Illegal option -" ++ c.toString)
      | none, [], _ => send 15 args
    | _ => send 15 args

end Suite.Shell
