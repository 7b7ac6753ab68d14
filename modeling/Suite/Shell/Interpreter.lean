import Suite.Shell.Builtins
import Suite.Shell.Redirections

/-!
# Running commands

`step` evaluates a command, given what evaluates the commands in it; `run` ties the knot with a
bound on how deep commands may lie in each other. `execute` runs a program on a `Machine` to its
end.
-/

namespace Suite.Shell

open Host (Ending Finished IoError Launch Location Machine)

/-- Expands words until there is a field, and gives the words that are left. -/
def fill (again : Runner) : List String → List Word → Eval (List String × List Word)
  | fields, [] => return (fields, [])
  | fields, w :: ws => do
    if fields.isEmpty then fill again (← expandFields again w) ws else return (fields, w :: ws)

/-- What a simple command calls. -/
structure Call where
  /-- Fields that do not belong to the call, the last one first. -/
  dropped : List String := []
  fields : List String
  /-- The words that have not been expanded. -/
  words : List Word
  target : Target := .program
  /-- The first field is a command inside the shell, and whether it is a special one. -/
  special : Option Bool := none
  functions : Bool := true
  /-- The program is looked for in the standard directories. -/
  standard : Bool := false

/-- The call without the name and the options of `command`; nothing if that is not to call
anything. -/
def Call.withoutOptions (again : Runner) : Nat → Call → Eval (Option Call)
  | 0, _ => return none
  | steps + 1, c => do
    match c.fields with
    | [] => return none
    | name :: rest =>
      let (rest, words) ← fill again rest c.words
      let c := { c with dropped := name :: c.dropped, fields := rest, words }
      match rest with
      | [] => return none
      | a :: more =>
        match a.toList with
        | '-' :: letter :: letters =>
          if letter = '-' && letters.isEmpty then
            let (more, words) ← fill again more words
            return if more.isEmpty then none
              else some { c with dropped := a :: c.dropped, fields := more, words }
          else if (letter :: letters).all (· = 'p') then
            withoutOptions again steps { c with standard := true }
          else return none
        | _ => return some c

/-- The call with what its first field leads to. -/
def Call.resolved (again : Runner) : Nat → Call → Eval Call
  | 0, c => return c
  | steps + 1, c => do
    match c.fields with
    | [] => return c
    | name :: _ =>
      let target := (← get).target c.functions name
      match target with
      | .inside special =>
        let found := { c with target, special := c.special.or (some special) }
        if name ≠ "command" then return found
        else
          match ← c.withoutOptions again (c.fields.length + c.words.length + 1) with
          | none => return found
          | some called =>
            resolved again steps { called with functions := false, special := found.special }
      | _ => return { c with target }

/-- The fields of words, of which some may be assignments. -/
def expandArguments (again : Runner) (assigning : Bool) : List Word → Eval (List String)
  | [] => return []
  | w :: ws => do
    let fields ← match if assigning then w.assignment? else none with
      | some (name, value) => do pure [name ++ "=" ++ (← expandValue again value)]
      | none => expandFields again w
    return fields ++ (← expandArguments again assigning ws)

/-- The call with all its words expanded. -/
def Call.expanded (again : Runner) (c : Call) : Eval Call := do
  let assigning := match c.target with
    | .inside _ => assigningCommands.contains (c.fields.headD "")
    | _ => false
  let more ← expandArguments again assigning c.words
  return { c with fields := c.fields ++ more, words := [] }

/-- Sets variables for a call: only while it lasts if `temporary` says so. -/
def assignAll (again : Runner) (temporary exported : Bool) :
    List (String × Word) → Eval (List String)
  | [] => return []
  | (name, w) :: rest => do
    let value ← expandValue again w
    if temporary then makeOwn name
    assign name value
    if temporary || exported then
      change name fun before => { before.getD { value := none } with exported := true }
    return (name ++ "=" ++ value) :: (← assignAll again temporary exported rest)

/-- Shows a command before it runs, on the stream that errors went to before. -/
def trace (again : Runner) (stream : Option Nat) (parts : List String) : Eval Unit := do
  let s ← get
  match s.has 'x', stream with
  | true, some i =>
    let text := (← settingText again "PS4") ++ (" ".intercalate parts ++ "\n").toList
    modify fun s => { s with world := (s.world.write? i text).getD s.world }
  | _, _ => return

/-- How many functions may call each other. -/
def maxCalls : Nat := 1000

/-- Calls a function. -/
def callFunction (again : Runner) (flags : Flags) (body : Command) (args : List String) :
    Eval Unit := do
  let s ← get
  let calls := s.calls + 1
  if maxCalls < calls then
    fail ("Maximum function recursion depth (" ++ toString maxCalls ++ ") reached")
  set { s with parameters := args, calls, loops := 0, nextOption := 1, optionOffset := none }
  let r ← attempt (again { tested := flags.tested } body)
  modify fun t => { t with
    parameters := s.parameters, calls := s.calls, loops := s.loops, nextOption := s.nextOption
    optionOffset := s.optionOffset }
  match r with
  | .ok _ | .error .returning => return
  | .error f => throw f

/-- Carries out a command inside the shell. What goes wrong in it counts only if it is special. -/
def callInside (again : Runner) (flags : Flags) (special : Bool) (name : String)
    (args : List String) : Eval Unit := do
  let before := (← get).command
  modify fun s => { s with command := some name }
  let r ← attempt (runInside again flags name args)
  modify fun s => { s with command := before }
  match r with
  | .ok status => finish status
  | .error .failed => if special then throw .failed
  | .error f => throw f

/-- Nothing is to be done at signals or at the end, so that a program may take the place of the
shell. -/
def Session.isFree (s : Session) : Bool := s.traps.all fun t => t.2 = ""

/-- Runs a program, in the place of the shell if nothing follows. The program may be looked for in
the standard directories. -/
def callProgram (again : Runner) (flags : Flags) (standard : Bool) (name : String)
    (args : List String) : Eval Unit := do
  let s ← get
  -- The shell keeps track of the program even if it does not start.
  let found ← if name.toList.contains '/' then pure (.ok name)
    else if standard then pure (findProgram s.world.files s.cwd defaultSearch name)
    else findTracked name
  match found with
  | .error e =>
    complain (name ++ ": " ++ reasonOr "not found" e)
    finish 127
  | .ok _ =>
    match ← processOf (if standard then defaultSearch else s.search) name args with
    | .error status =>
      finish status
      if flags.last && s.isFree then throw .stopping
    | .ok p =>
      let running := runProcess again processLevels p s.environment
      if flags.last && s.isFree then throw (.replaced (← running))
      else
        let _ ← claimNumber
        let ending ← waitFor (← fork id running)
        report ending
        finish (statusOf ending)

/-- Does what a call says. -/
def Call.perform (again : Runner) (flags : Flags) (c : Call) : Eval Unit := do
  let s ← get
  match c.fields, c.target with
  | [], _ => finish s.substituted
  | _ :: args, .function body => callFunction again flags body args
  | name :: args, .inside _ => callInside again flags (c.special = some true) name args
  | name :: args, .program => callProgram again flags c.standard name args

/-- Evaluates a simple command: its words are expanded first, then redirections are made, then
variables are set. -/
def simpleCommand (again : Runner) (flags : Flags) (line : Nat) (assignments : List (String × Word))
    (words : List Word) (redirections : List (Redirection Word)) : Eval Unit := do
  modify fun s => { s with line, substituted := 0 }
  -- The first field decides how the words after it are expanded.
  let (fields, words) ← fill again [] words
  let c ← Call.resolved again (fields.length + words.length + 1) { fields, words }
  let c ← c.expanded again
  let temporary := !c.fields.isEmpty && c.special ≠ some true
  let isExec := match c.target with
    | .inside _ => c.fields.head? = some "exec"
    | _ => false
  -- The trace goes where errors went before the redirections.
  let stream := (← get).channels.lookup 2
  if temporary then modify fun s => { s with frames := [] :: s.frames }
  thenAlways
    (do
      let done ← withRedirections again redirections isExec do
        let shown ← assignAll again temporary (isExec && 1 < c.fields.length) assignments
        let parts := shown ++ c.dropped.reverse ++ c.fields
        trace again stream parts
        c.perform again flags
      if done.isNone && c.special = some true then throw .failed)
    (if temporary then leaveFrame else pure ())

/-- What a repetition makes of a flow that its commands led to. -/
inductive Sequel
  | next
  | done
  | out (f : Flow)

/-- What a repetition makes of a flow that its commands led to. -/
def Sequel.after : Flow → Sequel
  | .breaking n => if n ≤ 1 then .done else .out (.breaking (n - 1))
  | .continuing n => if n ≤ 1 then .next else .out (.continuing (n - 1))
  | f => .out f

/-- Repeats a body as long as a condition succeeds, or fails; `status` is that of the last turn. -/
def repeatWhile (again : Runner) (flags : Flags) (untilSuccess : Bool) (condition body : Command) :
    Nat → Nat → Eval Unit
  | 0, status => finish status
  | turns + 1, status => do
    match ← attempt (again { tested := true } condition) with
    | .error f =>
      match Sequel.after f with
      | .next => repeatWhile again flags untilSuccess condition body turns status
      | .done => finish status
      | .out f =>
        -- A condition that leaves more than this repetition keeps the status of the last turn.
        if f ≠ .returning && f.isLocal then finish status
        throw f
    | .ok _ =>
      if ((← get).status = 0) = untilSuccess then finish status
      else
        match ← attempt (again flags body) with
        | .ok _ =>
          let status := (← get).status
          repeatWhile again flags untilSuccess condition body turns status
        | .error f =>
          match Sequel.after f with
          | .next =>
            let status := (← get).status
            repeatWhile again flags untilSuccess condition body turns status
          | .done => return
          | .out f => throw f

/-- Repeats a body for each of some values of a variable. -/
def repeatFor (again : Runner) (flags : Flags) (name : String) (body : Command) :
    List String → Eval Unit
  | [] => return
  | value :: rest => do
    assign name value
    match ← attempt (again flags body) with
    | .ok _ => repeatFor again flags name body rest
    | .error f =>
      match Sequel.after f with
      | .next => repeatFor again flags name body rest
      | .done => return
      | .out f => throw f

/-- Evaluates inside one more repetition. -/
def insideLoop (x : Eval Unit) : Eval Unit := do
  modify fun s => { s with loops := s.loops + 1 }
  thenAlways x (modify fun s => { s with loops := s.loops - 1 })

/-- The first pattern of some words is that of a text. -/
def matchesAny (again : Runner) (text : List Char) : List Word → Eval Bool
  | [] => return false
  | w :: ws => do
    if matchesText (← expandPattern again w) text then return true else matchesAny again text ws

/-- Evaluates the first case of which a pattern has the text. -/
def choose (again : Runner) (flags : Flags) (text : List Char) :
    List (List Word × Command) → Eval Unit
  | [] => finish 0
  | (patterns, body) :: rest => do
    if ← matchesAny again text patterns then
      if body.isNothing then finish 0 else again flags body
    else choose again flags text rest

/-- Starts processes for commands each of which reads what the one before it writes, and gives their
numbers. The channel for input leads to a stream, if one is given. -/
def startPiped (again : Runner) (prepare : Session → Session) (flags : Flags) :
    Option Nat → List Command → Eval (List Nat)
  | _, [] => return []
  | input, c :: rest => do
    let from_ (s : Session) : Session :=
      match input with
      | some i => s.withChannel 0 (some i)
      | none => s
    let x := concluding again (again { flags with last := true } c)
    if rest.isEmpty then
      let process ← fork (fun s => from_ (prepare s)) x
      input.forM release
      return [process]
    else
      let (outlet, inlet) ← openPipe
      let process ← fork (fun s => (from_ (prepare s)).withChannel 1 (some inlet)) x
      input.forM release
      return process :: (← startPiped again prepare flags (some outlet) rest)

/-- Waits for the processes of a job and reports their ends; the last one gives the status. -/
def waitForAll : List Nat → Eval Unit
  | [] => return
  | process :: rest => do
    let ending ← waitFor process
    report ending
    finish (statusOf ending)
    waitForAll rest

/-- Evaluates commands one after the other; the last one may be the last of all. -/
def inSequence (again : Runner) (flags : Flags) : List Command → Eval Unit
  | [] => return
  | [c] => again flags c
  | c :: rest => do
    again { flags with last := false } c
    inSequence again flags rest

/-- Evaluates a command in a copy of the shell, which is the shell itself if nothing follows. -/
def evaluateApart (again : Runner) (flags : Flags) (line : Nat) (body : Command)
    (redirections : List (Redirection Word)) : Eval Unit := do
  modify fun s => { s with line }
  let targets ← redirectionTargets again redirections
  let x := do
    redirectAll again targets
    again { flags with last := true } body
  if flags.last && (← get).isFree then
    match ← attempt x with
    | .error (.breaking _) | .error (.continuing _) | .error .returning | .ok _ => throw .stopping
    | .error f => throw f
  else
    let ending ← inCopy again id x
    report ending
    finish (statusOf ending)

/-- The signals that nothing waits for are deaf to. -/
def backgroundIgnored : List Nat := [2, 3]

/-- The session of commands that nothing waits for. -/
def Session.behind (s : Session) : Session := { s with ignored := backgroundIgnored ++ s.ignored }

/-- Evaluates a command that nothing waits for. Its first process has nothing to read. -/
def evaluateBehind (again : Runner) (body : Command) : Eval Unit := do
  let number ← claimNumber
  let (i, world) := (← get).world.push (.device .null)
  modify fun s => { s with world, held := i :: s.held }
  let processes ← match body with
    | .piped commands =>
      commands.forM trackCalled
      startPiped again Session.behind {} (some i) commands
    | _ => do
      let process ← fork (fun s => s.behind.withChannel 0 (some i))
        (concluding again (again { last := true } body))
      pure [process]
  release i
  modify fun s => { s with
    jobs := { number, processes } :: s.jobs
    background := processes.getLast?
    status := 0 }

/-- The greatest number of turns of a repetition. -/
def maxTurns : Nat := 10000000

/-- Evaluates a command and tells whether its failure is one of the script. -/
def evaluate (again : Runner) (flags : Flags) (c : Command) : Eval Bool := do
  let inner : Flags := { tested := flags.tested }
  match c with
  | .simple line assignments words redirections =>
    simpleCommand again flags line assignments words redirections
    return true
  | .sequence commands =>
    inSequence again flags commands
    return false
  | .both first second =>
    again { tested := true } first
    if (← get).status = 0 then again flags second
    return false
  | .either first second =>
    again { tested := true } first
    if (← get).status ≠ 0 then again flags second
    return false
  | .negated body =>
    again { tested := true } body
    finish (if (← get).status = 0 then 1 else 0)
    return false
  | .piped commands =>
    let _ ← claimNumber
    commands.forM trackCalled
    waitForAll (← startPiped again id inner none commands)
    return true
  | .background body =>
    evaluateBehind again body
    return true
  | .repeated untilSuccess condition body =>
    insideLoop (repeatWhile again inner untilSuccess condition body maxTurns 0)
    return false
  | .forEach line name words body =>
    modify fun s => { s with line }
    let values ← expandArguments again false words
    if values.isEmpty then finish 0
    insideLoop (repeatFor again inner name body values)
    return false
  | .branch condition yes no =>
    again { tested := true } condition
    if (← get).status = 0 then again flags yes
    else if no.isNothing then finish 0
    else again flags no
    return false
  | .choice line word cases =>
    modify fun s => { s with line }
    choose again flags (← expandText again word) cases
    return false
  | .apart line body redirections =>
    evaluateApart again flags line body redirections
    return true
  | .redirected line body redirections =>
    modify fun s => { s with line }
    let done ← withRedirections again redirections false (again inner body)
    return done.isNone
  | .function name body =>
    modify fun s => { s with functions := s.functions.insert (name, body) }
    finish 0
    return false

/-- How many traps may wait. -/
def maxPending : Nat := 1000

/-- Evaluates a command, with what has to be done before and after it: traps run, a failure ends the
shell if an option says so, and so does the last command of all. -/
def step (again : Runner) : Runner := fun flags c => do
  pause
  receive
  runTraps again maxPending
  let counts ← if (← get).has 'n' then pure false else evaluate again flags c
  runTraps again maxPending
  let s ← get
  if counts && !flags.tested && s.has 'e' && s.status ≠ 0 then throw .stopping
  if flags.last then throw .stopping

/-- The signal that ends a process whose commands lie too deep in each other. -/
def overflowSignal : Nat := 11

/-- Evaluates a command whose commands lie in each other up to a depth. -/
def run : Nat → Runner
  | 0 => fun _ _ => throw (.killed overflowSignal)
  | depth + 1 => fun flags c => step (run depth) flags c

/-- How deep commands may lie in each other. -/
def maxDepth : Nat := 12000

/-- The number of the first process. -/
def firstProcess : Nat := 1000

/-- The session of the first process on a machine; it has nothing to read. -/
def Session.ofMachine (m : Machine) (cwd : Location) : Session :=
  let streams := #[.source [], .collector [], .collector []]
  { world := { files := m.files, streams, nextProcess := firstProcess + 1 }
    channels := [(0, 0), (1, 1), (2, 2)], cwd, workingPath := "", settings := .empty, name := ""
    process := firstProcess, shell := firstProcess }

/-- Runs a program on a machine. The program starts in the directory of the launch and leaves the
current directory and the environment as they were. -/
def execute : Host.Executor Machine := fun launch m =>
  let texts : List OsText :=
    (launch.program :: launch.arguments).map .ofText ++ (launch.directory.map (·.written)).toList
  if texts.any fun t => t.bytes.contains 0 then (.error .nulInArgument, m)
  else
    let process : Except IoError (Location × Process) := do
      let cwd ← startDirectory m launch.directory
      return (cwd, ← Process.ofLaunch m cwd launch)
    match process with
    | .error e => (.error e, m)
    | .ok (cwd, p) =>
      let environment : Environment := m.environment.toList.map fun e =>
        (Text.octets e.1, e.2.octets)
      let s := Session.ofMachine m cwd
      let resume (world : World) : Task :=
        runProcess (run maxDepth) processLevels p environment { s with world } fun r t =>
          .ended t.world (endingOf r)
      let world := schedule maxTurns s.published [⟨firstProcess, fun _ => true, resume⟩]
      let ending := (world.ended.lookup firstProcess).getD (.exited 2)
      let written (i : Nat) : List UInt8 := Text.bytes (world.collected i)
      (.ok { stdout := written 1, stderr := written 2, ending }, { m with files := world.files })

end Suite.Shell
