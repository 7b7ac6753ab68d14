import Suite.Cli.Run
import Suite.Shell.Concatenation
import Suite.Shell.Environment
import Suite.Shell.Executable
import Suite.Shell.Expansion

/-!
# Processes

A process that a shell starts shares its world, its channels and its directory and sees its exported
variables. It is one of the programs of `Tools`, or a shell of its own, which reads its options
first and then runs a text: `runShell`. `launch` starts what a name and arguments say.
-/

namespace Suite.Shell

open Host (Ending IoError Location Machine)

/-- What the arguments of a shell say. -/
structure Startup where
  options : List Char := []
  /-- The first argument that is left is a text of commands. -/
  takesText : Bool := false
  rest : List String := []
  deriving DecidableEq, Repr

/-- The startup with an option on or off. -/
def Startup.withOption (on : Bool) (s : Startup) (option : Char) : Startup :=
  let others := s.options.filter (· ≠ option)
  { s with options := if on then option :: others else others }

/-- The startup with an option on or off by its letter: `c` only asks for a text, and of two ways to
edit lines the last one stays. -/
def Startup.withLetter (on : Bool) (s : Startup) (c : Char) : Except String Startup :=
  if c = 'c' then .ok { s with takesText := true }
  else if c = 'l' then .ok s
  else if (optionNames.lookup c).isSome then
    let other := [('V', 'E'), ('E', 'V')].lookup c
    .ok ((if on then other.elim s (s.withOption false) else s).withOption on c)
  else .error ("Illegal option -" ++ c.toString)

/-- The letter of an option that is given by its name. -/
def optionLetter? (name : String) : Option Char :=
  (optionNames.find? fun o => o.2 = name).map (·.1)

/-- What the arguments of a shell say, after those that were read. -/
def Startup.read (s : Startup) : List String → Except String Startup
  | [] => .ok { s with rest := [] }
  | a :: rest =>
    match a.toList with
    | ['-'] | ['-', '-'] => .ok { s with rest }
    | sign :: letters =>
      if sign ≠ '-' && sign ≠ '+' then .ok { s with rest := a :: rest }
      else do
        let on := sign = '-'
        let s ← (letters.filter (· ≠ 'o')).foldlM (Startup.withLetter on) s
        if letters.contains 'o' then
          match rest with
          | [] => s.read []
          | name :: rest =>
            match optionLetter? name with
            | some c => (s.withOption on c).read rest
            | none => .error ("Illegal option -o " ++ name)
        else s.read rest
    | [] => .ok { s with rest := a :: rest }

/-- The variables that a shell begins with. -/
def startSettings (environment : Environment) : Table Variable :=
  let standard : List (String × String) :=
    [("IFS", " \t\n"), ("OPTIND", "1"), ("PPID", "1"), ("PS1", "# "), ("PS2", "> "), ("PS4", "+ ")]
  let path := if (environment.get? "PATH").isSome then [] else [("PATH", defaultSearch)]
  let inherited := environment.filter fun e =>
    isName e.1.toList && (standard.lookup e.1).isNone
  .ofList ((standard ++ path).map (fun e => (e.1, { value := some e.2 })) ++
    inherited.map (fun e => (e.1, { value := some e.2, exported := true })))

/-- The session of a shell that a process becomes. -/
def Session.started (s : Session) (name : String) (environment : Environment) : Session :=
  -- A path that is given counts if it leads to the directory.
  let given := (environment.get? "PWD").filter fun p =>
    p.toList.head? = some '/' && (s.places p).toOption.map (·.1) = some s.cwd
  { world := s.world, channels := s.channels, cwd := s.cwd, workingPath := ""
    settings := startSettings environment, name, process := s.process, shell := s.process
    ignored := s.ignored, umask := s.umask
    : Session }.withPlace s.cwd (given.getD s.physicalPath) none

/-- All that comes through a channel, from now on until its end. -/
def allInput (channel : Nat) : Eval (List Char) := do
  match (← get).channels.lookup channel with
  | none => return []
  | some i => drain i maxPortions []

/-- Says that the shell is ready to read, if there is a dialogue. -/
def invite (again : Runner) (sign : String) : Eval Unit := do
  if (← get).has 'i' then
    let _ ← put 2 (← settingText again sign)

/-- What a shell says while it reads commands: in a dialogue it is ready for each line. -/
def inDialogue (again : Runner) : Attendant := fun text more => do
  invite again "PS1"
  for _ in List.range more do invite again "PS2"
  visibly text more

/-- How often the end of the commands is overlooked, if an option says so. -/
def overlookedEnds : Nat := 50

/-- What a shell says at the end of its commands. -/
def takeLeave (again : Runner) : Eval Unit := do
  let s ← get
  if s.has 'I' then
    for _ in List.range overlookedEnds do
      let _ ← put 2 "\nUse \"exit\" to leave shell.\n".toList
      invite again "PS1"
  else if s.has 'i' then
    let _ ← put 2 ['\n']

/-- Runs the commands that a shell reads. -/
def runScript (again : Runner) (text : List Char) : Eval Unit := do
  let _ ← runText again {} (inDialogue again) text
  takeLeave again

/-- Runs `x` and then, if that goes wrong in a dialogue, what there is to read. -/
def orDialogue (again : Runner) (x : Eval Unit) : Eval Unit := do
  match ← attempt x with
  | .error .failed => do
    if !(← get).has 'i' then throw .failed
    runScript again (← allInput 0)
  | .error f => throw f
  | .ok _ => return

/-- Runs the commands that come through the channel for input. After something that goes wrong in a
dialogue the rest of them is forgotten. -/
def runInput (again : Runner) : Eval Unit := do
  let text ← allInput 0
  orDialogue again (runScript again text)

/-- Runs a text of commands that is an argument, and what there is to read if an option says so. -/
def runArgument (again : Runner) (text : List Char) : Eval Unit := do
  match ← attempt (runText again {} silently text) with
  | .ok _ | .error .returning => if (← get).has 's' then runInput again
  | .error f => throw f

/-- Runs what the arguments of a shell say. -/
def shellBody (again : Runner) (args : List String) : Eval Unit := do
  match Startup.read {} args with
  | .error message => fail message
  | .ok start =>
    modify fun s => { s with options := start.options }
    if start.options.contains 'i' then modify (·.withOption 'm' true)
    match start.takesText, start.rest with
    | true, [] => fail "-c requires an argument"
    | true, text :: rest =>
      modify fun s => { s with name := rest.headD s.name, parameters := rest.tail }
      giveUpControl
      orDialogue again (runArgument again text.toList)
    | false, [] =>
      modify (·.withOption 's' true)
      giveUpControl
      runInput again
    | false, file :: rest =>
      if start.options.contains 's' then
        modify fun s => { s with parameters := start.rest }
        giveUpControl
        runInput again
      else
        let s ← get
        match s.opened .read file with
        | .error e => fail ("cannot open " ++ file ++ ": " ++ reasonOr "No such file" e)
        | .ok (i, s) =>
          set { s with name := file, parameters := rest }
          giveUpControl
          let text ← drain i maxPortions []
          orDialogue again (runScript again text)

/-- Becomes a shell of its own and tells how that ends. -/
def runShell (again : Runner) (p : Process) (environment : Environment) : Eval Ending := do
  modify (·.started p.name environment)
  concluding again (shellBody again p.arguments)

/-- Writes what a program that is called by a name writes and tells how it ends. -/
def reportOf (name : String) (r : Report) : Eval Ending := do
  let _ ← put 2 r.err.toList
  if r.out.isEmpty || (← put 1 r.out.toList) then return .exited r.status
  else
    let fault := (← get).writeFault 1
    let _ ← put 2 (name ++ ": write error: " ++ fault ++ "\n").toList
    return .exited 1

/-- The process that is found by a name, or the reason why there is none. A script that says nothing
about its program is run by a shell. -/
def Process.find? (s : Session) (search name : String) (args : List String) :
    Except IoError Process :=
  let files := s.world.files
  let attempts := (if name.toList.contains '/' then [name] else candidates search name).map
    fun path =>
      match Process.load files s.cwd scriptLimit path name args with
      | .error .noFormat => .ok ⟨"sh", "/bin/sh", path :: args⟩
      | other => other
  match attempts.findSome? Except.toOption with
  | some p => .ok p
  | none =>
    let obstacles := attempts.filterMap fun a =>
      match a with
      | .error e => if e = .notFound || e = .notDirectory then none else some e
      | .ok _ => none
    .error (obstacles.getLastD .notFound)

/-- Becomes the process that the arguments of `env` say and tells how that ends; `become` turns into
another one. -/
def runElsewhere (become : Process → Environment → Eval Ending) (p : Process)
    (environment : Environment) : Eval Ending := do
  let s ← get
  match Surroundings.ofArguments Surroundings.maxOptions environment p.arguments with
  | .error message =>
    let scene : Scene := ⟨s.world, s.cwd, p.name, p.arguments, environment⟩
    reportOf p.name (scene.misused message 125)
  | .ok t =>
    match t.command with
    | [] => reportOf p.name { out := t.listed }
    | name :: args =>
      let search := (t.settings.get? "PATH").getD defaultSearch
      match if name = "" then .error .notFound else Process.find? s search name args with
      | .ok q => become q t.settings
      | .error e =>
        let advice := if e = .notFound && name.toList.any isWordBlank then
            p.name ++ ": use -[v]S to pass options in shebang lines\n"
          else ""
        let message := p.name ++ ": " ++ Quotation.cited name ++ ": " ++ reason e ++ "\n"
        reportOf p.name { err := message ++ advice, status := if e = .notFound then 127 else 126 }

/-- The machine as a process sees it. -/
def Session.machine (s : Session) (environment : Environment) : Machine where
  files := s.world.files
  environment := .ofList <| environment.map fun e =>
    ((OsText.ofOctets e.1).text, OsText.ofOctets e.2)
  cwd := s.cwd

/-- Writes what a command line of the suite came to and tells how that ends. -/
def showOutcome (o : Cli.Outcome) : Eval Ending := do
  let _ ← put 1 (Text.ofBytes o.stdout)
  let _ ← put 2 (Text.ofBytes o.stderr)
  return .exited o.exit

/-- Becomes the program of the suite, and then what that launches, and tells how that ends; `become`
turns into another process. There is no gate inside of one. -/
def runSuite (become : Process → Environment → Eval Ending) (p : Process)
    (environment : Environment) : Eval Ending := do
  let s ← get
  let m := s.machine environment
  match Cli.plan m (p.arguments.map fun a => (OsText.ofOctets a).text) with
  | .finish outcome after =>
    set { s with world := { s.world with files := after.files } }
    showOutcome outcome
  | .launch l =>
    let found : Except IoError (Location × Process) := do
      let cwd ← startDirectory m l.directory
      return (cwd, ← Process.ofLaunch m cwd l)
    match found with
    | .error e => showOutcome (Cli.launchOutcome l (.error e))
    | .ok (cwd, q) =>
      modify fun s => { s with cwd }
      return .exited (Cli.exitCodeOf (← become q environment))
  | .gate .. => return .exited Cli.failureCode

/-- Becomes another process and tells how that ends; `levels` bounds how often one is named by
another. Traps are left behind, and what they ignore stays ignored. -/
def runProcess (again : Runner) : Nat → Process → Environment → Eval Ending
  | 0, _, _ => return .exited 127
  | levels + 1, p, environment => do
    modify fun s =>
      { s with traps := [], ignored := (s.traps.filter (·.2 = "")).map (·.1) ++ s.ignored }
    match p.program with
    | "sh" | "dash" => runShell again p environment
    | "env" => runElsewhere (runProcess again levels) p environment
    | "cat" => concatenate p.name p.arguments
    | "bf-suite" => runSuite (runProcess again levels) p environment
    | program =>
      let s ← get
      reportOf p.name (runTool program ⟨s.world, s.cwd, p.name, p.arguments, environment⟩)

/-- How many programs may name each other. -/
def processLevels : Nat := 64

/-- The process that a name leads to. If it cannot be run this says why and gives the status for
that. -/
def processOf (search name : String) (args : List String) : Eval (Except Nat Process) := do
  match Process.find? (← get) search name args with
  | .ok p => return .ok p
  | .error e =>
    complain (name ++ ": " ++ reasonOr "not found" e)
    let missing := [IoError.notFound, .notDirectory, .nameTooLong, .tooManyLevels].contains e
    return .error (if missing then 127 else 126)

end Suite.Shell
