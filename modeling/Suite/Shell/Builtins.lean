import Suite.Shell.Condition
import Suite.Shell.Fields
import Suite.Shell.Formats
import Suite.Shell.Jobs
import Suite.Shell.Names
import Suite.Shell.Permissions
import Suite.Shell.Processes

/-!
# Commands inside the shell

`runInside` carries out one of the commands that a shell has itself, with its arguments, and gives
its status. Those of `specialCommands` come before functions, and what goes wrong in them ends the
shell; the others are the `ordinaryCommands`.
-/

namespace Suite.Shell

open Host (Location)

/-- Lines that set variables as they are. -/
def variableLines (front : String) (vs : List (String × Variable)) : String :=
  String.join (vs.map fun (name, v) =>
    front ++ name ++ (match v.value with
      | some value => "=" ++ quoted value
      | none => "") ++ "\n")

/-- The names in a path behind the slashes in front, and those slashes: one, or two if there are
just two. -/
def splitPath (path : List Char) : String × List (List Char) :=
  let rest := path.dropWhile (· = '/')
  let front := if path.length - rest.length = 2 then "//" else "/"
  (front, if rest.isEmpty then [] else Text.pieces '/' rest)

/-- The path to which another one leads, name by name: two points take the last name away. -/
def pathAfter (base path : String) : String :=
  let isAbsolute := path.toList.head? = some '/'
  let (front, before) := splitPath (if isAbsolute then path.toList else base.toList)
  let before := if isAbsolute then [] else
    if before.getLast? = some [] then before.dropLast else before
  let names := (Text.pieces '/' path.toList).foldl
    (fun names name =>
      if name = [] || name = ['.'] then names
      else if name = ['.', '.'] then names.dropLast
      else names ++ [name])
    before
  front ++ "/".intercalate (names.map String.ofList)

/-- Goes to another directory. -/
def changeDirectory (args : List String) : Eval Nat := do
  let (letters, operands) ← optionsOf "LP" args
  let s ← get
  let dest := match operands with
    | [] => (s.value? "HOME").getD ""
    | d :: _ => if d = "-" then (s.value? "OLDPWD").getD "" else d
  let given := if dest = "" then "." else dest
  let isLocal := [".", ".."].any fun d => dest = d || (d ++ "/").toList.isPrefixOf dest.toList
  let bases := if dest.toList.head? = some '/' || isLocal then []
    else ((s.value? "CDPATH").map fun search =>
      (Text.pieces ':' search.toList).map String.ofList).getD []
  let placed (base : String) : String := if base = "" then given else base ++ "/" ++ given
  let base := (bases.find? fun b =>
    (s.places (placed b)).toOption.map (·.2) = some .directory).getD ""
  let isPhysical := letters.getLast? = some 'P'
  let path := if isPhysical then placed base else pathAfter s.workingPath (placed base)
  match s.places path with
  | .ok (l, .directory) =>
    let shown := if isPhysical then l.path.written.octets else path
    set (s.withPlace l shown (some s.workingPath)).misplaced
    if operands.head? = some "-" || base ≠ "" then write (shown ++ "\n").toList 0
    else return 0
  | _ => fail ("can't cd to " ++ dest)

/-- Takes escapes from a line that is read: the characters, those that were escaped marked, how many
characters are used up, and whether a line end was among them. -/
def inputLine (raw : Bool) (acc : List (Char × Bool)) (used : Nat) :
    List Char → List (Char × Bool) × Nat × Bool
  | [] => (acc.reverse, used, false)
  | '\n' :: _ => (acc.reverse, used + 1, true)
  | '\\' :: rest =>
    if raw then inputLine raw (('\\', false) :: acc) (used + 1) rest
    else
      match rest with
      | [] => (acc.reverse, used + 1, false)
      | '\n' :: after => inputLine raw acc (used + 2) after
      | c :: after => inputLine raw ((c, true) :: acc) (used + 2) after
  | c :: rest => inputLine raw (if c = '\x00' then acc else (c, false) :: acc) (used + 1) rest

/-- The options of `read`: whether backslashes stand for themselves, and the names. -/
def readOptions : List String → Eval (Bool × List String)
  | [] => return (false, [])
  | a :: rest => do
    match a.toList with
    | '-' :: c :: more =>
      if c = '-' && more.isEmpty then return (false, rest)
      else
        let letters := (c :: more).takeWhile (· ≠ 'p')
        match letters.find? (· ≠ 'r') with
        | some c => fail ("Illegal option -" ++ c.toString)
        | none =>
          let raw := letters.contains 'r'
          let prompt := (c :: more).drop letters.length
          if prompt = ['p'] && rest.isEmpty then fail "No arg for -p option"
          let (r, names) ← readOptions (rest.drop (if prompt = ['p'] then 1 else 0))
          return (raw || r, names)
    | _ => return (false, a :: rest)
  termination_by args => args.length
  decreasing_by simp only [List.length_drop, List.length_cons]; omega

/-- Takes a line from a stream, behind what was taken before: the characters and whether they end
with a line end. -/
def takeLine (raw : Bool) (i : Nat) : Nat → List Char → Eval (List (Char × Bool) × Bool)
  | 0, _ => return ([], false)
  | portions + 1, before => do
    waitUntil (·.settled i) maxDisturbances
    let s ← get
    let text := (s.world.unread? i).getD []
    let (line, used, ended) := inputLine raw [] 0 (before ++ text)
    set { s with world := s.world.skip i (used - before.length) }
    if ended || text.isEmpty then return (line, ended)
    else takeLine raw i portions (before ++ text)

/-- Reads a line into variables. -/
def readLine (args : List String) : Eval Nat := do
  let (raw, names) ← readOptions args
  if names.isEmpty then fail "arg count"
  let s ← get
  let (line, ended) ← match s.channels.lookup 0 with
    | some i => takeLine raw i maxPortions []
    | none => pure ([], false)
  let values := readFields s.separators names.length line
  for (name, k) in names.zipIdx do
    assign name (values[k]?.getD "")
  return if ended then 0 else 1

/-- What is done at signals. -/
def trapLines (traps : List (Nat × String)) : String :=
  let ordered := traps.mergeSort fun a b => decide (a.1 ≤ b.1)
  String.join (ordered.map fun (n, action) =>
    "trap -- " ++ quoted action ++ " " ++ signalName n ++ "\n")

/-- Sets what is done at signals. -/
def setTraps (action : Option String) : List String → Eval Nat
  | [] => return 0
  | a :: rest => do
    match signalOf? 0 a with
    | none =>
      let _ ← put 2 ("trap: " ++ a ++ ": bad trap\n").toList
      return 1
    | some n =>
      modify fun s =>
        let others := s.traps.filter fun t => t.1 ≠ n
        { s with traps := (action.map fun action => (n, action)).toList ++ others }
      setTraps action rest

/-- Shows or sets what is done at signals. -/
def trapCommand (args : List String) : Eval Nat := do
  match (← optionsOf "" args).2 with
  | [] => write (trapLines (← get).traps).toList 0
  | [a] => setTraps none [a]
  | a :: rest =>
    let isNumber := a ≠ "" && a.toList.all Char.isDigit && (signalOf? 0 a).isSome
    if isNumber then setTraps none (a :: rest)
    else setTraps (if a = "-" then none else some a) rest

/-- The options of a shell with their states. -/
def optionLines (on : Bool) (s : Session) : String :=
  let all := optionNames.map (fun o => (o.2, s.has o.1)) ++ [("nolog", false), ("debug", false)]
  let line (o : String × Bool) : String :=
    if on then
      let gap := String.ofList (List.replicate (16 - o.1.length) ' ')
      o.1 ++ gap ++ (if o.2 then "on" else "off") ++ "\n"
    else "set " ++ (if o.2 then "-o " else "+o ") ++ o.1 ++ "\n"
  (if on then "Current option settings\n" else "") ++ String.join (all.map line)

/-- Sets the parameters. -/
def setParameters (parameters : List String) : Eval Unit :=
  modify fun s => { s with parameters, nextOption := 1, optionOffset := none }

/-- Sets the option with a name. -/
def setNamed (on : Bool) (name : String) : Eval Unit := do
  match optionLetter? name with
  | some c => modify (·.withOption c on)
  | none => if name ≠ "nolog" && name ≠ "debug" then fail ("Illegal option -o " ++ name)

/-- Sets options and parameters, after which there is something to write. -/
def setCommand : List String → Eval String
  | [] => return ""
  | a :: rest => do
    match a.toList with
    | ['-', '-'] =>
      setParameters rest
      return ""
    | ['-'] =>
      modify fun s => (s.withOption 'x' false).withOption 'v' false
      if !rest.isEmpty then setParameters rest
      return ""
    | sign :: letters =>
      if sign ≠ '-' && sign ≠ '+' then
        setParameters (a :: rest)
        return ""
      else
        let on := sign = '-'
        for c in letters do
          if c ≠ 'o' then
            if (optionNames.lookup c).isNone then fail ("Illegal option -" ++ c.toString)
            modify (·.withLetter c on)
        if letters.contains 'o' then
          match rest with
          | [] => return optionLines on (← get)
          | name :: rest =>
            setNamed on name
            setCommand rest
        else setCommand rest
    | [] =>
      setParameters (a :: rest)
      return ""

/-- The name and the value in an argument that is an assignment. -/
def splitAssignment (a : String) : String × Option String :=
  let name := a.toList.takeWhile (· ≠ '=')
  match a.toList.drop name.length with
  | _ :: value => (String.ofList name, some (String.ofList value))
  | [] => (String.ofList name, none)

/-- Marks variables, or shows those that are marked. -/
def markVariables (command : String) (mark : Variable → Variable) (isMarked : Variable → Bool)
    (args : List String) : Eval Nat := do
  let (shows, operands) ← optionsOf "p" args
  if operands.isEmpty || !shows.isEmpty then
    let marked := (← get).settings.toList.filter fun e => isMarked e.2
    write (variableLines (command ++ " ") marked).toList 0
  else
    for a in operands do
      match splitAssignment a with
      | (name, some value) =>
        change name fun before => mark { before.getD { value := none } with value := some value }
      | (name, none) =>
        match (← get).settings.get? name with
        | some v => modify fun s => { s with settings := s.settings.insert (name, mark v) }
        | none => change name fun _ => mark { value := none }
    return 0

/-- Makes variables a function's own. -/
def localCommand (args : List String) : Eval Nat := do
  if (← get).frames.isEmpty then fail "not in a function"
  for a in args do
    if a = "-" then keep fun s => .options s.options
    else
      match splitAssignment a with
      | (name, some value) =>
        makeOwn name
        assign name value
      | (name, none) => makeOwn name
  return 0

/-- Takes variables or functions away. -/
def unsetCommand (args : List String) : Eval Nat := do
  let (letters, names) ← optionsOf "vf" args
  for name in names do
    if letters.getLast? = some 'f' then
      modify fun s => { s with
        functions := s.functions.erase name }
    else unsetVariable name
  return 0

/-- The next option of the arguments of a script, set in variables. -/
def nextOption (allowed name : String) (args : List String) : Eval Nat := do
  let s ← get
  let index := if args.length + 1 < s.nextOption then 1 else s.nextOption
  let word := ((args[index - 2]?).getD "").toList
  let left := match s.optionOffset with
    | some n => if 1 < index && n ≤ word.length then word.drop n else []
    | none => []
  let leave (index : Nat) (offset : Option Nat) (found : String) (status : Nat) : Eval Nat := do
    assign "OPTIND" (toString index)
    modify fun s => { s with nextOption := index, optionOffset := offset }
    assign name found
    return status
  let quiet := allowed.toList.head? = some ':'
  let letter (index offset : Nat) (c : Char) (more : List Char) : Eval Nat := do
    let next := if more.isEmpty then none else some (offset + 1)
    let at_ := allowed.toList.dropWhile (· ≠ c)
    match if c = ':' then [] else at_ with
    | [] =>
      if quiet then assign "OPTARG" c.toString
      else
        let _ ← put 2 ("Illegal option -" ++ c.toString ++ "\n").toList
        unsetVariable "OPTARG"
      leave index next "?" 0
    | _ :: ':' :: _ =>
      match more, args[index - 1]? with
      | [], none =>
        if quiet then
          assign "OPTARG" c.toString
          leave index none ":" 0
        else
          let _ ← put 2 ("No arg for -" ++ c.toString ++ " option\n").toList
          unsetVariable "OPTARG"
          leave index none "?" 0
      | [], some value =>
        assign "OPTARG" value
        leave (index + 1) none c.toString 0
      | _, _ =>
        assign "OPTARG" (String.ofList more)
        leave index none c.toString 0
    | _ =>
      assign "OPTARG" ""
      leave index next c.toString 0
  -- Letters that are left of the argument before come first.
  match left with
  | c :: more => letter index (word.length - left.length) c more
  | [] =>
    match args[index - 1]? with
    | none => leave index none "?" 1
    | some a =>
      match a.toList with
      | '-' :: c :: more =>
        if c = '-' && more.isEmpty then leave (index + 1) none "?" 1
        else letter (index + 1) 1 c more
      | _ => leave index none "?" 1

/-- Reads the file that commands are to be read from. -/
def readCommands (path : String) : Eval (String × List Char) := do
  let s ← get
  let found :=
    if path.toList.contains '/' then some path
    else
      (candidates s.search path).find? fun p =>
        match s.places p with
        | .ok (_, .file _ _) | .ok (_, .program _) => true
        | _ => false
  match found with
  | none => fail (path ++ ": not found")
  | some file =>
    match s.opened .read file with
    | .error e => fail ("cannot open " ++ file ++ ": " ++ reasonOr "No such file" e)
    | .ok (i, s) =>
      set s
      return (file, ← drain i maxPortions [])

/-- Runs the commands of a file. -/
def dotCommand (again : Runner) (args : List String) : Eval Nat := do
  match (← optionsOf "" args).2 with
  | [] => return 0
  | path :: _ =>
    let (file, text) ← readCommands path
    modify fun s => { s with command := some file }
    match ← attempt (runText again {} visibly text) with
    | .ok status => return status
    | .error .returning => return (← get).status
    | .error f => throw f

/-- Leaves repetitions; there may be fewer than the argument says. -/
def leaveLoops (flow : Nat → Flow) (args : List String) : Eval Nat := do
  let levels ← match args with
    | [] => pure 1
    | a :: _ => do
      let n ← numberOf a
      if n = 0 then fail ("Illegal number: " ++ a) else pure n
  let levels := min levels (← get).loops
  if levels = 0 then return 0
  else
    finish 0
    throw (flow levels)

/-- Judges arguments. -/
def judgeArguments (args : List String) : Eval Nat := do
  let s ← get
  match judge ⟨fun p => (s.places p).toOption, s.isLink⟩ args with
  | .ok b => return if b then 0 else 1
  | .error message => fail message

/-- Carries out a command inside the shell with its arguments and gives its status. -/
def runInside (again : Runner) (flags : Flags) (name : String) (args : List String) :
    Eval Nat := do
  let s ← get
  match name with
  | ":" | "true" => return 0
  | "false" => return 1
  | "echo" => write (echoInside args) 0
  | "printf" =>
    match (← optionsOf "" args).2 with
    | [] => fail "usage: printf format [arg ...]"
    | format :: args =>
      let p := formatted .inside format args
      p.complaints.forM complain
      write p.out p.status
  | "pwd" =>
    let (letters, _) ← optionsOf "LP" args
    let path := if letters.getLast? = some 'P' then s.physicalPath else s.workingPath
    write (path ++ "\n").toList 0
  | "cd" | "chdir" => changeDirectory args
  | "test" => judgeArguments args
  | "[" => if args.getLast? = some "]" then judgeArguments args.dropLast else fail "missing ]"
  | "read" => readLine args
  | "kill" => killCommand args
  | "trap" => trapCommand args
  | "type" => describeAll args
  | "command" =>
    let (letters, operands) ← optionsOf "pvV" args
    match letters.contains 'v' || letters.contains 'V', operands with
    | true, name :: _ => describe (letters.contains 'V') name
    | _, _ => return 0
  | "wait" => waitCommand args
  | "jobs" => jobsCommand args
  | "fg" | "bg" => controlJob args
  | "alias" => aliasCommand args
  | "unalias" => unaliasCommand args
  | "hash" => hashCommand args
  | "umask" => umaskCommand args
  | "getopts" =>
    match args with
    | allowed :: name :: rest =>
      nextOption allowed name (if rest.isEmpty then s.parameters else rest)
    | _ => fail "Usage: getopts optstring var [arg...]"
  | "times" => write "0m0.000000s 0m0.000000s\n0m0.000000s 0m0.000000s\n".toList 0
  | "." => dotCommand again args
  | "break" => leaveLoops .breaking args
  | "continue" => leaveLoops .continuing args
  | "eval" => runText again { tested := flags.tested } silently (" ".intercalate args).toList
  | "exit" =>
    match args with
    | [] => throw .exiting
    | a :: _ =>
      let n ← numberOf a
      modify fun s => { s with leaving := some n }
      throw .exiting
  | "return" =>
    match args with
    | [] => throw .returning
    | a :: _ =>
      finish (← numberOf a)
      throw .returning
  | "export" =>
    markVariables name (fun v => { v with exported := true }) (·.exported) args
  | "readonly" =>
    markVariables name (fun v => { v with readOnly := true }) (·.readOnly) args
  | "local" => localCommand args
  | "unset" => unsetCommand args
  | "set" =>
    if args.isEmpty then
      let held := s.settings.toList.filter fun e => e.2.value.isSome
      write (variableLines "" held).toList 0
    else
      let text ← setCommand args
      giveUpControl
      write text.toList 0
  | "shift" =>
    let n ← match args with
      | [] => pure 1
      | a :: _ => numberOf a
    if s.parameters.length < n then fail "can't shift that many"
    else
      setParameters (s.parameters.drop n)
      return 0
  | "exec" =>
    match (← optionsOf "" args).2 with
    | [] => return 0
    | program :: args =>
      match ← processOf s.search program args with
      | .ok p => throw (.replaced (← runProcess again processLevels p s.environment))
      | .error status =>
        finish status
        throw .stopping
  | _ => return 127

end Suite.Shell
