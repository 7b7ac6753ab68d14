import Suite.Shell.Arguments
import Suite.Shell.Environment
import Suite.Shell.Executable
import Suite.Shell.Script

/-!
# What names stand for

A name in front of a command is a word of the language, an alias, a function, a command inside the
shell or a program, in this order. `describe` tells which, `aliasCommand` and `unaliasCommand` deal
with aliases, and `hashCommand` with the programs that the shell keeps track of. Lists of names are
in the order of their `nameKey`.
-/

namespace Suite.Shell

open Host (IoError Location)

/-- The commands inside the shell that functions can take the place of. -/
def ordinaryCommands : List String :=
  ["[", "alias", "bg", "cd", "chdir", "command", "echo", "false", "fg", "getopts", "hash", "jobs",
   "kill", "printf", "pwd", "read", "test", "true", "type", "umask", "unalias", "wait"]

/-- The commands whose arguments may be assignments. -/
def assigningCommands : List String := ["alias", "export", "local", "readonly"]

/-- What a name leads to. -/
inductive Target
  | function (body : Command)
  | inside (special : Bool)
  | program

/-- What a name leads to; functions may be left out. -/
def Session.target (s : Session) (functions : Bool) (name : String) : Target :=
  match if functions then s.functions.get? name else none with
  | some body => .function body
  | none =>
    if specialCommands.contains name then .inside true
    else if ordinaryCommands.contains name then .inside false
    else .program

/-- The place of a name in a list: its octets and the first one sixteen times more, summed up and
wrapped at a number. -/
def nameKey (buckets : Nat) (name : String) : Nat :=
  let codes := name.toList.map Char.toNat
  codes.foldl (· + ·) (16 * codes.headD 0) % buckets

/-- What belongs to names, in the order in which it is listed: names of one place stay in the order
in which they came. -/
def inListing {α : Type} (buckets : Nat) (name : α → String) (xs : List α) : List α :=
  xs.mergeSort fun a b => decide (nameKey buckets (name a) ≤ nameKey buckets (name b))

/-- How many places there are for aliases and variables. -/
def aliasPlaces : Nat := 39

/-- How many places there are for programs. -/
def programPlaces : Nat := 31

/-- What programs see of the variables. -/
def Session.environment (s : Session) : Environment :=
  inListing aliasPlaces (·.1) (s.settings.toList.filterMap fun (name, v) =>
    if v.exported then v.value.map fun value => (name, value) else none)

/-- The line that shows an alias. -/
def aliasLine (a : String × String) : String := a.1 ++ "=" ++ quoted a.2 ++ "\n"

/-- The session with one more alias, or with another text for one. -/
def Session.withAlias (s : Session) (a : String × String) : Session :=
  { s with
    aliases :=
      if s.aliases.any (·.1 = a.1) then s.aliases.map fun b => if b.1 = a.1 then a else b
      else s.aliases ++ [a] }

/-- The name and the text in an argument that sets an alias. The first character belongs to the name
whatever it is. -/
def aliasOf? (a : String) : Option (String × String) :=
  match a.toList with
  | [] => none
  | c :: rest =>
    let name := rest.takeWhile (· ≠ '=')
    match rest.drop name.length with
    | [] => none
    | _ :: text => some (String.ofList (c :: name), String.ofList text)

/-- Sets and shows aliases. -/
def aliasCommand (args : List String) : Eval Nat := do
  if args.isEmpty then
    let all := inListing aliasPlaces (·.1) (← get).aliases
    write (String.join (all.map aliasLine)).toList 0
  else
    args.foldlM
      (fun status a => do
        match aliasOf? a, (← get).aliases.find? fun b => b.1 = a with
        | some b, _ =>
          modify (·.withAlias b)
          return status
        | none, some b => return status ||| (← write (aliasLine b).toList 0)
        | none, none =>
          let _ ← put 2 ("alias: " ++ a ++ " not found\n").toList
          return 1)
      0

/-- Takes aliases away. -/
def unaliasCommand (args : List String) : Eval Nat := do
  let (letters, names) ← optionsOf "a" args
  if !letters.isEmpty then
    modify fun s => { s with aliases := [] }
    return 0
  else
    names.foldlM
      (fun status name => do
        if (← get).aliases.any (·.1 = name) then
          modify fun s => { s with aliases := s.aliases.filter fun b => b.1 ≠ name }
          return status
        else
          let _ ← put 2 ("unalias: " ++ name ++ " not found\n").toList
          return 1)
      0

/-- The session that keeps track of a program. -/
def Session.track (s : Session) (name path : String) : Session :=
  let t : Tracked := { name, path }
  { s with
    tracked :=
      if s.tracked.any (·.name = name) then s.tracked.map fun k => if k.name = name then t else k
      else s.tracked ++ [t] }

/-- The session that does not keep track of a program any more. -/
def Session.untrack (s : Session) (name : String) : Session :=
  { s with tracked := s.tracked.filter fun k => k.name ≠ name }

/-- The session in another directory, where all programs have to be found again. -/
def Session.misplaced (s : Session) : Session :=
  { s with tracked := s.tracked.map fun k => { k with stale := true } }

/-- The directories in which the shell looks for programs. -/
def Session.search (s : Session) : String := (s.value? "PATH").getD ""

/-- Looks for a program that has no slash in its name and keeps track of it. -/
def findTracked (name : String) : Eval (Except IoError String) := do
  let s ← get
  match findProgram s.world.files s.cwd s.search name with
  | .ok path =>
    set (s.track name path)
    return .ok path
  | .error e =>
    set (s.untrack name)
    return .error e

/-- Keeps track of the program that a command calls, if a plain name says so. -/
def trackCalled (c : Command) : Eval Unit := do
  match c with
  | .simple _ _ (w :: _) _ =>
    let name := String.ofList ((Word.plain? w).getD [])
    match isName name.toList, (← get).target true name with
    | true, .program =>
      let _ ← findTracked name
    | _, _ => return
  | _ => return

/-- Looks for programs again, or shows those that the shell keeps track of. -/
def hashCommand (args : List String) : Eval Nat := do
  let (letters, names) ← optionsOf "r" args
  if !letters.isEmpty then
    modify fun s => { s with tracked := [] }
    return 0
  else if names.isEmpty then
    let all := inListing programPlaces (·.name) (← get).tracked
    let line (t : Tracked) : String := t.path ++ (if t.stale then "*" else "") ++ "\n"
    write (String.join (all.map line)).toList 0
  else
    names.foldlM
      (fun status name => do
        match (← get).target true name with
        | .program =>
          if name.toList.contains '/' then return status
          else
            modify (·.untrack name)
            match ← findTracked name with
            | .ok _ => return status
            | .error e =>
              complain (name ++ ": " ++ reasonOr "not found" e)
              return 1
        | _ => return status)
      0

/-- The path of the program that a name leads to, and whether the shell has kept track of it. -/
def pathOf? (name : String) : Eval (Option (String × Bool)) := do
  let s ← get
  if name.toList.contains '/' then
    let isThere := (s.places name).isOk || (runnableAt s.world.files s.cwd name).isOk
    return if isThere then some (name, false) else none
  else
    match s.tracked.find? fun k => k.name = name with
    | some k => return some (k.path, true)
    | none => return (← findTracked name).toOption.map fun path => (path, false)

/-- Says what a name leads to; the status tells whether it leads to anything. -/
def describe (verbose : Bool) (name : String) : Eval Nat := do
  let s ← get
  let say (what : String) : Eval Nat :=
    write ((if verbose then name ++ what else name) ++ "\n").toList 0
  match keywords.contains name, s.aliases.find? fun b => b.1 = name with
  | true, _ => say " is a shell keyword"
  | false, some (_, text) =>
    if verbose then say (" is an alias for " ++ text)
    else write ("alias " ++ aliasLine (name, text)).toList 0
  | false, none =>
    match s.target true name with
    | .function _ => say " is a shell function"
    | .inside special =>
      say (if special then " is a special shell builtin" else " is a shell builtin")
    | .program =>
      match ← pathOf? name with
      | some (path, isTracked) =>
        let how := if isTracked then " a tracked alias for" else ""
        write ((if verbose then name ++ " is" ++ how ++ " " ++ path else path) ++ "\n").toList 0
      | none => if verbose then write (name ++ ": not found\n").toList 127 else return 127

/-- Says what names lead to. -/
def describeAll : List String → Eval Nat
  | [] => return 0
  | name :: rest => do
    let status ← describe true name
    return status ||| (← describeAll rest)

end Suite.Shell
