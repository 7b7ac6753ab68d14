import Suite.Shell.Formats
import Suite.Shell.Listing

/-!
# The programs of every machine

Most of these programs are functions from what they see, a `Scene`, to what they write and their
status, a `Report`: `runTool`.
-/

namespace Suite.Shell

/-- The last name of a path, without an ending that is not all of it. -/
def baseName (ending path : String) : String :=
  let segments := (Text.pieces '/' path.toList).filter (· ≠ [])
  match segments.getLast? with
  | none => if path = "" then "" else "/"
  | some last =>
    let name := String.ofList last
    match Text.withoutEnd? ending name with
    | some short => if short = "" then name else short
    | none => name

/-- The options of `basename`. -/
def baseNameOptions : List OptionKind :=
  [⟨"a", "multiple", .nothing⟩, ⟨"s", "suffix", .value⟩, ⟨"z", "zero", .nothing⟩,
   ⟨"help", "help", .nothing⟩, ⟨"version", "version", .nothing⟩]

/-- The last names of paths, each on a line. -/
def baseNames (s : Scene) : Report :=
  s.withUsage baseNameOptions false 1 fun u =>
    let lineEnd := if u.has "z" then "\x00" else "\n"
    let ending := (u.values "s").getLast?
    match u.operands with
    | [] => s.misused "missing operand" 1
    | path :: rest =>
      if ending.isSome || u.has "a" then
        { out := String.join (u.operands.map fun p => baseName (ending.getD "") p ++ lineEnd) }
      else
        match rest with
        | _ :: extra :: _ => s.misused ("extra operand " ++ Quotation.cited extra) 1
        | _ => { out := baseName (rest.headD "") path ++ lineEnd }

/-- What the program `printf` writes. -/
def printed (s : Scene) : Report :=
  match if s.arguments.head? = some "--" then s.arguments.tail else s.arguments with
  | [] => s.misused "missing operand" 1
  | format :: args =>
    let p := formatted .program format args
    let excess := match p.args, p.halted with
      | a :: _, false =>
        ["warning: ignoring excess arguments, starting with " ++ Quotation.cited a]
      | _, _ => []
    let failure := if p.unwritten then ["write error"] else []
    { out := String.ofList p.out
      err := String.join ((p.complaints ++ excess ++ failure).map s.saying)
      status := if p.unwritten then 1 else p.status }

/-- The path of the directory that a variable gives, if it leads there without any points. -/
def givenPath? (s : Scene) : Option String :=
  (s.settings.get? "PWD").filter fun p =>
    let names := Text.pieces '/' p.toList
    names.head? = some [] && !names.contains ['.'] && !names.contains ['.', '.'] &&
      (s.place p).toOption.map (·.1) = some s.cwd

/-- What the program `pwd` writes. -/
def workingDirectory (s : Scene) : Report :=
  let kinds : List OptionKind :=
    [⟨"L", "logical", .nothing⟩, ⟨"P", "physical", .nothing⟩, ⟨"help", "help", .nothing⟩,
     ⟨"version", "version", .nothing⟩]
  s.withUsage kinds true 1 fun u =>
    let standard := if (s.settings.get? "POSIXLY_CORRECT").isSome then "L" else "P"
    let asked := (u.options.getLast?.map (·.1)).getD standard
    let given := if asked = "L" then givenPath? s else none
    { out := given.getD s.cwd.path.written.octets ++ "\n"
      err := if u.operands.isEmpty then "" else s.saying "ignoring non-option arguments" }

/-- What a program of every machine does. -/
def runTool (program : String) (s : Scene) : Report :=
  match program with
  | "true" => {}
  | "false" => { status := 1 }
  | "echo" => { out := String.ofList (echoProgram s.arguments) }
  | "printf" => printed s
  | "pwd" => workingDirectory s
  | "ls" => listing s
  | "basename" => baseNames s
  | _ => { status := 127 }

end Suite.Shell
