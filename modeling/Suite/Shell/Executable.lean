import Suite.Host.Base
import Suite.Shell.Tools

/-!
# What programs are

A file that may be run is a script, whose first line names the program that runs it, or one of the
programs that every machine has. `Process.load` goes from a path to the latter. Names without a
slash are looked for in the directories of the search path.
-/

namespace Suite.Shell

open Host (FileTree IoError Launch Location Machine Node)

/-- The directories in which programs are looked for, if the environment names none. -/
def defaultSearch : String := "/usr/local/sbin:/usr/local/bin:/usr/sbin:/usr/bin:/sbin:/bin"

/-- Whether a location holds something that can be run. -/
def runnable (files : FileTree) (l : Location) : Except IoError Unit :=
  match files.node? l with
  | none => .error .notFound
  | some (.program _) => .ok ()
  | some (.file _ executable) => if executable then .ok () else .error .denied
  | some .directory | some (.device _) => .error .denied

/-- Whether a path leads to something that can be run. -/
def runnableAt (files : FileTree) (cwd : Location) (path : String) : Except IoError Unit := do
  runnable files (← files.locate cwd ⟨.ofOctets path⟩)

/-- The places of a name in the directories of a search path, in their order. -/
def candidates (search name : String) : List String :=
  (Text.pieces ':' search.toList).map fun d =>
    if d.isEmpty then name else String.ofList d ++ "/" ++ name

/-- The path of a program: what has a slash is one, and a name leads to the first thing that can be
run in the directories that are searched. What may not be run is passed over, and is the error if
nothing else is found. -/
def findProgram (files : FileTree) (cwd : Location) (search name : String) :
    Except IoError String :=
  if name.toList.contains '/' then .ok name
  else
    let places := candidates search name
    match places.find? fun p => (runnableAt files cwd p).isOk with
    | some p => .ok p
    | none =>
      let errors := places.filterMap fun p =>
        match runnableAt files cwd p with
        | .error e => some e
        | .ok () => none
      .error (([.denied, .nameTooLong].find? errors.contains).getD .notFound)

/-- How many bytes of a script are looked at for its first line. -/
def firstLineLimit : Nat := 256

/-- A character between the parts of the first line of a script. -/
def isLineBlank (c : Char) : Bool := c = ' ' || c = '\t'

/-- The program and the argument in the text of a first line: the character NUL ends both. -/
def programOf (line : List Char) : String × Option String :=
  let program := line.takeWhile fun c => !isLineBlank c && c ≠ '\x00'
  let argument := ((line.drop program.length).dropWhile isLineBlank).takeWhile (· ≠ '\x00')
  (String.ofList program, if argument.isEmpty then none else some (String.ofList argument))

/-- The program and the argument in the first line of a script. A line that goes on beyond what is
looked at names a program only if something ends its name before. -/
def interpreter? (content : List UInt8) : Except IoError (String × Option String) :=
  match Text.ofBytes (content.take firstLineLimit) with
  | '#' :: '!' :: rest =>
    let line := rest.takeWhile (· ≠ '\n')
    let text := line.dropWhile isLineBlank
    if line.length < rest.length then
      let text := (text.reverse.dropWhile isLineBlank).reverse
      if text.isEmpty then .error .noFormat else .ok (programOf text)
    else if content.length < firstLineLimit then
      if text.isEmpty then .error .denied
      else .ok (programOf (text.reverse.dropWhile isLineBlank).reverse)
    else if text.any fun c => isLineBlank c || c = '\x00' then
      .ok (programOf (text.dropLast.reverse.dropWhile isLineBlank).reverse)
    else .error .noFormat
  | _ => .error .noFormat

/-- A program of every machine, the name it is called by, and its arguments. -/
structure Process where
  program : String
  name : String
  arguments : List String
  deriving DecidableEq, Repr

/-- How many scripts may be run by each other. -/
def scriptLimit : Nat := 5

/-- The process that a path with arguments starts. Scripts are run by the programs in their first
lines; `levels` bounds how many may be run by each other. -/
def Process.load (files : FileTree) (cwd : Location) : Nat → String → String → List String →
    Except IoError Process
  | levels, path, name, args => do
    let l ← files.locate cwd ⟨.ofOctets path⟩
    runnable files l
    match files.node? l with
    | some (.program program) => return { program, name, arguments := args }
    | some (.file content _) =>
      let (program, argument) ← interpreter? content
      match levels with
      | 0 =>
        -- That nothing runs the script comes before how deep it lies.
        runnableAt files cwd program
        .error .tooManyLevels
      | levels + 1 => load files cwd levels program program (argument.toList ++ path :: args)
    | _ => .error .denied

/-- The directory in which a launch starts its program. -/
def startDirectory (m : Machine) : Option Path → Except IoError Location
  | none => .ok m.cwd
  | some d => do
    let l ← m.files.locate m.cwd d
    match m.files.node? l with
    | some .directory => .ok l
    | some _ => .error .notDirectory
    | none => .error .notFound

/-- The process that a launch starts. -/
def Process.ofLaunch (m : Machine) (cwd : Location) (launch : Launch) : Except IoError Process := do
  let name := Text.octets launch.program
  let search := ((m.setting? "PATH").map OsText.octets).getD defaultSearch
  let path ← if name = "" then .error .notFound else findProgram m.files cwd search name
  Process.load m.files cwd scriptLimit path name (launch.arguments.map Text.octets)

end Suite.Shell
