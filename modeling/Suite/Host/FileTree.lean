import Suite.Path

/-!
# File trees

A `FileTree` holds the directories and files of a machine under their locations, which are the names
on the way from the root. `FileTree.locate` follows a path through the tree, where some names lead
elsewhere; what can go wrong there and in reading and writing a file is an `IoError`.
-/

namespace Suite.Host

/-- Why the machine refuses something. -/
inductive IoError
  | notFound
  /-- A device is not there although its name is. -/
  | noDevice
  | noFormat
  | denied
  | notDirectory
  | isDirectory
  | nameTooLong
  | noSpace
  /-- Programs that are run by each other, too many of them. -/
  | tooManyLevels
  /-- A path with the byte NUL. -/
  | nulInPath
  /-- An argument of a program with the character NUL. -/
  | nulInArgument
  /-- A file that should be text and is not UTF-8. -/
  | notText
  deriving DecidableEq, Repr

/-- The message for what the machine refused. -/
def IoError.message : IoError → String
  | .notFound => "No such file or directory (os error 2)"
  | .noDevice => "No such device or address (os error 6)"
  | .noFormat => "Exec format error (os error 8)"
  | .denied => "Permission denied (os error 13)"
  | .notDirectory => "Not a directory (os error 20)"
  | .isDirectory => "Is a directory (os error 21)"
  | .noSpace => "No space left on device (os error 28)"
  | .nameTooLong => "File name too long (os error 36)"
  | .tooManyLevels => "Too many levels of symbolic links (os error 40)"
  | .nulInPath => "file name contained an unexpected NUL byte"
  | .nulInArgument => "nul byte found in provided data"
  | .notText => "stream did not contain valid UTF-8"

/-- The names on the way from the root. -/
abbrev Location := List OsText

/-- The devices of a machine. None of them has anything to read. -/
inductive Device
  /-- It takes whatever is written to it. -/
  | null
  /-- It has no room for anything. -/
  | full
  /-- It cannot be opened, because nobody sits there. -/
  | terminal
  deriving DecidableEq, Repr

/-- What stands at a location. -/
inductive Node
  | directory
  | file (content : List UInt8) (executable : Bool)
  | device (d : Device)
  /-- A program that the machine runs by itself. -/
  | program (name : String)
  deriving DecidableEq, Repr

/-- The first bytes of a program that the machine runs by itself, which are no text. -/
def machineCode : List UInt8 := [0x7f, 0x45, 0x4c, 0x46, 2, 1, 1, 0, 0x80]

/-- The bytes that there are to read. -/
def Node.content? : Node → Option (List UInt8)
  | .directory => none
  | .file content _ => some content
  | .device _ => some []
  | .program _ => some machineCode

/-- The directories and files of a machine. -/
structure FileTree where
  nodes : List (Location × Node)
  /-- Locations that lead to others, at which something stands. -/
  links : List (Location × Location) := []
  /-- Directories of the machine itself, in which nothing can be made. -/
  sealed : List Location := []
  deriving Repr

/-- The path of a location. -/
def Location.path (l : Location) : Path :=
  ⟨⟨Path.slash :: [Path.slash].intercalate (l.map OsText.bytes)⟩⟩

/-- The name stands for the directory itself. -/
def isPoint (name : OsText) : Bool := name.bytes = [] || name.bytes = [Path.dot]

/-- The name stands for the directory above. -/
def isUp (name : OsText) : Bool := name.bytes = [Path.dot, Path.dot]

/-- The location a path leads to from another one if there are directories all the way. -/
def Location.follow (l : Location) (p : Path) : Location :=
  (p.segments.map OsText.mk).foldl
    (fun l name => if isPoint name then l else if isUp name then l.dropLast else l ++ [name])
    (if p.isAbsolute then [] else l)

namespace FileTree

/-- Nothing but the root. -/
def empty : FileTree := { nodes := [] }

/-- What stands at a location, if anything does. The root is always a directory. -/
def node? (t : FileTree) (l : Location) : Option Node :=
  if l = [] then some .directory else t.nodes.lookup l

/-- The tree with a node at a location, instead of what stands there. -/
def put (t : FileTree) (l : Location) (n : Node) : FileTree :=
  { t with nodes := (l, n) :: t.nodes.filter (fun e => e.1 ≠ l) }

theorem node?_put_self (t : FileTree) {l : Location} (n : Node) (h : l ≠ []) :
    (t.put l n).node? l = some n := by
  simp [node?, put, h]

theorem lookup_filter_ne {l m : Location} (h : m ≠ l) (xs : List (Location × Node)) :
    (xs.filter (fun e => e.1 ≠ l)).lookup m = xs.lookup m := by
  induction xs with
  | nil => rfl
  | cons x rest ih =>
    by_cases hx : x.1 = l
    · have hm : (m == x.1) = false := beq_eq_false_iff_ne.2 fun e => h (e.trans hx)
      have hdrop : (x :: rest).filter (fun e => e.1 ≠ l) = rest.filter (fun e => e.1 ≠ l) := by
        simp [hx]
      rw [hdrop, ih, List.lookup_cons, hm]
    · have hkeep : (x :: rest).filter (fun e => e.1 ≠ l) = x :: rest.filter (fun e => e.1 ≠ l) := by
        simp [hx]
      rw [hkeep, List.lookup_cons, List.lookup_cons, ih]

theorem node?_put_of_ne (t : FileTree) {l m : Location} (n : Node) (h : m ≠ l) :
    (t.put l n).node? m = t.node? m := by
  unfold node? put
  split
  · rfl
  · simp only [List.lookup_cons, beq_eq_false_iff_ne.2 h]
    exact lookup_filter_ne h t.nodes

/-- The longest name of a file, in bytes. -/
def maxName : Nat := 255

/-- The longest path, in bytes. -/
def maxPath : Nat := 4095

/-- The location that one leads to, which is itself if it is no link. -/
def aim (t : FileTree) (l : Location) : Location := (t.links.lookup l).getD l

/-- The name of the current directory among what the machine knows of a program. -/
def currentLink : Location := ["proc", "self", "cwd"]

/-- The tree as it is seen from a directory. -/
def seenFrom (t : FileTree) (cwd : Location) : FileTree :=
  { t with links := (currentLink, cwd) :: t.links }

/-- A file can be made at a location. -/
def isOpen (t : FileTree) (l : Location) : Bool := !t.sealed.any (·.isPrefixOf l)

/-- One step along a path, from a location that must be a directory. -/
def step (t : FileTree) (at_ : Location) (name : OsText) : Except IoError Location :=
  match t.node? at_ with
  | none => .error .notFound
  | some .directory =>
    if maxName < name.bytes.length then .error .nameTooLong
    else if isPoint name then .ok at_
    else if isUp name then .ok at_.dropLast
    else .ok (t.aim (at_ ++ [name]))
  | some _ => .error .notDirectory

/-- The location a path leads to when it is followed from `cwd`. All but the last name on the way
must be directories; nothing need stand at the location itself. -/
def locate (t : FileTree) (cwd : Location) (p : Path) : Except IoError Location :=
  if p.bytes.contains 0 then .error .nulInPath
  else if p.bytes = [] then .error .notFound
  else if maxPath < p.bytes.length then .error .nameTooLong
  else
    (p.segments.map OsText.mk).foldlM (t.seenFrom cwd).step (if p.isAbsolute then [] else cwd)

/-- The last name of a path is a link. -/
def isLink (t : FileTree) (cwd : Location) (p : Path) : Bool :=
  let t := t.seenFrom cwd
  let names := p.segments.map OsText.mk
  match names.getLast?, names.dropLast.foldlM t.step (if p.isAbsolute then [] else cwd) with
  | some name, .ok l => (t.links.lookup (l ++ [name])).isSome
  | _, _ => false

/-- The path leads to a directory. -/
def isDirectory (t : FileTree) (cwd : Location) (p : Path) : Bool :=
  match t.locate cwd p with
  | .ok l => t.node? l = some .directory
  | .error _ => false

/-- The bytes of the file or device that a path leads to. -/
def read (t : FileTree) (cwd : Location) (p : Path) : Except IoError (List UInt8) := do
  match t.node? (← t.locate cwd p) with
  | none => .error .notFound
  | some (.device .terminal) => .error .noDevice
  | some n =>
    match n.content? with
    | some content => .ok content
    | none => .error .isDirectory

/-- The path without the slashes at its end. -/
def withoutSlashes (p : Path) : Path :=
  ⟨⟨(p.bytes.reverse.dropWhile (· = Path.slash)).reverse⟩⟩

/-- The location of a file that is to be written, which need not be there. A slash at the end of a
path asks for a directory, whatever the last name leads to. -/
def locateFile (t : FileTree) (cwd : Location) (p : Path) : Except IoError Location :=
  if p.bytes.getLast? = some Path.slash then
    if (withoutSlashes p).bytes = [] then .error .isDirectory
    else (t.locate cwd (withoutSlashes p)).bind fun _ => .error .isDirectory
  else t.locate cwd p

/-- The tree after bytes are written to the file that a path leads to, which is made if it is not
there. -/
def write (t : FileTree) (cwd : Location) (p : Path) (content : List UInt8) :
    Except IoError FileTree := do
  let l ← t.locateFile cwd p
  match t.node? l with
  | some .directory => .error .isDirectory
  | some (.file _ executable) => .ok (t.put l (.file content executable))
  | some (.program _) => .ok (t.put l (.file content true))
  | some (.device .null) => .ok t
  | some (.device .full) => if content.isEmpty then .ok t else .error .noSpace
  | some (.device .terminal) => .error .noDevice
  | none => if t.isOpen l then .ok (t.put l (.file content false)) else .error .notFound

/-- The locations of a path and of all that leads to it from the root. -/
def ancestors (l : Location) : List Location :=
  (List.range l.length).map fun n => l.take (n + 1)

/-- The tree with directories at a location and on the way to it, where nothing stands yet. -/
def makeDirectories (t : FileTree) (l : Location) : FileTree :=
  (ancestors l).foldl
    (fun t m => if (t.node? m).isSome then t else t.put m .directory) t

/-- The names in a directory, in ascending order. -/
def names (t : FileTree) (l : Location) : List OsText :=
  let children := (t.nodes.map (·.1) ++ t.links.map (·.1)).filterMap fun m =>
    if m.dropLast = l then m.getLast? else none
  children.mergeSort fun a b => decide (a.bytes ≤ b.bytes)

/-- The files of a tree that were not in an earlier one like this. -/
def newFiles (t earlier : FileTree) : List (Location × List UInt8) :=
  t.nodes.filterMap fun (l, n) =>
    match n with
    | .file content _ => if earlier.node? l = some n then none else some (l, content)
    | _ => none

/-- The files of an earlier tree where nothing stands any more. -/
def lostFiles (t earlier : FileTree) : List Location :=
  earlier.nodes.filterMap fun (l, n) =>
    match n with
    | .file _ _ => if (t.node? l).isNone then some l else none
    | _ => none

end FileTree

end Suite.Host
