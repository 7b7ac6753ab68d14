import Suite.Shell.Arithmetic
import Suite.Shell.Columns
import Suite.Shell.Pattern
import Suite.Shell.Scene

/-!
# Lists of files

`listing` shows files and what is in directories. Its options are read into a `ListStyle`: which
names are left out, by which key the others are ordered, how they are quoted, marked and coloured,
and whether they stand on lines of their own or side by side.
-/

namespace Suite.Shell

open Host (IoError Location Node)

/-- Which names that begin with a point are shown. -/
inductive DotNames
  | none
  | others
  | all
  deriving DecidableEq, Repr

/-- By which key names are ordered. -/
inductive ListKey
  | name
  /-- Names stay in the order in which they come. -/
  | given
  | size
  | ending
  | version
  | width
  deriving DecidableEq, Repr

/-- How names stand on lines. -/
inductive Layout
  | single
  | down
  | across
  | commas
  /-- With all that is known of each file. -/
  | full
  deriving DecidableEq, Repr

/-- Which files have a mark behind their names. -/
inductive Marking
  | none
  | directories
  | types
  /-- Types of files, and what can be run. -/
  | all
  deriving DecidableEq, Repr

/-- How files are shown. -/
structure ListStyle where
  dotNames : DotNames := .none
  /-- Patterns of names that are left out, unless names with points are asked for. -/
  hidden : List String := []
  /-- Patterns of names that are left out. -/
  ignored : List String := []
  key : ListKey := .name
  reversed : Bool := false
  directoriesFirst : Bool := false
  layout : Layout := .single
  marking : Marking := .none
  quoting : Quotation.Style := .literal
  /-- A question mark stands for what cannot be seen. -/
  masked : Bool := false
  coloured : Bool := false
  /-- How much room files take is shown. -/
  sized : Bool := false
  /-- The context of files is shown, which is unknown. -/
  context : Bool := false
  /-- The length of lines, zero if they have no end. -/
  length : Nat := 80
  tab : Nat := 8
  lineEnd : String := "\n"
  recursive : Bool := false
  /-- Directories are shown like other files. -/
  immediate : Bool := false

/-- The options of `ls`. -/
def listOptions : List OptionKind :=
  [⟨"a", "all", .nothing⟩, ⟨"b", "escape", .nothing⟩, ⟨"d", "directory", .nothing⟩,
   ⟨"D", "dired", .nothing⟩, ⟨"full-time", "full-time", .nothing⟩,
   ⟨"group-directories-first", "group-directories-first", .nothing⟩,
   ⟨"h", "human-readable", .nothing⟩, ⟨"i", "inode", .nothing⟩, ⟨"k", "kibibytes", .nothing⟩,
   ⟨"n", "numeric-uid-gid", .nothing⟩, ⟨"G", "no-group", .nothing⟩,
   ⟨"q", "hide-control-chars", .nothing⟩, ⟨"r", "reverse", .nothing⟩, ⟨"s", "size", .nothing⟩,
   ⟨"w", "width", .value⟩, ⟨"A", "almost-all", .nothing⟩, ⟨"B", "ignore-backups", .nothing⟩,
   ⟨"F", "classify", .choice⟩, ⟨"file-type", "file-type", .nothing⟩, ⟨"si", "si", .nothing⟩,
   ⟨"H", "dereference-command-line", .nothing⟩,
   ⟨"dereference-command-line-symlink-to-dir", "dereference-command-line-symlink-to-dir",
    .nothing⟩,
   ⟨"hide", "hide", .value⟩, ⟨"I", "ignore", .value⟩,
   ⟨"indicator-style", "indicator-style", .value⟩, ⟨"L", "dereference", .nothing⟩,
   ⟨"N", "literal", .nothing⟩, ⟨"Q", "quote-name", .nothing⟩,
   ⟨"quoting-style", "quoting-style", .value⟩, ⟨"R", "recursive", .nothing⟩,
   ⟨"format", "format", .value⟩, ⟨"show-control-chars", "show-control-chars", .nothing⟩,
   ⟨"sort", "sort", .value⟩, ⟨"T", "tabsize", .value⟩, ⟨"time", "time", .value⟩,
   ⟨"time-style", "time-style", .value⟩, ⟨"zero", "zero", .nothing⟩, ⟨"color", "color", .choice⟩,
   ⟨"hyperlink", "hyperlink", .choice⟩, ⟨"block-size", "block-size", .value⟩,
   ⟨"Z", "context", .nothing⟩, ⟨"author", "author", .nothing⟩, ⟨"help", "help", .nothing⟩,
   ⟨"version", "version", .nothing⟩] ++
    "1cfglmoptuvxCSUX".toList.map fun c => ⟨c.toString, "", .nothing⟩

/-- The words for orders. -/
def keyWords : List (List String × ListKey) :=
  [(["none"], .given), (["time"], .name), (["size"], .size), (["extension"], .ending),
   (["version"], .version), (["width"], .width)]

/-- The words for layouts. -/
def layoutWords : List (List String × Layout) :=
  [(["verbose", "long"], .full), (["commas"], .commas), (["horizontal", "across"], .across),
   (["vertical"], .down), (["single-column"], .single)]

/-- The words for marks. -/
def markingWords : List (List String × Marking) :=
  [(["none"], .none), (["slash"], .directories), (["file-type"], .types), (["classify"], .all)]

/-- The words for quotes; the number keeps apart what is written alike. -/
def quotingWords : List (List String × Quotation.Style × Nat) :=
  [(["literal"], .literal, 0), (["shell"], .shell false false, 0),
   (["shell-always"], .shell true false, 0), (["shell-escape"], .shell false true, 0),
   (["shell-escape-always"], .shell true true, 0), (["c"], .double false, 0),
   (["c-maybe"], .double true, 0), (["escape"], .escape, 0), (["locale"], .curly, 0),
   (["clocale"], .curly, 1)]

/-- The words that say when something is done. -/
inductive When
  | always
  | never
  /-- For a terminal, which there is not. -/
  | terminal
  deriving DecidableEq, Repr

/-- The words that say when something is done. -/
def whenWords : List (List String × When) :=
  [(["always", "yes", "force"], .always), (["never", "no", "none"], .never),
   (["auto", "tty", "if-tty"], .terminal)]

/-- The words for times, of which none is known. -/
def timeWords : List (List String × Nat) :=
  [(["atime", "access", "use"], 0), (["ctime", "status"], 1), (["mtime", "modification"], 2),
   (["birth", "creation"], 3)]

/-- Why a list cannot be shown as it is asked for. -/
inductive ListFault
  /-- A word is none of those that an option takes. -/
  | word (message : String)
  | size (message : String)

/-- The number that the value of an option is; `what` is how messages call it. -/
def sizeValue (what value : String) : Except ListFault Nat :=
  match Arithmetic.number? value.toList with
  | some (n, []) => .ok n
  | _ => .error (.size ("invalid " ++ what ++ ": " ++ Quotation.cited value))

/-- The style after one more option. -/
def ListStyle.withOption (s : ListStyle) (option value : String) : Except ListFault ListStyle := do
  let word {α : Type} [DecidableEq α] (words : List (List String × α)) : Except ListFault α :=
    (Usage.wordOf ("--" ++ option) words value).mapError .word
  let whenAsked : Except ListFault When := do
    if value = "" then return .always
    let name := if option = "F" then "--classify" else "--" ++ option
    (Usage.wordOf name whenWords value).mapError .word
  match option with
  | "a" => return { s with dotNames := .all }
  | "A" => return { s with dotNames := .others }
  | "B" => return { s with ignored := s.ignored ++ ["*~", ".*~"] }
  | "I" => return { s with ignored := s.ignored ++ [value] }
  | "hide" => return { s with hidden := s.hidden ++ [value] }
  | "d" => return { s with immediate := true }
  | "R" => return { s with recursive := true }
  | "r" => return { s with reversed := true }
  | "group-directories-first" => return { s with directoriesFirst := true }
  | "f" =>
    return { s with
      dotNames := .all, key := .given, coloured := false, sized := false
      layout := if s.layout = .full then .single else s.layout }
  | "U" => return { s with key := .given }
  | "S" => return { s with key := .size }
  | "X" => return { s with key := .ending }
  | "v" => return { s with key := .version }
  | "t" => return { s with key := .name }
  | "sort" => return { s with key := ← word keyWords }
  | "1" => return { s with layout := if s.layout = .full then .full else .single }
  | "C" => return { s with layout := .down }
  | "x" => return { s with layout := .across }
  | "m" => return { s with layout := .commas }
  | "l" | "g" | "n" | "o" | "full-time" => return { s with layout := .full }
  | "format" => return { s with layout := ← word layoutWords }
  | "F" =>
    return if (← whenAsked) = .always then { s with marking := .all } else s
  | "p" => return { s with marking := .directories }
  | "file-type" => return { s with marking := .types }
  | "indicator-style" => return { s with marking := ← word markingWords }
  | "N" => return { s with quoting := .literal }
  | "Q" => return { s with quoting := .double false }
  | "b" => return { s with quoting := .escape }
  | "quoting-style" => return { s with quoting := (← word quotingWords).1 }
  | "q" => return { s with masked := true }
  | "show-control-chars" => return { s with masked := false }
  | "s" => return { s with sized := true }
  | "Z" => return { s with context := true }
  | "w" => return { s with length := ← sizeValue "line width" value }
  | "T" => return { s with tab := ← sizeValue "tab size" value }
  | "zero" =>
    return { s with
      lineEnd := "\x00", masked := false, quoting := .literal, coloured := false
      layout := if s.layout = .full then .full else .single }
  | "color" => return { s with coloured := (← whenAsked) = .always }
  | "hyperlink" =>
    let _ ← whenAsked
    return s
  | "time" =>
    let _ ← word timeWords
    return s
  | _ => return s

/-- The pattern stands for a name. A point in front has to be there in the pattern. -/
def isNamedBy (pattern name : String) : Bool :=
  let glyphs := (Text.ofOctets pattern).toList.map fun c => (⟨c, false⟩ : Glyph)
  let parts := atoms (inverted glyphs)
  let s := (Text.ofOctets name).toList
  let dotted := s.head? ≠ some '.' || parts.head? = some (.char '.')
  dotted && matchesText parts s
where
  /-- A set is inverted by either of two signs. -/
  inverted : List Glyph → List Glyph
    | ⟨'[', q⟩ :: ⟨'^', _⟩ :: rest => ⟨'[', q⟩ :: ⟨'!', false⟩ :: inverted rest
    | g :: rest => g :: inverted rest
    | [] => []

/-- The style that variables ask for. -/
def ListStyle.ofVariables (e : Environment) : ListStyle :=
  let size (name : String) (standard : Nat) : Nat :=
    match (e.get? name).map fun value => sizeValue "" value with
    | some (.ok n) => n
    | _ => standard
  let quoting := (e.get? "QUOTING_STYLE").bind fun value =>
    (Usage.wordOf "" quotingWords value).toOption.map (·.1)
  { length := size "COLUMNS" 80, tab := size "TABSIZE" 8, quoting := quoting.getD .literal }

/-- Terminals with colours, as patterns. -/
def colourTerminals : List String :=
  ["Eterm", "ansi", "*color*", "con[0-9]*x[0-9]*", "cons25", "console", "cygwin", "*direct*",
   "dtterm", "gnome", "hurd", "jfbterm", "konsole", "kterm", "linux", "linux-c", "mlterm", "putty",
   "rxvt*", "screen*", "st", "terminator", "tmux*", "vt100", "vt220", "xterm*"]

/-- There are colours: a terminal has some, or variables say so. -/
def knowsColours (e : Environment) : Bool :=
  let isSet (name : String) : Bool := (e.get? name).getD "" ≠ ""
  isSet "LS_COLORS" || isSet "COLORTERM" ||
    colourTerminals.any fun p => isNamedBy p ((e.get? "TERM").getD "")

/-- How files are shown if these variables are set and these options given. -/
def ListStyle.ofUsage (e : Environment) (u : Usage) : Except ListFault ListStyle := do
  let s ← u.options.foldlM (fun (s : ListStyle) o => s.withOption o.1 o.2) (ListStyle.ofVariables e)
  return { s with coloured := s.coloured && knowsColours e }

/-- A file that is shown. -/
structure Entry where
  name : String
  node : Node

namespace Entry

/-- The number of bytes of a directory. -/
def directorySize : Nat := 4096

/-- The number of bytes of a file. -/
def size (e : Entry) : Nat :=
  match e.node with
  | .directory => directorySize
  | node => (node.content?.map List.length).getD 0

/-- The room a file takes, in kibibytes: whole blocks. -/
def room (e : Entry) : Nat := (e.size + 4095) / 4096 * 4

/-- The file is a directory. -/
def isDirectory (e : Entry) : Bool := e.node = .directory

end Entry

/-- The octets of a name. -/
def codes (s : List Char) : List Int := s.map fun c => (c.toNat : Int)

/-- The place of a character in versions: letters come before other characters, and a tilde before
the end. -/
def versionOrder (c : Char) : Int :=
  if c.isAlpha then c.toNat else if c = '~' then -2 else c.toNat + 256

/-- The key by which parts of names are ordered as versions: numbers in them count as a whole. Other
characters come in between, up to a zero in front of a number and minus one at the end; `steps`
bounds the recursion. -/
def versionKey : Nat → List Char → List Int
  | 0, _ => []
  | steps + 1, s =>
    let others := s.takeWhile fun c => !c.isDigit
    let rest := s.drop others.length
    let digits := rest.takeWhile Char.isDigit
    others.map versionOrder ++
      if rest.isEmpty then [-1]
      else 0 :: (Arithmetic.ofDigits 10 digits : Int) :: versionKey steps (rest.drop digits.length)

/-- The characters of `s` are an ending of a file: points, each before a letter or a tilde and
letters, digits and tildes after that. -/
def isEnding : Bool → List Char → Bool
  | _, [] => true
  | _, '.' :: c :: rest => (c.isAlpha || c = '~') && isEnding true rest
  | inside, c :: rest => inside && (c.isAlphanum || c = '~') && isEnding true rest

/-- The name without its longest ending; its first character is no part of that. -/
def withoutEnding (s : List Char) : List Char :=
  match (List.range s.length).find? fun k => 0 < k && isEnding false (s.drop k) with
  | some k => s.take k
  | none => s

/-- The key by which names are ordered as versions. -/
def versionName (name : String) : List Int :=
  let s := name.toList
  let rank : Int := match s with
    | [] => 0
    | ['.'] => 1
    | ['.', '.'] => 2
    | '.' :: _ => 3
    | _ => 4
  let key (s : List Char) : List Int := versionKey (s.length + 1) s
  rank :: key (withoutEnding s) ++ key s

/-- The key by which a file is ordered. -/
def ListKey.of (k : ListKey) (e : Entry) : List Int :=
  let s := e.name.toList
  match k with
  | .name | .given => codes s
  | .size => -(e.size : Int) :: codes s
  | .ending =>
    let ending := s.reverse.takeWhile (· ≠ '.')
    (if ending.length = s.length then [] else codes ('.' :: ending.reverse)) ++ -1 :: codes s
  | .version => versionName e.name ++ codes s
  | .width => (Text.width e.name : Int) :: codes s

/-- A key comes before another one, or is the same: the first numbers that differ decide. -/
def isKeyBefore : List Int → List Int → Bool
  | [], _ => true
  | _ :: _, [] => false
  | a :: as, b :: bs => decide (a < b) || (decide (a = b) && isKeyBefore as bs)

/-- Files in the order of a style. -/
def ListStyle.ordered (s : ListStyle) (es : List Entry) : List Entry :=
  let sorted := if s.key = .given then es
    else (es.map fun e => (s.key.of e, e)).mergeSort (fun a b => isKeyBefore a.1 b.1)
      |>.map (·.2)
  let sorted := if s.reversed then sorted.reverse else sorted
  if s.directoriesFirst then
    let (first, others) := sorted.partition Entry.isDirectory
    first ++ others
  else sorted

/-- The name is shown. -/
def ListStyle.shows (s : ListStyle) (name : String) : Bool :=
  let isDotted := name.toList.head? = some '.'
  let dotted := match s.dotNames with
    | .none => !isDotted
    | .others => name ≠ "." && name ≠ ".."
    | .all => true
  dotted && !(s.dotNames = .none && s.hidden.any (isNamedBy · name)) &&
    !s.ignored.any (isNamedBy · name)

/-- The mark behind the name of a file. -/
def Marking.mark (m : Marking) (node : Node) : String :=
  match node with
  | .directory => if m = .none then "" else "/"
  | .file _ true | .program _ => if m = .all then "*" else ""
  | _ => ""

/-- The colour of a file. -/
def colourOf (node : Node) : Option String :=
  match node with
  | .directory => some "\x1b[01;34m"
  | .file _ true | .program _ => some "\x1b[01;32m"
  | .device _ => some "\x1b[40;33;01m"
  | _ => none

/-- The end of colours. -/
def plainColour : String := "\x1b[0m"

/-- The name with a question mark for each glyph that cannot be seen. -/
def maskedName (name : String) : String :=
  String.join ((Quotation.glyphs name).map fun g =>
    if g.visible then String.ofList g.octets else "?")

/-- The name of a file as a style quotes it. -/
def ListStyle.quote (s : ListStyle) (name : String) : String :=
  let marks := match s.marking with
    | .none | .directories => ""
    | .types => "=>@|"
    | .all => "*=>@|"
  let others := marks.toList ++ (if s.quoting = .escape then [' '] else [])
  let text := s.quoting.write others name
  let isBare := match s.quoting with
    | .literal | .shell _ false => true
    | _ => false
  if s.masked && isBare then maskedName text else text

/-- Names without quotes have a blank in front, so that they stand below those with quotes. -/
def ListStyle.aligns (s : ListStyle) (es : List Entry) : Bool :=
  let sometimes := match s.quoting with
    | .shell false _ | .double true => true
    | _ => false
  let sided := s.layout = .full || ((s.layout = .down || s.layout = .across) && s.length ≠ 0)
  sometimes && sided && es.any fun e => s.quote e.name ≠ e.name

/-- A file as it stands among others: `width` is that of the numbers in front of names. -/
def ListStyle.cell (s : ListStyle) (aligned : Bool) (width : Nat) (e : Entry) : Cell :=
  let number := toString e.room
  let blanks := List.replicate (if s.layout = .commas then 0 else width - number.length) ' '
  let front := (if s.sized then String.ofList blanks ++ number ++ " " else "") ++
    (if s.context then "? " else "")
  let quoted := s.quote e.name
  let front := front ++ if aligned && quoted = e.name then " " else ""
  let mark := s.marking.mark e.node
  let shown := match if s.coloured then colourOf e.node else none with
    | some colour => colour ++ quoted ++ plainColour
    | none => quoted
  ⟨front ++ shown ++ mark, front.length + Text.width quoted + mark.length⟩

/-- Files as a style shows them. -/
def ListStyle.render (s : ListStyle) (es : List Entry) : String :=
  let width := (es.map fun e => (toString e.room).length).foldl max 0
  let cells := es.map (s.cell (s.aligns es) width)
  match s.layout, cells with
  | _, [] => ""
  | .single, _ | .full, _ => String.join (cells.map fun c => c.text ++ s.lineEnd)
  | .commas, _ => Cell.separated ',' s.lineEnd s.length 0 cells
  | layout, _ =>
    if s.length = 0 then Cell.separated ' ' s.lineEnd 0 0 cells
    else
      Cell.inColumns (layout = .down) (if s.coloured then 0 else s.tab) s.length s.lineEnd cells

/-- The line with the room that all files of a directory take. -/
def ListStyle.total (s : ListStyle) (es : List Entry) : String :=
  if s.layout = .full || s.sized then
    "total " ++ toString ((es.map Entry.room).foldl (· + ·) 0) ++ s.lineEnd
  else ""

/-- The files in a directory, those that names with points lead to with them. -/
def Scene.entries (scene : Scene) (l : Location) : List Entry :=
  ⟨".", .directory⟩ :: ⟨"..", .directory⟩ ::
    ((scene.world.files.names l).filterMap fun n =>
      (scene.world.files.node? (l ++ [n])).map fun node => ⟨n.octets, node⟩)

/-- The lists of a directory and, if asked for, of those in it, each with the path of its directory;
`levels` bounds how deep they lie. -/
def ListStyle.directory (s : ListStyle) (scene : Scene) :
    Nat → String → Location → List (String × String)
  | 0, _, _ => []
  | levels + 1, path, l =>
    let shown := s.ordered ((scene.entries l).filter fun e => s.shows e.name)
    let inner := shown.filter fun e =>
      s.recursive && e.isDirectory && e.name ≠ "." && e.name ≠ ".."
    let slash := if path.toList.getLast? = some '/' then "" else "/"
    (path, s.total shown ++ s.render shown) :: inner.flatMap fun e =>
      directory s scene levels (path ++ slash ++ e.name) (l ++ [.ofOctets e.name])

/-- The output, of which the first colour is set from a plain one. -/
def fromPlain : List Char → List Char
  | [] => []
  | c :: rest =>
    if "\x1b[".toList.isPrefixOf (c :: rest) then plainColour.toList ++ c :: rest
    else c :: fromPlain rest

/-- Files and what is in directories, as a style shows them. -/
def ListStyle.report (s : ListStyle) (scene : Scene) (operands : List String) : Report :=
  let paths := if operands.isEmpty then ["."] else operands
  let found := paths.filterMap fun p => (scene.place p).toOption.map fun (l, n) => (p, l, n)
  let missing := paths.filterMap fun p =>
    match scene.place p with
    | .error e =>
      some (scene.saying ("cannot access " ++ Quotation.citedFile p ++ ": " ++ reason e))
    | .ok _ => none
  let entries := s.ordered (found.map fun (p, _, n) => ⟨p, n⟩)
  let (directories, files) := entries.partition fun e => e.isDirectory && !s.immediate
  let lists := directories.flatMap fun e =>
    match found.find? fun f => f.1 = e.name with
    | some (_, l, _) => s.directory scene (scene.world.files.nodes.length + 1) e.name l
    | none => []
  let headed := 1 < paths.length || s.recursive
  let shown := lists.map fun (path, text) =>
    (if headed then s.quoting.write [':'] path ++ ":\n" else "") ++ text
  let parts := (if files.isEmpty then [] else [s.render files]) ++ shown
  let out := "\n".intercalate parts
  { out := if s.coloured then String.ofList (fromPlain out.toList) else out
    err := String.join missing
    status := if missing.isEmpty then 0 else 2 }

/-- Shows files and what is in directories. -/
def listing (scene : Scene) : Report :=
  scene.withUsage listOptions true 2 fun u =>
    match ListStyle.ofUsage scene.settings u with
    | .error (.word message) => scene.misused message 1
    | .error (.size message) => { err := scene.saying message, status := 2 }
    | .ok style => style.report scene u.operands

end Suite.Shell
