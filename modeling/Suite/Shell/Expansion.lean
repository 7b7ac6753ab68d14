import Suite.Shell.Arithmetic
import Suite.Shell.Fields
import Suite.Shell.Running

/-!
# Expansion

The parameters, commands and sums in a word are replaced by their values. A word becomes a list of
marks first; these are divided into fields, and a field that is a pattern stands for the files that
have it (`expandFields`). Where nothing is divided the marks are a text (`expandText`) or a pattern
(`expandPattern`).
-/

namespace Suite.Shell

open Host (Location Node)

/-- The text in front of the piece after it is where a home is looked for. -/
def endsName (rest : Word) (s : List Char) : Bool :=
  match s with
  | [] => rest.isEmpty
  | c :: _ => c = '/'

/-- The word with the home instead of a tilde in front. -/
def Word.withHome (home : Option String) (w : Word) : Word :=
  match home, w with
  | some home, .text false ('~' :: s) :: rest =>
    if endsName rest s && home ≠ "" then
      .text true home.toList :: (if s.isEmpty then rest else .text false s :: rest)
    else w
  | _, _ => w

/-- The marks of a word with the home instead of a tilde in front. -/
def Word.homeInFront (w : Word) (home : Option String) (ms : List Mark) : List Mark :=
  match home, w, ms with
  | some home, .text false ('~' :: s) :: rest, _ :: more =>
    if endsName rest s && home ≠ "" then Mark.ofText true false home.toList ++ more else ms
  | _, _, _ => ms

/-- The text with the home instead of tildes in front and after colons; `rest` follows it. -/
def homesIn (home : String) (rest : Word) : List (List Char) → Word
  | [] => rest
  | [s] => Word.withHome (some home) (if s.isEmpty then rest else .text false s :: rest)
  | s :: more =>
    let front := Word.withHome (some home) [.text false s]
    front ++ .text false [':'] :: homesIn home rest more

/-- The word of an assignment with the home instead of tildes in front and after colons. -/
def Word.withHomes (home : Option String) (w : Word) : Word :=
  match home, w with
  | some home, .text false s :: rest =>
    if s.contains '~' then homesIn home rest (Text.pieces ':' s) else w
  | _, _ => w

/-- Texts with something between them. -/
def interspersed (between : List Mark) : List (List Mark) → List Mark
  | [] => []
  | [ms] => ms
  | ms :: rest => ms ++ between ++ interspersed between rest

/-- All parameters of a script, as they stand in a word. -/
structure Crowd where
  fields : Bool
  quoted : Bool
  /-- Each is a field of its own even in quotes. -/
  each : Bool

namespace Crowd

/-- The parameters are told apart. -/
def divides (c : Crowd) : Bool := c.fields && (c.each || !c.quoted)

/-- The parameters as one text, in which NUL stands between them if they are told apart. -/
def text (c : Crowd) (s : Session) : List Char :=
  let between := if c.divides then ['\x00'] else s.separators.take 1
  between.intercalate (s.parameters.map String.toList)

/-- The marks of the parameters, or of what is left of their text. In quotes they are one text or
fields of their own; elsewhere each may be divided further. -/
def marks (c : Crowd) (s : Session) (text : List Char) : List Mark :=
  let parts := Text.pieces '\x00' text
  if !c.divides then Mark.ofText c.quoted false text
  else if !c.quoted then
    .seam false :: interspersed [.cut false] (parts.map (Mark.ofText false true))
  else if s.parameters.isEmpty then []
  else .seam true :: interspersed [.cut true] (parts.map (Mark.ofText true false))

end Crowd

/-- The name stands for all parameters of a script. -/
def isAll (name : String) : Bool := name = "@" || name = "*"

/-- The marks of a value. -/
def valueMarks (fields quoted : Bool) (value : List Char) : List Mark :=
  let divides := fields && !quoted
  if divides then .seam false :: Mark.ofText quoted true value else Mark.ofText quoted false value

/-- The text of a parameter, if there is one. -/
def parameterText? (fields quoted : Bool) (name : String) : Eval (Option String) := do
  let s ← get
  let crowd : Crowd := ⟨fields, quoted, name = "@"⟩
  return if isAll name then some (String.ofList (crowd.text s)) else s.parameter? name

/-- The marks of the text of a parameter. -/
def textMarks (fields quoted : Bool) (name : String) (text : List Char) : Eval (List Mark) := do
  let s ← get
  let crowd : Crowd := ⟨fields, quoted, name = "@"⟩
  return if isAll name then crowd.marks s text else valueMarks fields quoted text

/-- A parameter that is used has to be set, if an option says so. -/
def requireSet (name : String) (value : Option String) : Eval Unit := do
  if value.isNone && (← get).has 'u' then fail (name ++ ": parameter not set")

/-- The marks of a parameter. -/
def usedMarks (fields quoted : Bool) (name : String) : Eval (List Mark) := do
  let value ← parameterText? fields quoted name
  requireSet name value
  textMarks fields quoted name (value.getD "").toList

/-- The value of the sum in a text. -/
def sumText (expression : List Char) : Eval (List Char) := do
  let s ← get
  match Arithmetic.evaluate (fun name => (s.value? name).getD "") expression with
  | .error p => fail (p.message (String.ofList expression))
  | .ok (n, changes) =>
    for (name, value) in changes do
      assign name (toString value)
    return (toString n).toList

mutual

/-- The marks of a piece of a word. With `fields` what is not quoted may be divided, in an `inner`
word also the text itself. -/
def pieceMarks (again : Runner) (fields inner : Bool) : Piece → Eval (List Mark)
  | .text quoted s => return Mark.ofText quoted (fields && inner && !quoted) s
  | .mark => return [.edge]
  | .parameter quoted name => usedMarks fields quoted name
  | .length quoted name => do
    let value ← parameterText? fields quoted name
    requireSet name value
    return valueMarks fields quoted (toString (value.getD "").length).toList
  | .fallback quoted name kind colon word => do
    let value ← parameterText? fields quoted name
    let missing := value.isNone || (colon && value = some "")
    -- The word is expanded only where it is used, since that may set variables.
    match kind, missing with
    | .use, true | .instead, false => do
      let home := (← get).value? "HOME"
      return Word.homeInFront word home (← wordMarks again fields true word)
    | .instead, true => return []
    | .assign, true =>
      let home := (← get).value? "HOME"
      let ms ← wordMarks again false true word
      assign name (String.ofList (characters (Word.homeInFront word home ms)))
      usedMarks fields quoted name
    | .demand, true =>
      let message := characters (← wordMarks again false true word)
      let standard := if colon then "parameter not set or null" else "parameter not set"
      fail (name ++ ": " ++ if word.isEmpty then standard else String.ofList message)
    | _, false => usedMarks fields quoted name
  | .trim quoted name atEnd longest pattern => do
    let value ← parameterText? fields quoted name
    requireSet name value
    let pattern := atoms (glyphs (← wordMarks again false true pattern))
    let text := (value.getD "").toList
    textMarks fields quoted name
      (if atEnd then trimEnd longest pattern text else trimFront longest pattern text)
  | .script quoted body => do return valueMarks fields quoted (← capture again body)
  | .sum quoted expression => do
    let text := characters (← wordMarks again false true expression)
    return valueMarks fields quoted (← sumText text)
  | .malformed => fail "Bad substitution"

/-- The marks of the pieces of a word. The quotation marks around all parameters, if there is
nothing else in them, keep no empty word. -/
def wordMarks (again : Runner) (fields inner : Bool) : List Piece → Eval (List Mark)
  | [] => return []
  | .mark :: .parameter true "@" :: .mark :: rest => do
    let front ← usedMarks fields true "@"
    return front ++ (← wordMarks again fields inner rest)
  | piece :: rest => do
    let front ← pieceMarks again fields inner piece
    return front ++ (← wordMarks again fields inner rest)

end

/-- The parts of a path between its slashes. -/
def pathParts : List Glyph → List (List Glyph)
  | [] => [[]]
  | g :: rest =>
    if g.char = '/' then [] :: pathParts rest
    else
      match pathParts rest with
      | part :: parts => (g :: part) :: parts
      | [] => [[g]]

/-- The names in a directory that have a pattern. A dot in front has to stand in the pattern. -/
def Session.namesLike (s : Session) (directory : String) (part : List Glyph) : List String :=
  let dotted := (part.head?.map (·.char)) = some '.'
  let pattern := atoms part
  match s.places (if directory = "" then "." else directory) with
  | .ok (l, .directory) =>
    let names := "." :: ".." :: (s.world.files.names l).map OsText.octets
    names.filter fun name =>
      (dotted || name.toList.head? ≠ some '.') && matchesText pattern name.toList
  | _ => []

/-- The paths that have a pattern, which is given by its parts; `front` stands before them. -/
def Session.pathsLike (s : Session) (front : String) : List (List Glyph) → List String
  | [] => if (s.places front).toOption.isSome then [front] else []
  | part :: rest =>
    let slash := if rest.isEmpty then "" else "/"
    if isWild (atoms part) then
      (s.namesLike front part).flatMap fun name => s.pathsLike (front ++ name ++ slash) rest
    else s.pathsLike (front ++ String.ofList (part.map (·.char)) ++ slash) rest

/-- The files that a field stands for, or its text. -/
def Session.globbed (s : Session) (field : List Mark) : List String :=
  let text := String.ofList (characters field)
  let parts := pathParts (glyphs field)
  if s.has 'f' || !parts.any fun part => isWild (atoms part) then [text]
  else
    let found := (s.pathsLike "" parts).mergeSort fun a b => decide (a ≤ b)
    if found.isEmpty then [text] else found

/-- The fields of a word. -/
def expandFields (again : Runner) (w : Word) : Eval (List String) := do
  let home := (← get).value? "HOME"
  let marks ← wordMarks again true false (w.withHome home)
  let s ← get
  return (fieldsOf s.separators marks).flatMap s.globbed

/-- The text of a word. -/
def expandText (again : Runner) (w : Word) : Eval (List Char) := do
  let home := (← get).value? "HOME"
  return characters (← wordMarks again false false (w.withHome home))

/-- The text of the word of an assignment. -/
def expandValue (again : Runner) (w : Word) : Eval String := do
  let home := (← get).value? "HOME"
  return String.ofList (characters (← wordMarks again false false (w.withHomes home)))

/-- The pattern that a word is. -/
def expandPattern (again : Runner) (w : Word) : Eval (List Atom) := do
  let home := (← get).value? "HOME"
  return atoms (glyphs (← wordMarks again false false (w.withHome home)))

/-- The value of a variable as a text in double quotes would be read. -/
def settingText (again : Runner) (name : String) : Eval (List Char) := do
  let s ← get
  let sign := ((s.value? name).getD "").toList
  let r : Reader := { rest := sign, documents := s.documents }
  match (allPieces (pure default) .document).run r with
  | .ok (w, _) => characters <$> wordMarks again false true w
  | .error _ => return sign

end Suite.Shell
