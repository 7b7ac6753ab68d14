/-!
# Commands

What a script consists of. A `Command` is put together from simple ones by sequence, choice and
repetition; its words are lists of pieces, some of which hold commands again. Texts are texts of
octets.
-/

namespace Suite.Shell

/-- What a parameter is replaced by, or must be, as braces say it. -/
inductive Fallback
  /-- A word takes its place where it is missing. -/
  | use
  /-- A word becomes its value where it is missing. -/
  | assign
  /-- It must not be missing; the word says why. -/
  | demand
  /-- A word takes its place where it is not missing. -/
  | instead
  deriving DecidableEq, Repr

/-- What becomes of a channel. -/
inductive RedirectionKind
  | read
  | write
  /-- Writes even where files are protected. -/
  | overwrite
  | append
  | readWrite
  /-- Leads where another channel leads. -/
  | copy
  /-- Reads the document of a number. -/
  | document (number : Nat)
  deriving DecidableEq, Repr

/-- A channel, what becomes of it, and the word that names a file or channel. -/
structure Redirection (ω : Type) where
  channel : Nat
  kind : RedirectionKind
  target : ω

mutual

/-- A part of a word. -/
inductive Piece
  | text (quoted : Bool) (s : List Char)
  /-- A quotation mark, which keeps an empty word. -/
  | mark
  | parameter (quoted : Bool) (name : String)
  /-- The length of a parameter. -/
  | length (quoted : Bool) (name : String)
  /-- A parameter that may be missing: not set or, if `colon` says so, empty. -/
  | fallback (quoted : Bool) (name : String) (kind : Fallback) (colon : Bool) (word : List Piece)
  /-- A parameter without the shortest or longest part at one end that has a pattern. -/
  | trim (quoted : Bool) (name : String) (atEnd longest : Bool) (pattern : List Piece)
  /-- What a command writes. -/
  | script (quoted : Bool) (body : Command)
  /-- The value of a sum. -/
  | sum (quoted : Bool) (expression : List Piece)
  /-- Braces that say nothing. -/
  | malformed

/-- A command. A line is that on which the command stands. -/
inductive Command
  | simple (line : Nat) (assignments : List (String × List Piece)) (words : List (List Piece))
      (redirections : List (Redirection (List Piece)))
  | sequence (commands : List Command)
  /-- The second command runs if the first succeeds. -/
  | both (first second : Command)
  /-- The second command runs if the first fails. -/
  | either (first second : Command)
  | negated (body : Command)
  /-- Each command reads what the one before it writes. -/
  | piped (commands : List Command)
  /-- Nothing waits for the command. -/
  | background (body : Command)
  | repeated (untilSuccess : Bool) (condition body : Command)
  | forEach (line : Nat) (name : String) (words : List (List Piece)) (body : Command)
  | branch (condition yes no : Command)
  /-- The first case of which a pattern has the word. -/
  | choice (line : Nat) (word : List Piece) (cases : List (List (List Piece) × Command))
  /-- Runs on a copy of everything but the files. -/
  | apart (line : Nat) (body : Command) (redirections : List (Redirection (List Piece)))
  | redirected (line : Nat) (body : Command) (redirections : List (Redirection (List Piece)))
  /-- Gives a name to a command. -/
  | function (name : String) (body : Command)

end

/-- The parts of a word, joined without blanks. -/
abbrev Word := List Piece

instance : Inhabited Command := ⟨.sequence []⟩

/-- The command does nothing and leaves everything as it is. -/
def Command.isNothing : Command → Bool
  | .sequence [] => true
  | _ => false

/-- Puts characters in front of a word. -/
def Word.withText (quoted : Bool) (s : List Char) (w : Word) : Word :=
  match w with
  | .text q t :: rest => if q = quoted then .text q (s ++ t) :: rest else .text quoted s :: w
  | _ => .text quoted s :: w

/-- The text of a word without quotes and parameters. -/
def Word.plain? : Word → Option (List Char)
  | [] => some []
  | .text false s :: rest => (plain? rest).map (s ++ ·)
  | _ :: _ => none

/-- The characters of a word, in quotes or not. -/
def Word.characters (w : Word) : List Char :=
  w.flatMap fun piece =>
    match piece with
    | .text _ s => s
    | _ => []

/-- Some part of the word is in quotes. -/
def Word.hasQuotes (w : Word) : Bool :=
  w.any fun piece =>
    match piece with
    | .text quoted _ => quoted
    | .mark => true
    | _ => false

/-- The character may begin a name. -/
def beginsName (c : Char) : Bool := c.isAlpha || c = '_'

/-- The character may stand in a name. -/
def inName (c : Char) : Bool := c.isAlphanum || c = '_'

/-- The characters are a name. -/
def isName (s : List Char) : Bool :=
  match s with
  | c :: rest => beginsName c && rest.all inName
  | [] => false

/-- The character alone names a parameter. -/
def isSpecial (c : Char) : Bool :=
  c = '@' || c = '*' || c = '#' || c = '?' || c = '$' || c = '!' || c = '-' || c.isDigit

/-- The name of an assignment and the word after its sign. -/
def Word.assignment? (w : Word) : Option (String × Word) :=
  match w with
  | .text false s :: rest =>
    let name := s.takeWhile inName
    match s.dropWhile inName with
    | '=' :: value =>
      if isName name then
        some (String.ofList name, if value.isEmpty then rest else .text false value :: rest)
      else none
    | _ => none
  | _ => none

end Suite.Shell
