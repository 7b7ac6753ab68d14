/-!
# Patterns

A pattern stands for the texts it matches: `*` for any text, `?` for any character, a set in square
brackets for one of its characters, everything else for itself, as does what stands in quotes.
-/

namespace Suite.Shell

/-- A character of a pattern, which stands for itself if it was quoted. -/
structure Glyph where
  char : Char
  quoted : Bool
  deriving DecidableEq, Repr

/-- A part of a set of characters. -/
inductive Member
  | range (first last : Char)
  | kind (name : String)
  deriving DecidableEq, Repr

/-- A part of a pattern. -/
inductive Atom
  | char (c : Char)
  | one
  | many
  | set (excluded : Bool) (members : List Member)
  deriving DecidableEq, Repr

/-- The kinds of characters that sets name. -/
def kindOf (name : String) (c : Char) : Bool :=
  match name with
  | "alnum" => c.isAlphanum
  | "alpha" => c.isAlpha
  | "blank" => c = ' ' || c = '\t'
  | "cntrl" => c.toNat < 32 || c.toNat = 127
  | "digit" => c.isDigit
  | "graph" => 32 < c.toNat && c.toNat < 127
  | "lower" => c.isLower
  | "print" => 32 ≤ c.toNat && c.toNat < 127
  | "punct" => 32 < c.toNat && c.toNat < 127 && !c.isAlphanum
  | "space" => c = ' ' || (9 ≤ c.toNat && c.toNat ≤ 13)
  | "upper" => c.isUpper
  | "xdigit" => c.isDigit || ('a' ≤ c.toLower && c.toLower ≤ 'f')
  | _ => false

/-- The names of the kinds of characters. -/
def kindNames : List String :=
  ["alnum", "alpha", "blank", "cntrl", "digit", "graph", "lower", "print", "punct", "space",
   "upper", "xdigit"]

/-- The character belongs to the part of a set. -/
def Member.holds (c : Char) : Member → Bool
  | .range first last => first ≤ c && c ≤ last
  | .kind name => kindOf name c

/-- The name of a kind of characters between `[:` and `:]`, of which the first bracket was read, and
the glyphs after it. -/
def kindAt (gs : List Glyph) : Option (String × List Glyph) :=
  match gs with
  | ⟨':', _⟩ :: rest =>
    let name := String.ofList ((rest.takeWhile fun g => g.char.isAlpha).map (·.char))
    match rest.drop name.length with
    | ⟨':', _⟩ :: ⟨']', _⟩ :: after => if kindNames.contains name then some (name, after) else none
    | _ => none
  | _ => none

/-- The parts of a set up to its bracket, and the glyphs after it; nothing if no bracket closes it.
The bracket counts only after `first` has become false; `steps` bounds the recursion. -/
def setMembers : Nat → Bool → List Glyph → Option (List Member × List Glyph)
  | 0, _, _ => none
  | steps + 1, first, gs =>
    match gs with
    | [] => none
    | g :: rest =>
      if g.char = ']' && !g.quoted && !first then some ([], rest)
      else
        match if g.char = '[' && !g.quoted then kindAt rest else none with
        | some (name, after) => do
          let (more, after) ← setMembers steps false after
          return (.kind name :: more, after)
        | none =>
          match rest with
          | ⟨'-', false⟩ :: last :: after =>
            if last.char = ']' && !last.quoted then do
              let (more, after) ← setMembers steps false rest
              return (.range g.char g.char :: more, after)
            else do
              let (more, after) ← setMembers steps false after
              return (.range g.char last.char :: more, after)
          | _ => do
            let (more, after) ← setMembers steps false rest
            return (.range g.char g.char :: more, after)

/-- The parts of a pattern; `steps` bounds the recursion. -/
def atomsFrom : Nat → List Glyph → List Atom
  | 0, _ => []
  | steps + 1, gs =>
    match gs with
    | [] => []
    | g :: rest =>
      if g.quoted then .char g.char :: atomsFrom steps rest
      else if g.char = '*' then .many :: atomsFrom steps rest
      else if g.char = '?' then .one :: atomsFrom steps rest
      else if g.char = '[' then
        let (excluded, inside) := match rest with
          | ⟨'!', false⟩ :: inside => (true, inside)
          | _ => (false, rest)
        match setMembers (inside.length + 1) true inside with
        | some (members, after) => .set excluded members :: atomsFrom steps after
        | none => .char '[' :: atomsFrom steps rest
      else .char g.char :: atomsFrom steps rest

/-- The glyphs without the backslashes that make the glyph after them stand for itself. -/
def unmasked : List Glyph → List Glyph
  | ⟨'\\', false⟩ :: g :: rest => ⟨g.char, true⟩ :: unmasked rest
  | g :: rest => g :: unmasked rest
  | [] => []

/-- The parts of a pattern. -/
def atoms (gs : List Glyph) : List Atom := atomsFrom (gs.length + 1) (unmasked gs)

/-- The texts that are left when some characters are taken from the front, the longest first. -/
def rests : List Char → List (List Char)
  | [] => [[]]
  | c :: rest => (c :: rest) :: rests rest

/-- The pattern stands for the text. -/
def matchesText : List Atom → List Char → Bool
  | [], s => s.isEmpty
  | .many :: more, s => (rests s).any (matchesText more)
  | .char c :: more, s =>
    match s with
    | d :: rest => c = d && matchesText more rest
    | [] => false
  | .one :: more, s =>
    match s with
    | _ :: rest => matchesText more rest
    | [] => false
  | .set excluded members :: more, s =>
    match s with
    | d :: rest => (members.any (·.holds d)) ≠ excluded && matchesText more rest
    | [] => false

/-- The characters in front of the first NUL, which stands between the parts of a text. -/
def firstPart (s : List Char) : List Char := s.takeWhile (· ≠ '\x00')

/-- The places in a text from its front, those in the first part only, or from its end. -/
def cutPlaces (fromEnd : Bool) (s : List Char) : List Nat :=
  if fromEnd then (List.range (s.length + 1)).reverse else List.range ((firstPart s).length + 1)

/-- A text without the shortest or longest part at its front that has a pattern. -/
def trimFront (longest : Bool) (pattern : List Atom) (s : List Char) : List Char :=
  match (cutPlaces longest s).find? fun n => matchesText pattern (firstPart (s.take n)) with
  | some n => s.drop n
  | none => s

/-- A text without the shortest or longest part at its end that has a pattern. -/
def trimEnd (longest : Bool) (pattern : List Atom) (s : List Char) : List Char :=
  match (cutPlaces (!longest) s).find? fun n => matchesText pattern (firstPart (s.drop n)) with
  | some n => s.take n
  | none => s

/-- The pattern can stand for other texts than its own. -/
def isWild (pattern : List Atom) : Bool :=
  pattern.any fun a =>
    match a with
    | .char _ => false
    | _ => true

end Suite.Shell
