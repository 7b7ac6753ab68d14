import Suite.Text.Octets

/-!
# Quoted names

Programs write names in one of several styles: as they are, in the quotes of some language, or in
those of a shell, where a name that needs none may stay without. A text is taken apart into `Glyph`s
first, each a character or a stray octet; a style says how each of them is written and what stands
around all.
-/

namespace Suite.Shell.Quotation

/-- How names are quoted. -/
inductive Style
  | literal
  /-- As a shell reads them: in quotes only if they need some, unless `always` says so, and with
  escapes for what cannot be seen if `escapes` says so. -/
  | shell (always escapes : Bool)
  /-- In double quotes, only if the name needs them with `needed`. -/
  | double (needed : Bool)
  /-- With escapes and without quotes. -/
  | escape
  /-- In the quotes of printed texts. -/
  | curly
  deriving DecidableEq, Repr

/-- A character of a text, or an octet that belongs to none. -/
structure Glyph where
  octets : List Char
  /-- The glyph can be seen. -/
  visible : Bool
  deriving DecidableEq, Repr

/-- The character can be seen. -/
def isVisible (c : Char) : Bool :=
  32 ≤ c.toNat && !(127 ≤ c.toNat && c.toNat < 160) && c.toNat ≠ 0x2028 && c.toNat ≠ 0x2029

/-- The glyphs of a text; `steps` bounds the recursion. -/
def glyphsFrom : Nat → List Char → List Glyph
  | 0, _ => []
  | _, [] => []
  | steps + 1, c :: rest =>
    match Text.firstCharacter? (c :: rest) with
    | some (d, count) =>
      ⟨(c :: rest).take count, isVisible d⟩ :: glyphsFrom steps ((c :: rest).drop count)
    | none => ⟨[c], false⟩ :: glyphsFrom steps rest

/-- The glyphs of a text. -/
def glyphs (s : String) : List Glyph := glyphsFrom s.length s.toList

/-- The letters that stand for characters after a backslash. -/
def escapeLetters : List (Char × Char) :=
  [('\x07', 'a'), ('\x08', 'b'), ('\x0c', 'f'), ('\n', 'n'), ('\r', 'r'), ('\t', 't'),
   ('\x0b', 'v')]

/-- An octet as a backslash and three octal digits. -/
def octal (c : Char) : List Char :=
  let ds := Nat.toDigits 8 c.toNat
  '\\' :: (List.replicate (3 - ds.length) '0' ++ ds)

/-- The escape for a glyph that cannot be seen. -/
def Glyph.escape? (g : Glyph) : Option (List Char) :=
  match g.octets with
  | [c] =>
    match escapeLetters.lookup c with
    | some letter => some ['\\', letter]
    | none => if g.visible then none else some (octal c)
  | cs => if g.visible then none else some (cs.flatMap octal)

/-- The quotes of printed texts, the left one and the right one. -/
def curlyQuotes : List Char × List Char :=
  ((Text.octets "‘").toList, (Text.octets "’").toList)

/-- A glyph where a backslash stands in front of each of some others, and of a backslash if
`doubled` says so. -/
def Glyph.masked (g : Glyph) (doubled : Bool) (others : List (List Char)) : List Char :=
  match g.escape? with
  | some text => text
  | none =>
    if others.contains g.octets || (doubled && g.octets = ['\\']) then '\\' :: g.octets
    else g.octets

/-- Characters that mean something to a shell wherever they stand. -/
def shellSigns : List Char := " !\"$&'()*;<=>?[\\^|\x60\n\r\t".toList

/-- The name needs quotes for a shell. -/
def needsQuotes (escapes : Bool) (others : List (List Char)) (gs : List Glyph) : Bool :=
  let alone : List (List Char) := [['\x7b'], ['\x7d']]
  let first : List (List Char) := [['#'], ['~']]
  gs.isEmpty || alone.any (fun c => gs.map Glyph.octets = [c]) ||
    first.any (fun c => (gs.head?.map Glyph.octets) = some c) ||
    gs.any fun g => others.contains g.octets || (escapes && g.escape?.isSome) ||
      shellSigns.any fun c => g.octets = [c]

/-- All glyphs mean the same in double quotes to a shell and to other languages. -/
def areHarmless (gs : List Glyph) : Bool :=
  let plain (g : Glyph) : Bool :=
    match g.octets with
    | [c] => c.isAlphanum || "%+,-./:@]_ '".toList.contains c
    | _ => g.visible
  match gs with
  | [] => true
  | g :: rest => (plain g || g.octets = ['#'] || g.octets = ['~']) && rest.all plain

/-- Glyphs inside single quotes. Escapes are in quotes of their own, which are closed where
`escaped` says that they are open. -/
def inSingleQuotes (escapes : Bool) : Bool → List Glyph → List Char
  | _, [] => []
  | escaped, g :: rest =>
    if g.octets = ['\''] then "'\\''".toList ++ inSingleQuotes escapes false rest
    else
      match if escapes then g.escape? else none with
      | some text =>
        (if escaped then [] else "'$'".toList) ++ text ++ inSingleQuotes escapes true rest
      | none =>
        (if escaped then "''".toList else []) ++ g.octets ++ inSingleQuotes escapes false rest

/-- Glyphs in double quotes. -/
def inDoubleQuotes (gs : List Glyph) : List Char :=
  '"' :: gs.flatMap (fun g => g.masked true [['"']]) ++ ['"']

/-- Glyphs in the quotes of a shell. -/
def inShellQuotes (escapes : Bool) (gs : List Glyph) : List Char :=
  if gs.any (fun g => g.octets = ['\'']) && areHarmless gs then inDoubleQuotes gs
  else '\'' :: inSingleQuotes escapes false gs ++ ['\'']

/-- A name in a style; `others` are characters that do not stay as they are without quotes. -/
def Style.write (style : Style) (others : List Char) (name : String) : String :=
  let gs := glyphs name
  let others := others.map fun c => [c]
  String.ofList <| match style with
    | .literal => name.toList
    | .shell always escapes =>
      if always || needsQuotes escapes others gs then inShellQuotes escapes gs else name.toList
    | .double needed =>
      let isPlain := gs.all fun g =>
        g.escape?.isNone && g.octets ≠ ['"'] && !others.contains g.octets
      if needed && isPlain then name.toList else inDoubleQuotes gs
    | .escape => gs.flatMap fun g => g.masked true others
    | .curly =>
      let (left, right) := curlyQuotes
      left ++ gs.flatMap (fun g => g.masked true [right]) ++ right

/-- A name as messages cite it. -/
def cited (name : String) : String := Style.curly.write [] name

/-- The name of a file as messages cite it, always in quotes. -/
def citedFile (name : String) : String := (Style.shell true true).write [] name

/-- The name of a file as messages begin with it, in quotes if it needs some. -/
def named (name : String) : String := (Style.shell false true).write [':'] name

end Suite.Shell.Quotation
