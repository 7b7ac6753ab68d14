import Suite.Shell.Pattern

/-!
# Fields

What a word is replaced by is a list of marks: characters, the quotation marks that keep empty
words, and the cuts between arguments. `fieldsOf` divides the marks into fields, `readFields` a line
of input into the values of variables.
-/

namespace Suite.Shell

/-- A part of what a word is replaced by. -/
inductive Mark
  /-- A character; `divides` if it may end a field. -/
  | char (c : Char) (quoted divides : Bool)
  /-- A quotation mark. -/
  | edge
  /-- What follows comes from another parameter than what was before; from the arguments, each of
  which stays whole, if `whole` says so. -/
  | seam (whole : Bool)
  /-- The end of an argument, which ends a field; an empty one counts if `hard` says so. -/
  | cut (hard : Bool)
  deriving DecidableEq, Repr

/-- The characters of a text as marks. -/
def Mark.ofText (quoted divides : Bool) (s : List Char) : List Mark :=
  s.map fun c => .char c quoted divides

/-- The glyphs of marks. -/
def glyphs (ms : List Mark) : List Glyph :=
  ms.filterMap fun m =>
    match m with
    | .char c quoted _ => some ⟨c, quoted⟩
    | _ => none

/-- The characters of marks. -/
def characters (ms : List Mark) : List Char :=
  ms.filterMap fun m =>
    match m with
    | .char c _ _ => some c
    | _ => none

/-- A character at which fields are divided whatever divides them. -/
def isBlankChar (c : Char) : Bool := c = ' ' || c = '\t' || c = '\n'

/-- Fields that are being built, the last one and the last mark first. -/
structure Division where
  done : List (List Mark) := []
  current : List Mark := []
  /-- A blank has ended the field before. -/
  afterBlank : Bool := false
  /-- The last parameter was the arguments, so that its last field counts though it be empty. -/
  whole : Bool := false
  /-- The parameter before that was. No blank is passed over then. -/
  afterWhole : Bool := false

namespace Division

/-- The field that is being built ends. -/
def close (d : Division) (afterBlank : Bool) : Division :=
  { d with done := d.current.reverse :: d.done, current := [], afterBlank }

/-- One more character that may end a field: it does so if it is a separator; a blank one does not
count next to others and in front. -/
def separate (d : Division) (m : Mark) (separator blank : Bool) : Division :=
  if d.afterBlank then
    if blank then d
    else if separator then { d with afterBlank := false }
    else { d with current := m :: d.current, afterBlank := false }
  else if separator then
    if blank && d.current.isEmpty then d else d.close blank
  else { d with current := m :: d.current }

/-- One more mark. -/
def push (separators : List Char) (d : Division) (m : Mark) : Division :=
  match m with
  | .edge => { d with current := m :: d.current, afterBlank := false }
  | .seam whole => { d with afterBlank := false, whole, afterWhole := d.whole }
  | .cut true => d.close false
  | .cut false => d.separate m true !d.afterWhole
  | .char c _ divides =>
    if divides then
      let separator := separators.contains c
      d.separate m separator (separator && isBlankChar c && !d.afterWhole)
    else { d with current := m :: d.current, afterBlank := false }

/-- The fields. -/
def fields (d : Division) : List (List Mark) :=
  (if d.current.isEmpty && !d.whole then d.done else d.current.reverse :: d.done).reverse

end Division

/-- The fields that marks are divided into at separators. -/
def fieldsOf (separators : List Char) (ms : List Mark) : List (List Mark) :=
  (ms.foldl (Division.push separators) {}).fields

/-- Values of variables that are being read, the last one and the last character first. -/
structure Intake where
  done : List String := []
  current : List Char := []
  afterBlank : Bool := false
  /-- How many separators still end a value. -/
  left : Nat
  /-- How many characters of the last value count, if not all do. -/
  kept : Option Nat := none

namespace Intake

/-- One more character that may be a separator. Where no separator ends a value any more, those at
the end of the line still do not count: blanks, and one other separator. -/
def separate (i : Intake) (c : Char) (separator blank : Bool) : Intake :=
  if i.left = 0 then
    if blank then
      { i with current := c :: i.current, kept := i.kept.or (some i.current.length) }
    else
      { i with
        current := c :: i.current
        kept := if separator && i.afterBlank then i.kept else none
        afterBlank := false }
  else if i.afterBlank && blank then i
  else if i.afterBlank && separator then { i with afterBlank := false }
  else if !separator then { i with current := c :: i.current, afterBlank := false }
  else if blank && i.current.isEmpty then i
  else if i.left = 1 then
    { i with current := c :: i.current, left := 0, kept := some i.current.length,
             afterBlank := blank }
  else
    { i with done := String.ofList i.current.reverse :: i.done, current := [], afterBlank := blank,
             left := i.left - 1 }

/-- One more character; it stands for itself if it was escaped. -/
def push (separators : List Char) (i : Intake) (c : Char × Bool) : Intake :=
  if c.2 then { i with current := c.1 :: i.current, afterBlank := false, kept := none }
  else
    let separator := separators.contains c.1
    i.separate c.1 separator (separator && isBlankChar c.1)

/-- The values. -/
def values (i : Intake) : List String :=
  let last := i.current.reverse
  (String.ofList (last.take (i.kept.getD last.length)) :: i.done).reverse

end Intake

/-- The values of so many variables in the characters of a line, those that were escaped marked. -/
def readFields (separators : List Char) (count : Nat) (line : List (Char × Bool)) : List String :=
  (line.foldl (Intake.push separators) { left := count }).values

end Suite.Shell
