import Suite.Shell.Escapes
import Suite.Shell.Fractions
import Suite.Shell.Quotation

/-!
# What `printf` writes

A format is written once for every round of arguments it takes. Its parts are characters and
`Directive`s, each of which writes an argument in a field. What the command inside a shell and the
program of the same name allow and say differs: that is their `Dialect`. All texts are octets.
-/

namespace Suite.Shell

/-- A width or precision: a number, or the next argument. -/
inductive Size
  | given (n : Nat)
  | argument
  deriving DecidableEq, Repr

/-- How an argument is written. -/
structure Directive where
  flags : List Char
  width : Option Size
  precision : Option Size
  kind : Char
  deriving Repr

/-- A part of a format. -/
inductive FormatPart
  | chars (s : List Char)
  | directive (d : Directive)
  /-- The format goes wrong. -/
  | invalid (complaint : String)
  /-- Nothing more is written. -/
  | stop
  deriving Repr

/-- The width or precision in front of the characters, and those after it. -/
def sizeAt (s : List Char) : Option Size × List Char :=
  match s with
  | '*' :: rest => (some .argument, rest)
  | _ =>
    let ds := s.takeWhile Char.isDigit
    (if ds.isEmpty then none else some (.given (Arithmetic.ofDigits 10 ds)), s.drop ds.length)

/-- The flags that a directive may have. -/
def Dialect.flags : Dialect → List Char
  | .inside => "-0+ #".toList
  | .program => "-0+ #'I".toList

/-- A directive is one that there is; `bare` if nothing stands in front of its kind. -/
def Directive.isValid (t : Directive) (d : Dialect) (bare : Bool) : Bool :=
  let kinds := "aAcdeEfFgGiosuxX".toList
  match d with
  | .inside => t.kind = 'b' || kinds.contains t.kind
  | .program =>
    let unfit := (if t.flags.any "'I".toList.contains then "aAceEosxX".toList else []) ++
      (if t.flags.contains '#' then "cdisu".toList else []) ++
      (if t.flags.contains '0' then "cs".toList else []) ++
      (if t.precision.isSome then ['c'] else [])
    (bare && (t.kind = 'b' || t.kind = 'q')) || (kinds.contains t.kind && !unfit.contains t.kind)

/-- What is said of a directive that there is not. -/
def Dialect.invalid (d : Dialect) (text : String) : String :=
  match d with
  | .program => text ++ ": invalid conversion specification"
  | .inside =>
    if text.toList.all "%-0+ #123456789.*".toList.contains then "missing format character"
    else text ++ ": invalid directive"

/-- The directive after a percent sign, and the characters after it. Programs pass over letters that
say how long a number is. -/
def directiveAt (d : Dialect) (s : List Char) : FormatPart × List Char :=
  let flags := s.takeWhile d.flags.contains
  let (width, rest) := sizeAt (s.drop flags.length)
  let (precision, rest) := match rest with
    | '.' :: rest =>
      let (p, rest) := sizeAt rest
      (some (p.getD (.given 0)), rest)
    | _ => (none, rest)
  let rest := if d = .program then rest.dropWhile "hjlLtz".toList.contains else rest
  let text := '%' :: s.take (s.length - rest.tail.length)
  let invalid (text : List Char) : FormatPart := .invalid (d.invalid (String.ofList text))
  match rest with
  | [] => (invalid ('%' :: s), [])
  | kind :: rest =>
    let t : Directive := ⟨flags, width, precision, kind⟩
    (if t.isValid d (text.length = 2) then .directive t else invalid text, rest)

/-- The parts of a format; `steps` bounds the recursion. -/
def formatParts (d : Dialect) : Nat → List Char → List FormatPart
  | 0, _ => []
  | steps + 1, s =>
    match s with
    | [] => []
    | '%' :: '%' :: rest => .chars ['%'] :: formatParts d steps rest
    | '%' :: rest =>
      let (part, rest) := directiveAt d rest
      part :: formatParts d steps rest
    | '\\' :: rest =>
      match escape d .format rest with
      | (.stop, _) => [.stop]
      | (.broken message, _) => [.invalid message]
      | (.chars cs, rest) => .chars cs :: formatParts d steps rest
    | c :: rest => .chars [c] :: formatParts d steps rest

/-- The integer that an argument is, as far as it is one. -/
def integerArgument (signed : Bool) (s : List Char) : Int × BadNumber :=
  let (negative, cs) := signAt (s.dropWhile Arithmetic.isSpace)
  match Arithmetic.number? cs with
  | none => (0, if s.isEmpty then .none else .noNumber)
  | some (n, rest) =>
    let value : Int := if negative then -n else n
    let bad : BadNumber := if rest.isEmpty then .none else .unfinished
    if signed then
      if Arithmetic.wordMax < value then (Arithmetic.wordMax, .tooGreat)
      else if value < -Arithmetic.wordMax - 1 then (-Arithmetic.wordMax - 1, .tooGreat)
      else (value, bad)
    else if Arithmetic.wordSize ≤ n then ((Arithmetic.wordSize : Int) - 1, .tooGreat)
    else (value, bad)

/-- The number of the character behind a quote in an argument, and the characters behind that. The
command inside a shell takes only one octet and forgets the others. -/
def constantOf? (d : Dialect) (arg : List Char) : Option (Nat × List Char) :=
  match arg with
  | quote :: s =>
    if quote ≠ '\'' && quote ≠ '"' then none
    else
      match d, s with
      | .inside, _ => some ((s.headD '\x00').toNat, [])
      | .program, [] => none
      | .program, c :: rest =>
        match Text.firstCharacter? s with
        | some (character, count) => some (character.toNat, s.drop count)
        | none => some (c.toNat, rest)
  | [] => none

/-- What is written so far, and what is left of the arguments. -/
structure Printing where
  /-- What is written, the last character first. -/
  written : List Char := []
  args : List String
  /-- What was said about bad arguments. -/
  complaints : List String := []
  status : Nat := 0
  /-- Nothing more is written. -/
  halted : Bool := false
  /-- Something was too long to be written. -/
  unwritten : Bool := false

/-- What is written so far. -/
def Printing.out (p : Printing) : List Char := p.written.reverse

/-- The printing after more characters are written. -/
def Printing.put (p : Printing) (s : List Char) : Printing :=
  { p with written := s.reverseAux p.written }

/-- What the writer says about an argument that is no number. -/
def BadNumber.complaint (d : Dialect) (arg : String) (b : BadNumber) : Option String :=
  let cited := match d with
    | .inside => arg
    | .program => Quotation.cited arg
  match b, d with
  | .none, _ => Option.none
  | .noNumber, .inside => some (cited ++ ": expected numeric value")
  | .noNumber, .program => some (cited ++ ": expected a numeric value")
  | .unfinished, .inside => some (cited ++ ": not completely converted")
  | .unfinished, .program => some (cited ++ ": value not completely converted")
  | .tooGreat, _ => some (cited ++ ": Numerical result out of range")

/-- The printing after something was said about an argument. -/
def Printing.complain (p : Printing) (complaint : String) : Printing :=
  { p with complaints := p.complaints ++ [complaint], status := 1 }

/-- The printing after it has gone wrong for good. -/
def Printing.fail (d : Dialect) (p : Printing) (complaint : String) : Printing :=
  { p.complain complaint with halted := true, status := if d = .inside then 2 else 1 }

/-- The next argument as a number, which is a character behind a quote or is read. -/
def Printing.number {α : Type} (d : Dialect) (read : List Char → α × BadNumber)
    (ofNat : Nat → α) (p : Printing) : α × Printing :=
  match p.args with
  | [] => (ofNat 0, p)
  | arg :: rest =>
    let p := { p with args := rest }
    match constantOf? d arg.toList with
    | some (n, []) => (ofNat n, p)
    | some (n, after) =>
      let warning := "warning: " ++ String.ofList after ++
        ": character(s) following character constant have been ignored"
      (ofNat n, { p with complaints := p.complaints ++ [warning] })
    | none =>
      let (a, bad) := read arg.toList
      (a, (bad.complaint d arg).elim p p.complain)

/-- The next argument as an integer. -/
def Printing.integer (d : Dialect) (signed : Bool) (p : Printing) : Int × Printing :=
  p.number d (integerArgument signed) Int.ofNat

/-- The greatest size of a field. -/
def maxField : Int := 2147483647

/-- The size that a directive asks for; `what` is how messages call it. -/
def Printing.size (d : Dialect) (what : String) (p : Printing) :
    Option Size → Option Int × Printing
  | none => (none, p)
  | some (.given n) => (some n, p)
  | some .argument =>
    let arg := p.args.headD ""
    let (n, p) := p.integer d true
    match d with
    | .inside => (some (n.bmod (2 * (maxField.toNat + 1))), p)
    | .program =>
      let isPrecision := what = "precision"
      if maxField < n || (!isPrecision && n < -maxField - 1) then
        (none, p.fail d ("invalid " ++ what ++ ": " ++ Quotation.cited arg))
      else (some n, p)

/-- A text in a field: its sign or other beginning, and the rest, filled up to a width. -/
def filled (left zeros : Bool) (width : Nat) (front body : List Char) : List Char :=
  let missing := width - front.length - body.length
  if left then front ++ body ++ List.replicate missing ' '
  else if zeros then front ++ List.replicate missing '0' ++ body
  else List.replicate missing ' ' ++ front ++ body

/-- An integer as a directive writes it: what stands in front of its digits, and those. -/
def Directive.integerText (t : Directive) (precision : Option Nat) (sign : List Char) (n : Int) :
    List Char × List Char :=
  let alternate := t.flags.contains '#'
  let unsigned := (n % Arithmetic.wordSize).toNat
  let digits (base n : Nat) : List Char :=
    if n = 0 && precision = some 0 then [] else Nat.toDigits base n
  let (front, ds) : List Char × List Char :=
    if t.kind = 'd' || t.kind = 'i' then (sign, digits 10 n.natAbs)
    else if t.kind = 'u' then ([], digits 10 unsigned)
    else if t.kind = 'o' then
      let ds := digits 8 unsigned
      ([], if alternate && ds.head? ≠ some '0' then '0' :: ds else ds)
    else
      let ds := digits 16 unsigned
      let front := if alternate && unsigned ≠ 0 then ['0', 'x'] else []
      if t.kind = 'X' then (front.map Char.toUpper, ds.map Char.toUpper) else (front, ds)
  (front, List.replicate (precision.getD 1 - ds.length) '0' ++ ds)

/-- The printing after one directive whose sizes are known. -/
def Printing.field (d : Dialect) (p : Printing) (t : Directive) (width : Int)
    (precision : Option Nat) : Printing :=
  let has (c : Char) : Bool := t.flags.contains c
  let put (p : Printing) (zeros : Bool) (front body : List Char) : Printing :=
    p.put (filled (has '-' || width < 0) zeros width.natAbs front body)
  let cut (s : List Char) : List Char := precision.elim s s.take
  let signOf (negative : Bool) : List Char :=
    if negative then ['-'] else if has '+' then ['+'] else if has ' ' then [' '] else []
  let arg := (p.args.headD "").toList
  let after := { p with args := p.args.tail }
  match t.kind with
  | 's' => put after false [] (cut arg)
  | 'c' => put after false [] [arg.headD '\x00']
  | 'b' =>
    let (cs, last) := unescape d .argument arg
    let after := put after false [] (cut cs)
    match last with
    | some (.broken message) => after.fail d message
    | some _ => { after with halted := true, status := if d = .program then 0 else after.status }
    | none => after
  | 'q' =>
    if p.args.isEmpty then p
    else put after false [] ((Quotation.Style.shell false true).write [] (p.args.headD "")).toList
  | kind =>
    if "aAeEfFgG".toList.contains kind then
      let held := if d = .inside then Precision.double else Precision.extended
      let ofNat (n : Nat) : Signed := ⟨false, (held.round n 1).1⟩
      let (n, p) := p.number d held.argument ofNat
      let (front, body) := held.text kind (has '#') precision n.size
      let isFinite := match n.size with
        | .finite _ _ => true
        | _ => false
      put p (has '0' && isFinite) (signOf n.negative ++ front) body
    else
      let (n, p) := p.integer d (kind = 'd' || kind = 'i')
      let (front, ds) := t.integerText precision (signOf (n < 0)) n
      put p (has '0' && precision.isNone) front ds

/-- The printing after one directive. -/
def Printing.direct (d : Dialect) (p : Printing) (t : Directive) : Printing :=
  let (width, p) := p.size d "field width" t.width
  let (precision, p) := p.size d "precision" t.precision
  if p.halted then p
  else
    let tooLong (n : Option Int) : Bool := maxField ≤ n.getD 0
    if tooLong width || tooLong precision then
      match d with
      | .inside => p.fail d "xvsnprintf failed"
      | .program => { p with args := p.args.tail, unwritten := true }
    else
      p.field d t (width.getD 0) ((precision.filter (0 ≤ ·)).map Int.toNat)

/-- The printing after one part of the format. -/
def Printing.step (d : Dialect) (p : Printing) (part : FormatPart) : Printing :=
  if p.halted then p
  else
    match part with
    | .chars s => p.put s
    | .stop => { p with halted := true, status := if d = .program then 0 else p.status }
    | .directive t => p.direct d t
    | .invalid complaint => p.fail d complaint

/-- The printing after as many rounds as the arguments ask for; `rounds` bounds them. -/
def Printing.rounds (d : Dialect) (parts : List FormatPart) : Nat → Printing → Printing
  | 0, p => p
  | rounds + 1, p =>
    let q := parts.foldl (Printing.step d) p
    if q.halted || q.args.isEmpty || q.args.length = p.args.length then q
    else q.rounds d parts rounds

/-- What a format writes for its arguments. -/
def formatted (d : Dialect) (format : String) (args : List String) : Printing :=
  Printing.rounds d (formatParts d (format.length + 1) format.toList) (args.length + 1) { args }

end Suite.Shell
