import Suite.Shell.Arithmetic
import Suite.Text.Octets

/-!
# Escapes, and what `echo` writes

Backslashes stand for characters and bytes in what `echo` and `printf` write. The commands inside a
shell and the programs of the same names differ in a few escapes: that is their `Dialect`. All texts
are octets.
-/

namespace Suite.Shell

/-- Who writes. -/
inductive Dialect
  | inside
  | program
  deriving DecidableEq, Repr

/-- What an escape after a backslash stands for. -/
inductive Escape
  | chars (s : List Char)
  /-- Nothing more is written. -/
  | stop
  /-- The escape goes wrong. -/
  | broken (message : String)
  deriving DecidableEq, Repr

/-- Up to `count` digits of a base as a byte, and the characters after them. -/
def byteOf (base count : Nat) (s : List Char) : Char × List Char :=
  let ds := (s.take count).takeWhile fun c => (Arithmetic.digit? base c).isSome
  (Char.ofNat (Arithmetic.ofDigits base ds % 256), s.drop ds.length)

/-- Where an escape stands. -/
inductive EscapePlace
  | format
  /-- An argument with escapes: an octal number may have a zero in front of its three digits, and
  there may be an escape for the end. -/
  | argument
  /-- A line, which is like such an argument but knows fewer escapes. -/
  | line
  deriving DecidableEq, Repr

/-- The least digits of a number in a base, at least so many. -/
def paddedDigits (base least n : Nat) : List Char :=
  let ds := Nat.toDigits base n
  List.replicate (least - ds.length) '0' ++ ds

/-- The character that so many hexadecimal digits stand for, and the characters after them. -/
def characterEscape (letter : Char) (count : Nat) (s : List Char) : Escape × List Char :=
  let ds := (s.take count).takeWhile fun c => (Arithmetic.digit? 16 c).isSome
  let n := Arithmetic.ofDigits 16 ds
  let rest := s.drop count
  if ds.length < count then (.broken "missing hexadecimal number in escape", rest)
  else if 0xd800 ≤ n && n < 0xe000 then
    let text := String.ofList ('\\' :: letter :: paddedDigits 16 count n)
    (.broken ("invalid universal character name " ++ text), rest)
  else if n < 0x110000 then (.chars (Text.octets (Char.ofNat n).toString).toList, rest)
  else (.chars ("\\U".toList ++ (paddedDigits 16 8 n).map Char.toUpper), rest)

/-- The escape after a backslash, and the characters after it. -/
def escape (d : Dialect) (place : EscapePlace) (s : List Char) : Escape × List Char :=
  match s with
  | [] => (.chars ['\\'], [])
  | '\\' :: rest => (.chars ['\\'], rest)
  | 'a' :: rest => (.chars ['\x07'], rest)
  | 'b' :: rest => (.chars ['\x08'], rest)
  | 'f' :: rest => (.chars ['\x0c'], rest)
  | 'n' :: rest => (.chars ['\n'], rest)
  | 'r' :: rest => (.chars ['\r'], rest)
  | 't' :: rest => (.chars ['\t'], rest)
  | 'v' :: rest => (.chars ['\x0b'], rest)
  | c :: rest =>
    let isPrinted := d = .program && place ≠ .line
    if c = 'c' && (d = .program || place ≠ .format) then (.stop, rest)
    else if c = 'e' then (.chars ['\x1b'], rest)
    else if c = '"' && isPrinted then (.chars ['"'], rest)
    else if c = 'u' && isPrinted then characterEscape c 4 rest
    else if c = 'U' && isPrinted then characterEscape c 8 rest
    else if c = 'x' && d = .program && (rest.head?.bind (Arithmetic.digit? 16)).isSome then
      let (b, rest) := byteOf 16 2 rest
      (.chars [b], rest)
    else if c = 'x' && isPrinted then (.broken "missing hexadecimal number in escape", rest)
    else if (Arithmetic.digit? 8 c).isSome then
      let (b, rest) :=
        if c = '0' && place ≠ .format then byteOf 8 3 rest else byteOf 8 3 (c :: rest)
      (.chars [b], rest)
    else (.chars ['\\', c], rest)

/-- A text with escapes as what it stands for, and the escape that ends it before its end, if one
does; `steps` bounds the recursion. -/
def unescapeFrom (d : Dialect) (place : EscapePlace) :
    Nat → List Char → List Char × Option Escape
  | 0, _ => ([], none)
  | steps + 1, s =>
    match s with
    | [] => ([], none)
    | '\\' :: rest =>
      match escape d place rest with
      | (.chars cs, rest) =>
        let (more, last) := unescapeFrom d place steps rest
        (cs ++ more, last)
      | (last, _) => ([], some last)
    | c :: rest =>
      let (more, last) := unescapeFrom d place steps rest
      (c :: more, last)

/-- A text with escapes as what it stands for, and the escape that ends it before its end, if one
does. -/
def unescape (d : Dialect) (place : EscapePlace) (s : List Char) : List Char × Option Escape :=
  unescapeFrom d place (s.length + 1) s

/-- What the command `echo` writes: a leading `-n` leaves out the end of the line. -/
def echoInside (args : List String) : List Char :=
  let (plainEnd, args) := match args with
    | "-n" :: rest => (false, rest)
    | _ => (true, args)
  let (cs, last) := unescape .inside .line (" ".intercalate args).toList
  if last.isSome || !plainEnd then cs else cs ++ ['\n']

/-- What the program `echo` writes: without escapes, unless an option asks for them. -/
def echoProgram (args : List String) : List Char :=
  let isOption (a : String) : Bool :=
    match a.toList with
    | '-' :: c :: rest => (c :: rest).all "neE".toList.contains
    | _ => false
  let flags := ((args.takeWhile isOption).flatMap String.toList).filter (· ≠ '-')
  let text := (" ".intercalate (args.dropWhile isOption)).toList
  let escapes := (flags.filter (· ≠ 'n')).getLast? = some 'e'
  let (cs, last) := if escapes then unescape .program .line text else (text, none)
  if last.isSome || flags.contains 'n' then cs else cs ++ ['\n']

end Suite.Shell
