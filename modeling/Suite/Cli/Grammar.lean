import Suite.Text.Os
import Suite.Text.Pieces

/-!
# The grammar of command lines

A `Level` says which options, subcommands and other arguments may stand at one place of a command
line. `Level.scan` divides the tokens of a line into the options given there, the other arguments
and the subcommand with what follows it; `Level.finish` adds what the environment gives.

A token `--` ends the options. Where arguments are passed on to another program, the first token
that is no option of the level does so as well, and all tokens from there on are kept as they are.
-/

namespace Suite.Cli

/-- What an option takes. -/
inductive OptionKind
  | flag
  /-- Any text. -/
  | text
  /-- A text that is not empty. -/
  | path
  /-- Nothing; it asks for the version. -/
  | version
  /-- Nothing; it asks for help. -/
  | help
  deriving DecidableEq, Repr

/-- An option. -/
structure OptionSpec where
  long : String
  short : Option Char := none
  kind : OptionKind
  /-- The variable whose value stands in if the option is not given. -/
  environment : Option String := none
  /-- What the option does, for the help. -/
  about : String
  /-- Where the option stands in the help; options at the same place are listed by name. -/
  place : Nat
  deriving DecidableEq, Repr

/-- The option takes a value. -/
def OptionSpec.takesValue (o : OptionSpec) : Bool := o.kind = .text || o.kind = .path

/-- The name and the meaning of an argument that is no option, for the help. -/
structure Operand where
  name : String
  about : String
  deriving DecidableEq, Repr

/-- The arguments of a level that are no options. -/
inductive Operands
  | none
  /-- Exactly one. -/
  | one (o : Operand)
  /-- Any number, passed on as they are. -/
  | trailing (o : Operand)
  deriving DecidableEq, Repr

/-- The arguments are passed on, so an option that is not known may be one of them. -/
def Operands.passOn : Operands → Bool
  | .trailing _ => true
  | _ => false

/-- There are enough arguments. -/
def Operands.suffice : Operands → List String → Bool
  | .one _, given => !given.isEmpty
  | _, _ => true

/-- What may stand at one place of a command line. -/
structure Level where
  options : List OptionSpec
  operands : Operands := .none
  /-- One of these must follow, if there are any. -/
  subcommands : List String := []

/-- Why the reading of a level ends early. -/
inductive Stop
  | usage
  | version
  | help
  deriving DecidableEq, Repr

/-- An option that was given, by its long name, and its value if it takes one. -/
structure Given where
  long : String
  value : Option OsText
  deriving DecidableEq, Repr

/-- The option that was read last. Its value is looked at only once the next thing at its level is
read, or the level is finished. -/
inductive Pending
  | nothing
  /-- The value must come next. -/
  | awaits (o : OptionSpec)
  | holds (o : OptionSpec) (value : String)
  deriving DecidableEq, Repr

/-- How far the reading of a level has come. -/
structure Progress where
  given : List Given := []
  pending : Pending := .nothing
  operands : List String := []
  /-- The options have ended. -/
  ended : Bool := false

/-- A subcommand and the tokens after it. -/
abbrev Continuation := String × List String

/-- What was read at a level. -/
structure Reading where
  given : List Given
  /-- The options that the environment stands in for. -/
  standIns : List Given
  operands : List String
  deriving DecidableEq, Repr

namespace Progress

/-- The option was given. -/
def has (p : Progress) (long : String) : Bool := p.given.any fun g => g.long = long

/-- The last option waits for its value. -/
def waits (p : Progress) : Bool :=
  match p.pending with
  | .awaits _ => true
  | _ => false

/-- An option is on record only once, and a path on record is not empty. -/
def record (p : Progress) (o : OptionSpec) (value : Option String) : Except Stop Progress :=
  if p.has o.long || (o.kind = .path && value = some "") then .error .usage
  else .ok { p with given := p.given ++ [⟨o.long, value.map .ofText⟩], pending := .nothing }

/-- The last option goes on record. -/
def settle (p : Progress) : Except Stop Progress :=
  match p.pending with
  | .nothing => .ok p
  | .awaits _ => .error .usage
  | .holds o value => p.record o (some value)

/-- The progress once an option is given, with the value attached to it. -/
def give (p : Progress) (o : OptionSpec) (value : Option String) : Except Stop Progress := do
  let p ← p.settle
  match o.kind with
  | .version => .error .version
  | .help => .error .help
  | _ => p.record o value

/-- The progress after an option with a value, which is attached to it or must come next. -/
def take (p : Progress) (o : OptionSpec) (attached : Option String) : Except Stop Progress :=
  match attached with
  | some value => p.give o (some value)
  | none => do
    let p ← p.settle
    return { p with pending := .awaits o }

end Progress

namespace Level

/-- The option with a long name. -/
def long? (l : Level) (name : String) : Option OptionSpec := l.options.find? fun o => o.long = name

/-- The option with a short name. -/
def short? (l : Level) (c : Char) : Option OptionSpec :=
  l.options.find? fun o => o.short = some c

/-- A long option: its name, and the value attached to it by a sign. -/
def longParts? (token : String) : Option (String × Option String) :=
  match token.toList with
  | '-' :: '-' :: c :: rest =>
    let s := c :: rest
    match s.dropWhile (· ≠ '=') with
    | [] => some (String.ofList s, none)
    | _ :: value => some (String.ofList (s.takeWhile (· ≠ '=')), some (String.ofList value))
  | _ => none

/-- The letters of short options in one token. -/
def shortLetters? (token : String) : Option (List Char) :=
  match token.toList with
  | '-' :: c :: rest => if c = '-' then none else some (c :: rest)
  | _ => none

/-- The progress after short options: flags one after the other, and at most one option with a
value, which is what follows its letter. -/
def cluster (l : Level) (p : Progress) : List Char → Except Stop Progress
  | [] => .ok p
  | c :: rest =>
    match l.short? c with
    | none => .error .usage
    | some o =>
      if o.takesValue then
        match rest with
        | [] => p.take o none
        | '=' :: value => p.take o (some (String.ofList value))
        | value => p.take o (some (String.ofList value))
      else do
        let p ← p.give o none
        l.cluster p rest

/-- What a token is while options may still come. -/
inductive TokenKind
  | subcommand
  | endOfOptions
  | long (o : OptionSpec) (attached : Option String)
  | shorts (letters : List Char)
  /-- An option that the level does not know. -/
  | unknown
  | plain
  deriving DecidableEq, Repr

/-- What a token is; `waiting` says that an option waits for its value. -/
def kindOf (l : Level) (waiting : Bool) (token : String) : TokenKind :=
  if !waiting && l.subcommands.contains token then .subcommand
  else if token = "--" then .endOfOptions
  else
    match longParts? token, shortLetters? token with
    | some (name, attached), _ =>
      match l.long? name with
      | some o => .long o attached
      | none => if l.operands.passOn then .plain else .unknown
    | none, some letters =>
      if l.operands.passOn && letters.any (fun c => (l.short? c).isNone) then .plain
      else .shorts letters
    | none, none => .plain

/-- The progress after the tokens of a level, up to a subcommand of it. -/
def scan (l : Level) : Progress → List String → Except Stop (Progress × Option Continuation)
  | p, [] => .ok (p, none)
  | p, token :: rest =>
    match if p.ended then TokenKind.plain else l.kindOf p.waits token with
    | .subcommand => .ok (p, some (token, rest))
    | .endOfOptions => l.scan { p with ended := true } rest
    | .unknown => .error .usage
    | .shorts letters => do
      let p ← l.cluster p letters
      l.scan p rest
    | .long o attached =>
      if o.takesValue then do
        let p ← p.take o attached
        l.scan p rest
      else if attached.isSome then .error .usage
      else do
        let p ← p.give o none
        l.scan p rest
    | .plain =>
      match p.ended, p.pending with
      | false, .awaits o => l.scan { p with pending := .holds o token } rest
      | _, _ => do
        let p ← p.settle
        match l.operands with
        | .none => .error .usage
        | .one _ =>
          if p.operands.isEmpty then l.scan { p with operands := [token] } rest
          else .error .usage
        | .trailing _ => .ok ({ p with operands := token :: rest }, none)

/-- What the environment gives for an option: an empty variable is no path. -/
def standIn (environment : String → Option OsText) (o : OptionSpec) :
    Except Stop (Option Given) :=
  match o.environment.bind environment with
  | none => .ok none
  | some value =>
    if o.kind = .path && value = "" then .error .usage else .ok (some ⟨o.long, some value⟩)

/-- The reading of a level whose tokens are all read. -/
def finish (l : Level) (environment : String → Option OsText) (p : Progress) :
    Except Stop Reading := do
  let p ← p.settle
  let standIns ← (l.options.filter fun o => !p.has o.long).filterMapM (standIn environment)
  if l.operands.suffice p.operands then return ⟨p.given, standIns, p.operands⟩
  else throw .usage

end Level

namespace Reading

/-- The value given for an option that takes one. -/
def given? (r : Reading) (long : String) : Option OsText :=
  (r.given.find? fun g => g.long = long).bind (·.value)

/-- The value that the environment gives for an option. -/
def standIn? (r : Reading) (long : String) : Option OsText :=
  (r.standIns.find? fun g => g.long = long).bind (·.value)

/-- The value of an option. -/
def value? (r : Reading) (long : String) : Option OsText := (r.given? long).or (r.standIn? long)

/-- The option was given. -/
def has (r : Reading) (long : String) : Bool := r.given.any fun g => g.long = long

end Reading

end Suite.Cli
