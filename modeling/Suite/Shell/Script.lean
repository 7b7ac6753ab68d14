import Suite.Shell.Reader

/-!
# Reading commands

`Reader.command?` reads the next line of a script, with all that a command on it goes on to. The
functions below follow the grammar: lists of alternatives, of pipelines, of commands. In all of them
`steps` bounds the recursion.
-/

namespace Suite.Shell

/-- How far a list of commands goes. -/
inductive Extent
  /-- To the end of the line. -/
  | line
  /-- To the word that ends a part of a command, with a command before it. -/
  | inner
  /-- To the word that ends a part of a command. -/
  | open_
  deriving DecidableEq, Repr

/-- The token ends a part of a command. -/
def Token.endsPart : Token → Bool
  | .ending => true
  | .operator text => text = ")" || text = ";;"
  | .keyword text => ["do", "done", "elif", "else", "esac", "fi", "then", "\x7d"].contains text
  | _ => false

/-- The token is the operator or the word of this text. -/
def Token.isText (t : Token) (text : String) : Bool :=
  match t with
  | .operator s | .keyword s => s = text
  | _ => false

/-- The commands that no function can take the place of. -/
def specialCommands : List String :=
  [".", ":", "break", "continue", "eval", "exec", "exit", "export", "local", "readonly", "return",
   "set", "shift", "times", "trap", "unset"]

/-- All arguments, each a word of its own. -/
def allArguments : Word := [.mark, .parameter true "@", .mark]

/-- The parts of a simple command, the last ones first. -/
structure Parts where
  assignments : List (String × Word) := []
  words : List Word := []
  redirections : List (Redirection Word) := []

/-- The commands that were read, the last one first, as one command. -/
def Command.ofReversed : List Command → Command
  | [c] => c
  | cs => .sequence cs.reverse

/-- The word of a token that stands as a pattern. -/
def Token.pattern : Token → Word
  | .word w => w
  | .operator s | .keyword s => [.text false s.toList]
  | _ => []

/-- The text of a token in messages about what is expected. -/
def expected (text : String) : Option String := some ("\"" ++ text ++ "\"")

/-- The commands in brackets, if there are any. -/
def orNothing (c : Reading (Option Command)) : Reading Command := do return (← c).getD default

mutual

/-- A list of commands, after those of `acc`, the last one first; nothing at the end of the
script. -/
def commands : Nat → Extent → List Command → Reading (Option Command)
  | 0, _, _ => unexpected none
  | steps + 1, extent, acc => do
    let inside := orNothing (commands steps .open_ [])
    match ← nextToken inside (.start (extent ≠ .line)) steps with
    | .newline => do
      readDocuments inside
      return some (.ofReversed acc)
    | .ending => do
      readDocuments inside
      hold .ending
      return if extent = .line && acc.isEmpty then none else some (.ofReversed acc)
    | t => do
      hold t
      if extent ≠ .line && (extent = .open_ || !acc.isEmpty) && t.endsPart then
        return some (.ofReversed acc)
      else
        let c ← alternatives steps (extent ≠ .line)
        let t ← nextToken inside {} steps
        let acc := (if t.isText "&" then .background c else c) :: acc
        if t.isText ";" || t.isText "&" then commands steps extent acc
        else
          match t with
          | .ending => do
            readDocuments inside
            hold t
            return some (.ofReversed acc)
          | .newline => do
            hold t
            commands steps extent acc
          | _ =>
            if extent = .line then unexpected none
            else do
              hold t
              return some (.ofReversed acc)

/-- Pipelines joined by success and failure. -/
def alternatives : Nat → Bool → Reading Command
  | 0, _ => unexpected none
  | steps + 1, lines => do moreAlternatives steps (← pipeline steps lines)

/-- What follows a pipeline after success or failure. -/
def moreAlternatives : Nat → Command → Reading Command
  | 0, _ => unexpected none
  | steps + 1, first => do
    let t ← nextToken (orNothing (commands steps .open_ [])) {} steps
    if t.isText "&&" then moreAlternatives steps (.both first (← pipeline steps true))
    else if t.isText "||" then moreAlternatives steps (.either first (← pipeline steps true))
    else
      hold t
      return first

/-- Commands joined by pipes, perhaps negated. -/
def pipeline : Nat → Bool → Reading Command
  | 0, _ => unexpected none
  | steps + 1, lines => do
    let t ← nextToken (orNothing (commands steps .open_ [])) (.start lines) steps
    let negated := t.isText "!"
    if !negated then hold t
    let c ← command steps false
    let c ← morePiped steps [c]
    return if negated then .negated c else c

/-- What follows a command after pipes. -/
def morePiped : Nat → List Command → Reading Command
  | 0, _ => unexpected none
  | steps + 1, acc => do
    let t ← nextToken (orNothing (commands steps .open_ [])) {} steps
    if t.isText "|" then morePiped steps ((← command steps true) :: acc)
    else
      hold t
      match acc with
      | [c] => return c
      | _ => return .piped acc.reverse

/-- One command. -/
def command : Nat → Bool → Reading Command
  | 0, _ => unexpected none
  | steps + 1, lines => do
    let inside := orNothing (commands steps .open_ [])
    let part := orNothing (commands steps .inner [])
    let close (c : Command) (text : String) : Reading Command := do
      if (← nextToken inside (.start false) steps).isText text then return c
      else unexpected (expected text)
    let line := (← get).line
    match ← nextToken inside (.start lines) steps with
    | .keyword "if" => do
      let c ← branches steps
      redirected steps line (← close c "fi") []
    | .keyword "while" => do
      let condition ← part
      let _ ← close default "do"
      let body ← part
      redirected steps line (← close (.repeated false condition body) "done") []
    | .keyword "until" => do
      let condition ← part
      let _ ← close default "do"
      let body ← part
      redirected steps line (← close (.repeated true condition body) "done") []
    | .keyword "for" => do
      let name ← match ← nextToken inside {} steps with
        | .word w =>
          match w.plain? with
          | some s => if isName s then pure (String.ofList s) else broken "Bad for loop variable"
          | none => broken "Bad for loop variable"
        | _ => broken "Bad for loop variable"
      let t ← nextToken inside (.start true) steps
      let words ←
        if t.isText "in" then wordsToEnd steps []
        else do
          if !t.isText ";" then hold t
          pure [allArguments]
      if !(← nextToken inside (.start true) steps).isText "do" then unexpected (expected "do")
      let body ← part
      redirected steps line (← close (.forEach line name words body) "done") []
    | .keyword "case" => do
      match ← nextToken inside {} steps with
      | .word w => do
        if !(← nextToken inside (.start true) steps).isText "in" then unexpected (expected "in")
        redirected steps line (.choice line w (← cases steps [])) []
      | _ => unexpected (some "word")
    | .keyword "\x7b" => do
      let body ← part
      redirected steps line (← close body "\x7d") []
    | .operator "(" => do
      let body ← part
      redirected steps line (← close (.apart line body []) ")") []
    | .word w => do
      hold (.word w)
      simple steps (← get).line {}
    | .redirection channel arrow => do
      hold (.redirection channel arrow)
      simple steps (← get).line {}
    | _ => unexpected none

/-- What follows the word that begins a branch. -/
def branches : Nat → Reading Command
  | 0 => unexpected none
  | steps + 1 => do
    let inside := orNothing (commands steps .open_ [])
    let part := orNothing (commands steps .inner [])
    let condition ← part
    if !(← nextToken inside (.start false) steps).isText "then" then unexpected (expected "then")
    let yes ← part
    let t ← nextToken inside (.start false) steps
    if t.isText "elif" then return .branch condition yes (← branches steps)
    else if t.isText "else" then return .branch condition yes (← part)
    else
      hold t
      return .branch condition yes default

/-- The cases of a choice, after those of `acc`, the last one first. -/
def cases : Nat → List (List Word × Command) → Reading (List (List Word × Command))
  | 0, _ => unexpected none
  | steps + 1, acc => do
    let inside := orNothing (commands steps .open_ [])
    let t ← nextToken inside .case steps
    if t.isText "esac" then return acc.reverse
    else
      let t ← if t.isText "(" then nextToken inside {} steps else pure t
      let found ← patterns steps [t.pattern]
      let body ← inside
      let acc := (found, body) :: acc
      let t ← nextToken inside .case steps
      if t.isText "esac" then return acc.reverse
      else if t.isText ";;" then cases steps acc
      else unexpected (expected ";;")

/-- The patterns of a case, after those of `acc`, the last one first. -/
def patterns : Nat → List Word → Reading (List Word)
  | 0, _ => unexpected none
  | steps + 1, acc => do
    let inside := orNothing (commands steps .open_ [])
    let t ← nextToken inside {} steps
    if t.isText "|" then
      let t ← nextToken inside {} steps
      patterns steps (t.pattern :: acc)
    else if t.isText ")" then return acc.reverse
    else unexpected (expected ")")

/-- The words up to the end of the line, after those of `acc`, the last one first. -/
def wordsToEnd : Nat → List Word → Reading (List Word)
  | 0, _ => unexpected none
  | steps + 1, acc => do
    match ← nextToken (orNothing (commands steps .open_ [])) {} steps with
    | .word w => wordsToEnd steps (w :: acc)
    | .newline | .operator ";" => return acc.reverse
    | _ => unexpected none

/-- A command with the redirections that follow it, after those of `acc`, the last one first. -/
def redirected : Nat → Nat → Command → List (Redirection Word) → Reading Command
  | 0, _, _, _ => unexpected none
  | steps + 1, line, c, acc => do
    let inside := orNothing (commands steps .open_ [])
    match ← nextToken inside (.start false) steps with
    | .redirection channel arrow => do
      redirected steps line c ((← redirectionAt inside channel arrow) :: acc)
    | t => do
      hold t
      match acc, c with
      | [], _ => return c
      | _, .apart l body _ => return .apart l body acc.reverse
      | _, _ => return .redirected line c acc.reverse

/-- A simple command on a line, after the parts read so far. -/
def simple : Nat → Nat → Parts → Reading Command
  | 0, _, _ => unexpected none
  | steps + 1, line, parts => do
    let inside := orNothing (commands steps .open_ [])
    let whole : Command :=
      .simple line parts.assignments.reverse parts.words.reverse parts.redirections.reverse
    match ← nextToken inside { aliases := parts.words.isEmpty } steps with
    | .word w => do
      match if parts.words.isEmpty then w.assignment? else none with
      | some a => simple steps line { parts with assignments := a :: parts.assignments }
      | none => simple steps line { parts with words := w :: parts.words }
    | .redirection channel arrow => do
      let r ← redirectionAt inside channel arrow
      simple steps line { parts with redirections := r :: parts.redirections }
    | t => do
      match t.isText "(", parts with
      | true, ⟨[], [w], []⟩ => do
        if !(← nextToken inside {} steps).isText ")" then unexpected (expected ")")
        let name := (w.plain?.getD []).filter fun c => c ≠ '\x00'
        if !isName name || specialCommands.contains (String.ofList name) then
          broken "Bad function name"
        return .function (String.ofList name) (← command steps true)
      | _, _ => do
        hold t
        return whole

end

/-- The commands of the next line, nothing at the end of the script. -/
def Reader.command? (r : Reader) : Except Broken (Option Command × Reader) :=
  (commands r.steps .line []).run { r with held := none, pending := [] }

end Suite.Shell
