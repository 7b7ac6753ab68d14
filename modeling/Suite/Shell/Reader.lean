import Suite.Shell.Command
import Suite.Text.Pieces

/-!
# Reading words

A `Reader` goes through a script character by character and divides it into tokens: words,
operators, redirections and line ends. Commands inside words are read by whatever reads commands,
which the functions here take as an argument. The documents that redirections announce are read
where the line ends; commands refer to them by number. A word in front of a command may be an alias,
whose text is read in its place.
-/

namespace Suite.Shell

/-- Where a script is broken. -/
structure Broken where
  line : Nat
  message : String
  deriving DecidableEq, Repr

/-- What a redirection announces. -/
inductive Arrow
  | plain (kind : RedirectionKind)
  /-- A document, whose lines may begin with tabs that do not count. -/
  | document (dropTabs : Bool)
  deriving DecidableEq, Repr

/-- A part of a line. -/
inductive Token
  | ending
  | newline
  | operator (text : String)
  | redirection (channel : Nat) (arrow : Arrow)
  | word (w : Word)
  /-- A word that stands for a part of a command. -/
  | keyword (text : String)

/-- How messages name a token. -/
def Token.label : Token → String
  | .ending => "end of file"
  | .newline => "newline"
  | .operator text | .keyword text => "\"" ++ text ++ "\""
  | .redirection _ _ => "redirection"
  | .word _ => "word"

/-- The words that stand for parts of commands. -/
def keywords : List String :=
  ["!", "case", "do", "done", "elif", "else", "esac", "fi", "for", "if", "in", "then", "until",
   "while", "\x7b", "\x7d"]

/-- The token where such words count. -/
def Token.asKeyword : Token → Token
  | .word w =>
    match w.plain? with
    | some s =>
      if keywords.contains (String.ofList s) then .keyword (String.ofList s) else .word w
    | none => .word w
  | t => t

/-- A document that has been announced. -/
structure Pending where
  number : Nat
  dropTabs : Bool
  /-- The document stands for itself. -/
  quoted : Bool
  delimiter : List Char

/-- The text of an alias that is being read. -/
structure Expansion where
  name : String
  /-- The text ends with a blank, so that the word after it may be an alias too. -/
  blank : Bool
  /-- Aliases that had just been read when the text began. -/
  before : List String

/-- Where the reading of a script stands. -/
structure Reader where
  /-- What is left to read; a mark stands where the text of an alias ends. -/
  rest : List Char
  line : Nat := 1
  /-- The aliases with their texts. -/
  aliases : List (String × String) := []
  /-- The aliases whose texts are being read, the innermost one first. -/
  expanding : List Expansion := []
  /-- The aliases whose texts end right here. They are no aliases yet again. -/
  fading : List String := []
  /-- The next word may be an alias wherever it stands. -/
  mayExpand : Bool := false
  /-- A token that was read too early. -/
  held : Option Token := none
  /-- The token read last. -/
  last : Token := .newline
  documents : Array Word := #[]
  pending : List Pending := []

/-- Reads a part of a script. -/
abbrev Reading := StateT Reader (Except Broken)

/-- Enough steps for what is left to read and the texts of aliases in it. -/
def Reader.steps (r : Reader) : Nat :=
  8 * r.rest.length + 64 + if r.aliases.isEmpty then 0 else Nat.pow 2 40

/-- The mark at the end of the text of an alias; no octet. -/
def aliasEnd : Char := '\u0100'

/-- The reader past the end of the text of an alias. -/
def Reader.leave (r : Reader) : Reader :=
  match r.expanding with
  | [] => r
  | e :: outer =>
    { r with
      expanding := outer, fading := e.name :: e.before, mayExpand := r.mayExpand || e.blank }

/-- The reader past all ends of the texts of aliases among characters. -/
def Reader.leaveAll (r : Reader) (passed : List Char) : Reader :=
  passed.foldl (fun r c => if c = aliasEnd then r.leave else r) r

/-- The reader once more characters have been read. -/
def Reader.goOn (r : Reader) : Reader := if r.fading.isEmpty then r else { r with fading := [] }

/-- The text of the alias that a word is, unless it stands in that text itself. -/
def Reader.alias? (r : Reader) (t : Token) : Option (String × String) :=
  match t with
  | .word w => do
    let name := String.ofList (← w.plain?)
    let text ← r.aliases.lookup name
    let busy := r.fading.contains name ||
      r.expanding.any fun e => e.name = name || e.before.contains name
    if busy then none else some (name, text)
  | _ => none

/-- The reader in front of the text of an alias. -/
def Reader.expand (r : Reader) (name text : String) : Reader :=
  if text = "" then r
  else
    let blank := text.toList.getLast? = some ' ' || text.toList.getLast? = some '\t'
    { r with
      rest := text.toList ++ aliasEnd :: r.rest
      expanding := ⟨name, blank, r.fading⟩ :: r.expanding
      fading := [] }

/-- The script is broken here. -/
def broken {α : Type} (message : String) : Reading α := do
  throw ⟨(← get).line, "Syntax error: " ++ message⟩

/-- The token read last cannot stand here. -/
def unexpected {α : Type} (expected : Option String) : Reading α := do
  let found := (← get).last.label ++ " unexpected"
  match expected with
  | some e => broken (found ++ " (expecting " ++ e ++ ")")
  | none => broken found

/-- The reader after line ends that a backslash takes back and after the ends of the texts of
aliases; `rest` is what is left to read. -/
def Reader.settled (r : Reader) : List Char → Reader
  | '\\' :: '\n' :: rest => settled { r with line := r.line + 1 } rest
  | c :: rest => if c = aliasEnd then settled r.leave rest else { r with rest := c :: rest }
  | [] => { r with rest := [] }

/-- The next character. -/
def peek : Reading (Option Char) := do
  modify fun r => r.settled r.rest
  return (← get).rest.head?

/-- Goes past the next character. -/
def advance : Reading Unit :=
  modify fun r =>
    match r.rest with
    | '\n' :: rest => { r.goOn with rest, line := r.line + 1 }
    | _ :: rest => { r.goOn with rest }
    | [] => r

/-- The next characters as long as they are of a kind, after those of `acc`, the last one first, and
the reader after them. -/
def Reader.spanning (p : Char → Bool) (r : Reader) (acc : List Char) :
    List Char → List Char × Reader
  | c :: rest =>
    if c = aliasEnd then spanning p r.leave acc rest
    else if p c then spanning p r.goOn (c :: acc) rest
    else (acc.reverse, { r with rest := c :: rest })
  | [] => (acc.reverse, { r with rest := [] })

/-- The next characters as long as they are of a kind. -/
def span (p : Char → Bool) : Reading (List Char) := do
  let r ← get
  let (front, r) := r.spanning p [] r.rest
  set { r with line := r.line + front.count '\n' }
  return front

/-- Gives a token back. -/
def hold (t : Token) : Reading Unit := modify fun r => { r with held := some t }

/-- What a piece of a word stands in. -/
inductive Setting
  | bare
  /-- The word that ends a document. -/
  | delimiter
  /-- Double quotes; `plain` if nothing in them is replaced. -/
  | quotes (plain : Bool)
  /-- Braces after the name of a parameter. -/
  | braces (quoted : Bool)
  | document
  /-- A sum, inside so many brackets. -/
  | sum (depth : Nat)
  deriving DecidableEq, Repr

namespace Setting

/-- What stands here is not divided into fields. -/
def quoted : Setting → Bool
  | .bare | .delimiter | .braces false => false
  | _ => true

/-- Characters that end a word. -/
def blanks : List Char := " \t\n;&|<>()".toList

/-- The characters that do not stand for themselves. -/
def special : Setting → List Char
  | .bare => blanks ++ "'\"\\$\x60".toList
  | .delimiter => blanks ++ "'\"\\".toList
  | .quotes true => "\"\\".toList
  | .quotes false => "\"\\$\x60".toList
  | .braces false => "\x7d'\"\\$\x60".toList
  | .braces true => "\x7d\"\\$\x60".toList
  | .document => "\\$\x60".toList
  | .sum _ => "()\\$\x60".toList

/-- The characters that a backslash makes stand for themselves; elsewhere the backslash stays. -/
def escapable : Setting → Option (List Char)
  | .bare | .delimiter | .braces false => none
  | .quotes _ | .sum _ => some "\\\x60$\"".toList
  | .braces true => some "\\\x60$\"\x7d".toList
  | .document => some "\\\x60$".toList

/-- The character that ends what stands here. -/
def closing : Setting → Option Char
  | .quotes _ => some '"'
  | .braces _ => some '\x7d'
  | _ => none

/-- What is missing if the script ends here. -/
def missing : Setting → Option String
  | .bare | .delimiter | .document => none
  | .quotes _ | .braces true => some "Unterminated quoted string"
  | .braces false => some "Missing '\x7d'"
  | .sum _ => some "Missing '))'"

end Setting

/-- The text in backquotes and the characters after it, with those of `acc` in front, the last one
first. -/
def backquoted (quoted : Bool) (acc : List Char) : List Char → Option (List Char × List Char)
  | [] => none
  | '\\' :: '\n' :: rest => backquoted quoted acc rest
  | '\u0100' :: rest => backquoted quoted acc rest
  | '\\' :: c :: rest =>
    if c = '\\' || c = '\x60' || c = '$' || (quoted && c = '"') then
      backquoted quoted (c :: acc) rest
    else backquoted quoted (c :: '\\' :: acc) rest
  | c :: rest => if c = '\x60' then some (acc.reverse, rest) else backquoted quoted (c :: acc) rest

/-- What a character after the name of a parameter asks for. -/
def Fallback.of? (c : Char) : Option Fallback :=
  match c with
  | '-' => some .use
  | '=' => some .assign
  | '?' => some .demand
  | '+' => some .instead
  | _ => none

/-- The command in backquotes. -/
def backquotedCommand (inside : Reading Command) (quoted : Bool) : Reading Command := do
  let r ← get
  match backquoted quoted [] r.rest with
  | none =>
    modify fun r => { r with line := r.line + r.rest.count '\n' }
    broken "EOF in backquote substitution"
  | some (text, rest) =>
    let (c, sub) ← inside.run { rest := text, documents := r.documents, aliases := r.aliases }
    let passed := r.rest.take (r.rest.length - rest.length)
    set { r.leaveAll passed with
      rest, line := r.line + passed.count '\n', documents := sub.documents }
    return c

/-- The command in brackets after a dollar. -/
def bracketedCommand (inside : Reading Command) : Reading Command := do
  let outer := (← get).pending
  modify fun r => { r with pending := [] }
  let c ← inside
  match (← get).held with
  | some (.operator ")") => pure ()
  | other =>
    modify fun r => { r with last := other.getD r.last }
    unexpected (some "\")\"")
  modify fun r => { r with pending := outer, held := none }
  return c

mutual

/-- The pieces up to the end of what they stand in; `steps` bounds the recursion, and `inside` reads
the commands in brackets. -/
def pieces (inside : Reading Command) : Nat → Setting → Reading Word
  | 0, _ => broken "word unexpected"
  | steps + 1, setting => do
    let plain ← span fun c => !setting.special.contains c
    let w ← specialPieces inside steps setting
    return if plain.isEmpty then w else w.withText setting.quoted plain

/-- The pieces from a character on that does not stand for itself. -/
def specialPieces (inside : Reading Command) : Nat → Setting → Reading Word
  | 0, _ => broken "word unexpected"
  | steps + 1, setting => do
    match ← peek with
    | none =>
      match setting.missing with
      | some what => broken what
      | none => return []
    | some c =>
      if !setting.special.contains c then pieces inside steps setting
      else if setting.closing = some c then
        advance
        return []
      else if c = '\\' then
        advance
        match (← get).rest with
        | [] => return (← pieces inside steps setting).withText true ['\\']
        | d :: _ =>
          advance
          let shown := match setting.escapable with
            | some cs => if cs.contains d then [d] else ['\\', d]
            | none => [d]
          return (← pieces inside steps setting).withText true shown
      else if c = '\'' then
        advance
        let text ← span (· ≠ '\'')
        if (← get).rest.isEmpty then broken "Unterminated quoted string"
        else
          advance
          let w ← pieces inside steps setting
          return .mark :: w.withText true text
      else if c = '"' then
        advance
        let text ← pieces inside steps (.quotes (setting = .delimiter))
        let w ← pieces inside steps setting
        return .mark :: text ++ .mark :: w
      else if c = '$' then
        advance
        let found ← dollarPieces inside steps setting.quoted
        return found ++ (← pieces inside steps setting)
      else if c = '\x60' then
        advance
        let body ← backquotedCommand inside setting.quoted
        return .script setting.quoted body :: (← pieces inside steps setting)
      else
        match setting with
        | .sum depth =>
          advance
          if c = '(' then
            return (← pieces inside steps (.sum (depth + 1))).withText true ['(']
          else if 0 < depth then
            return (← pieces inside steps (.sum (depth - 1))).withText true [')']
          else if (← peek) = some ')' then
            advance
            return []
          else return (← pieces inside steps setting).withText true [')']
        | _ => return []

/-- What a dollar begins. -/
def dollarPieces (inside : Reading Command) : Nat → Bool → Reading Word
  | 0, _ => broken "word unexpected"
  | steps + 1, quoted => do
    match ← peek with
    | some '(' =>
      advance
      if (← peek) = some '(' then
        advance
        return [.sum quoted (← pieces inside steps (.sum 0))]
      else return [.script quoted (← bracketedCommand inside)]
    | some '\x7b' =>
      advance
      bracedPieces inside steps quoted
    | some c =>
      if beginsName c then return [.parameter quoted (String.ofList (← span inName))]
      else if isSpecial c then
        advance
        return [.parameter quoted c.toString]
      else return [.text quoted ['$']]
    | none => return [.text quoted ['$']]

/-- What stands in braces after a dollar. -/
def bracedPieces (inside : Reading Command) : Nat → Bool → Reading Word
  | 0, _ => broken "word unexpected"
  | steps + 1, quoted => do
    match ← peek with
    | none | some '\x7d' => malformedPieces inside steps quoted
    | some c =>
      if beginsName c then operationPieces inside steps quoted (String.ofList (← span inName))
      else if c.isDigit then
        operationPieces inside steps quoted (String.ofList (← span Char.isDigit))
      else
        advance
        let after ← peek
        match if c = '#' then after else none with
        | some d =>
          if inName d then
            let name ← if beginsName d then span inName else span Char.isDigit
            if (← peek) = some '\x7d' then
              advance
              return [.length quoted (String.ofList name)]
            else malformedPieces inside steps quoted
          else
            advance
            -- A sign between `#` and the closing brace is measured, not applied to the count.
            if d ≠ '\x7d' && (← peek) = some '\x7d' then
              if isSpecial d then
                advance
                return [.length quoted d.toString]
              else malformedPieces inside steps quoted
            else
              modify fun r => { r with rest := d :: r.rest }
              operationPieces inside steps quoted "#"
        | none =>
          if isSpecial c then operationPieces inside steps quoted c.toString
          else malformedPieces inside steps quoted

/-- What follows the name of a parameter in braces. -/
def operationPieces (inside : Reading Command) : Nat → Bool → String → Reading Word
  | 0, _, _ => broken "word unexpected"
  | steps + 1, quoted, name => do
    match ← peek with
    | none => malformedPieces inside steps quoted
    | some '\x7d' =>
      advance
      return [.parameter quoted name]
    | some ':' =>
      advance
      match ← peek with
      | none => malformedPieces inside steps quoted
      | some '\x7d' =>
        advance
        return [.parameter quoted name]
      | some c =>
        advance
        match Fallback.of? c with
        | some kind =>
          return [.fallback quoted name kind true (← pieces inside steps (.braces quoted))]
        | none => malformedPieces inside steps quoted
    | some c =>
      advance
      if c = '%' || c = '#' then
        let longest := (← peek) = some c
        if longest then advance
        return [.trim quoted name (c = '%') longest (← pieces inside steps (.braces false))]
      else
        match Fallback.of? c with
        | some kind =>
          return [.fallback quoted name kind false (← pieces inside steps (.braces quoted))]
        | none => malformedPieces inside steps quoted

/-- Braces that say nothing, up to their end. -/
def malformedPieces (inside : Reading Command) : Nat → Bool → Reading Word
  | 0, _ => broken "word unexpected"
  | steps + 1, quoted => do
    let _ ← pieces inside steps (.braces quoted)
    return [.malformed]

end

/-- The pieces of what is left, with as many steps as it needs. -/
def allPieces (inside : Reading Command) (setting : Setting) : Reading Word := do
  pieces inside (← get).steps setting

/-- The reader after blanks and a comment. -/
def Reader.pastBlanks (r : Reader) : Bool → List Char → Reader
  | true, '\n' :: rest => { r with rest := '\n' :: rest }
  | false, '\\' :: '\n' :: rest => pastBlanks { r with line := r.line + 1 } false rest
  | comment, c :: rest =>
    if c = aliasEnd then pastBlanks r.leave comment rest
    else if comment || c = ' ' || c = '\t' then pastBlanks r.goOn comment rest
    else if c = '#' then pastBlanks r.goOn true rest
    else { r with rest := c :: rest }
  | _, [] => { r with rest := [] }

/-- One of two operators of which the longer one repeats the character. -/
def doubled (c : Char) : Reading Token := do
  advance
  if (← peek) = some c then
    advance
    return .operator (String.ofList [c, c])
  else return .operator c.toString

/-- The redirection that an arrow begins. -/
def arrowToken (channel : Option Nat) (c : Char) : Reading Token := do
  advance
  let next ← peek
  if c = '>' then
    let kind : Option RedirectionKind := match next with
      | some '>' => some .append
      | some '|' => some .overwrite
      | some '&' => some .copy
      | _ => none
    if kind.isSome then advance
    return .redirection (channel.getD 1) (.plain (kind.getD .write))
  else
    match next with
    | some '<' =>
      advance
      let dropTabs := (← peek) = some '-'
      if dropTabs then advance
      return .redirection (channel.getD 0) (.document dropTabs)
    | some '&' =>
      advance
      return .redirection (channel.getD 0) (.plain .copy)
    | some '>' =>
      advance
      return .redirection (channel.getD 0) (.plain .readWrite)
    | _ => return .redirection (channel.getD 0) (.plain .read)

/-- The next token of the script itself. -/
def freshToken (inside : Reading Command) (setting : Setting) : Reading Token := do
  modify fun r => r.pastBlanks false r.rest
  match (← get).rest with
  | [] => return .ending
  | '\n' :: _ =>
    advance
    return .newline
  | c :: rest =>
    if c = '&' || c = '|' || c = ';' then doubled c
    else if c = '(' || c = ')' then
      advance
      return .operator c.toString
    else if c = '<' || c = '>' then arrowToken none c
    else
      match if c.isDigit then rest.head? else none with
      | some '<' =>
        advance
        arrowToken (some (c.toNat - 48)) '<'
      | some '>' =>
        advance
        arrowToken (some (c.toNat - 48)) '>'
      | _ => return .word (← allPieces inside setting)

/-- The lines of a document, those after it, and how many lines it takes with the one that ends it.
In a document that does not stand for itself a backslash at the end of a line takes the line end
back. -/
def documentLines (p : Pending) (continued : Bool) :
    List (List Char) → List Char × List (List Char) × Nat
  | [] => ([], [], 0)
  | line :: rest =>
    let line := if p.dropTabs && !continued then line.dropWhile (· = '\t') else line
    if !continued && line = p.delimiter then ([], rest, 1)
    else
      let open_ := !p.quoted && (line.reverse.takeWhile (· = '\\')).length % 2 = 1
      let (more, after, count) := documentLines p open_ rest
      (line ++ (if rest.isEmpty then [] else '\n' :: more), after, count + 1)

/-- Reads the documents that have been announced. -/
def readDocuments (inside : Reading Command) : Reading Unit := do
  for p in (← get).pending do
    modify fun r => { r.leaveAll r.rest with rest := r.rest.filter (· ≠ aliasEnd) }
    let r ← get
    let (body, after, count) := documentLines p false (Text.pieces '\n' r.rest)
    let (w, sub) ←
      if p.quoted then pure (([.text true body] : Word), r)
      else
        (allPieces inside .document).run
          { rest := body, line := r.line, documents := r.documents }
    set { r with
      rest := ['\n'].intercalate after
      line := r.line + count
      documents := sub.documents.set! p.number w }
  modify fun r => { r with pending := [] }

/-- What a token is looked at for. -/
structure Look where
  /-- Words that stand for parts of commands are told apart. -/
  keywords : Bool := false
  /-- Line ends are left out. -/
  lines : Bool := false
  /-- A word may be an alias. -/
  aliases : Bool := false

/-- A token with which a command may begin. -/
def Look.start (lines : Bool) : Look := ⟨true, lines, true⟩

/-- A token with which a case may begin. -/
def Look.case : Look := ⟨true, true, false⟩

/-- The next token. -/
def nextToken (inside : Reading Command) (look : Look) : Nat → Reading Token
  | 0 => return .ending
  | steps + 1 => do
    let r ← get
    let t ← match r.held with
      | some t => do
        set { r with held := none }
        pure t
      | none => freshToken inside .bare
    match t, look.lines with
    | .newline, true => do
      readDocuments inside
      modify fun r => { r with mayExpand := false }
      nextToken inside look steps
    | t, _ => do
      let r ← get
      let look := { look with aliases := look.aliases || r.mayExpand }
      let t := if look.keywords then t.asKeyword else t
      match if look.aliases then r.alias? t else none with
      | some (name, text) => do
        set ({ r with mayExpand := false }.expand name text)
        nextToken inside look steps
      | none => do
        set { r with mayExpand := false, last := t }
        return t

/-- The redirection that an arrow announces, with the word after it. -/
def redirectionAt (inside : Reading Command) (channel : Nat) (arrow : Arrow) :
    Reading (Redirection Word) := do
  let setting : Setting := match arrow with
    | .document _ => .delimiter
    | .plain _ => .bare
  let t ← freshToken inside setting
  modify fun r => { r with last := t }
  match t with
  | .word w =>
    match arrow with
    | .plain kind => return { channel, kind, target := w }
    | .document dropTabs =>
      let r ← get
      let number := r.documents.size
      let announced : Pending := ⟨number, dropTabs, w.hasQuotes, w.characters⟩
      set { r with
        documents := r.documents.push []
        pending := r.pending ++ [announced] }
      return { channel, kind := .document number, target := [] }
  | _ => unexpected none

end Suite.Shell
