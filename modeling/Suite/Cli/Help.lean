import Suite.Cli.Invocation
import Suite.Cli.Report

/-!
# Help

The help for a command: what it is for, how it is written, and tables of the commands, arguments and
options that may follow.
-/

namespace Suite.Cli

/-- A row of a table. -/
structure Entry where
  label : String
  about : String
  deriving DecidableEq, Repr

/-- The width of a line of help. -/
def helpWidth : Nat := 100

/-- What a row needs besides its label and its text. -/
def rowMargin : Nat := 12

/-- A label that takes more than this part of the line, in percent, is wide. -/
def widePercent : Nat := 40

/-- The length of the longest label. -/
def longestLabel (es : List Entry) : Nat := (es.map (·.label.length)).foldl max 0

/-- The text of a row does not fit beside labels that are wide. -/
def overflows (longest : Nat) (e : Entry) : Bool :=
  let taken := longest + rowMargin
  widePercent * helpWidth < 100 * taken && helpWidth < taken + e.about.length

/-- The lines of a table. Once a text does not fit beside its label, all texts stand below theirs.
-/
def tableLines (es : List Entry) : List String :=
  let longest := longestLabel es
  if es.any (overflows longest) then es.flatMap fun e => ["  " ++ e.label, "          " ++ e.about]
  else
    es.map fun e =>
      let gap := String.ofList (List.replicate (longest - e.label.length) ' ')
      "  " ++ e.label ++ gap ++ "  " ++ e.about

/-- A table under its title, if it has rows. -/
def titledTable (title : String) (es : List Entry) : List String :=
  if es.isEmpty then [] else ["", title ++ ":"] ++ tableLines es

namespace OptionSpec

/-- What stands for the value of an option. -/
def valueName (o : OptionSpec) : String :=
  String.ofList (o.long.toList.map fun c => if c = '-' then '_' else c.toUpper)

/-- An option as it is written. -/
def label (o : OptionSpec) : String :=
  let short := match o.short with
    | some c => "-" ++ String.ofList [c] ++ ", "
    | none => "    "
  let value := if o.takesValue then " <" ++ o.valueName ++ ">" else ""
  short ++ "--" ++ o.long ++ value

/-- What holds if the option is not given: the value from the environment, or the empty text. -/
def standInNote (o : OptionSpec) (environment : String → Option OsText) : String :=
  match o.environment with
  | some name => " [env: " ++ name ++ "=" ++ ((environment name).map OsText.text).getD "" ++ "]"
  | none => if o.kind = .text then " [default: \"\"]" else ""

/-- The row for an option. -/
def entry (environment : String → Option OsText) (o : OptionSpec) : Entry :=
  ⟨o.label, o.about ++ o.standInNote environment⟩

/-- The name that an option is listed by: its letter, a small one before a capital, or its long
name. -/
def listName (o : OptionSpec) : String :=
  match o.short with
  | some c => String.ofList [c.toLower, if c.isLower then '0' else '1']
  | none => o.long

/-- The option is not listed after another one. -/
def isListedBefore (a b : OptionSpec) : Bool :=
  a.place < b.place || (a.place = b.place && decide (a.listName ≤ b.listName))

end OptionSpec

/-- The arguments as they are written. -/
def Operands.label : Operands → String
  | .none => ""
  | .one o => "<" ++ o.name ++ ">"
  | .trailing o => "[" ++ o.name ++ "]..."

/-- The rows for the arguments. -/
def Operands.entries (os : Operands) : List Entry :=
  match os with
  | .none => []
  | .one o | .trailing o => [⟨os.label, o.about⟩]

namespace Command

/-- How a command is written. -/
def usageText (c : Command) : String :=
  " ".intercalate <| ["Usage:", toolName] ++ c.path ++
    (if c.options.isEmpty then [] else ["[OPTIONS]"]) ++
    (if c.operands = .none then [] else [c.operands.label]) ++
    (if c.below.isEmpty then [] else ["<COMMAND>"])

/-- The help for a command. -/
def helpText (environment : String → Option OsText) (c : Command) : String :=
  lineTexts <| [c.about, "", c.usageText] ++
    titledTable "Commands" (c.below.map fun d => ⟨d.name, d.about⟩) ++
    titledTable "Arguments" c.operands.entries ++
    titledTable "Options"
      ((c.options.mergeSort OptionSpec.isListedBefore).map (OptionSpec.entry environment))

end Command

end Suite.Cli
