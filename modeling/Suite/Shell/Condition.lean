import Suite.Host.FileTree
import Suite.Shell.Arithmetic

/-!
# Conditions

The commands `test` and `[` judge their arguments: texts, numbers and files, joined by `!`, `-a`,
`-o` and brackets. `judge` gives the judgement, or says what is wrong with the arguments. Up to four
arguments are read by their number first, so that a text that looks like an operator can be judged
too.
-/

namespace Suite.Shell

open Host (Location Node)

/-- What a test asks of the place that a path leads to, if anything stands there. -/
def askNode (op : String) (node : Option Node) : Bool :=
  match op, node with
  | _, none => false
  | "-e", _ | "-r", _ | "-w", _ | "-O", _ | "-G", _ => true
  | "-f", some (.file _ _) | "-f", some (.program _) => true
  | "-x", some (.file _ executable) => executable
  | "-x", some (.program _) | "-s", some (.program _) => true
  | "-s", some (.file content _) => !content.isEmpty
  | "-d", some .directory | "-x", some .directory | "-s", some .directory => true
  | "-c", some (.device _) => true
  | _, some _ => false

/-- The operators in front of one operand. -/
def unaryTests : List String :=
  ["-r", "-w", "-x", "-e", "-f", "-d", "-c", "-b", "-p", "-u", "-g", "-k", "-s", "-t", "-z", "-n",
   "-h", "-O", "-G", "-L", "-S"]

/-- The operators between two operands. -/
def binaryTests : List String :=
  ["=", "!=", "<", ">", "-eq", "-ne", "-ge", "-gt", "-le", "-lt", "-nt", "-ot", "-ef"]

/-- What the first of some arguments is. -/
inductive Lexeme
  | ending
  | operand
  | unary
  | binary
  | not
  | and
  | or
  | left
  | right
  deriving DecidableEq, Repr

/-- An operator that stands in front of these arguments is an operand. -/
def standsForItself : List String → Bool
  | [] => true
  | [_] => false
  | op :: _ => binaryTests.contains op

/-- What the first of some arguments is. -/
def Lexeme.ofArguments : List String → Lexeme
  | [] => .ending
  | s :: rest =>
    if s = "!" then .not
    else if s = "-a" then .and
    else if s = "-o" then .or
    else if s = "(" then (if rest.isEmpty then .operand else .left)
    else if s = ")" then .right
    else if binaryTests.contains s then .binary
    else if unaryTests.contains s then (if standsForItself rest then .operand else .unary)
    else .operand

/-- Judges arguments; the state is the argument read last and those after it. -/
abbrev Judging := StateT (List String) (Except String)

/-- What paths lead to. -/
structure Places where
  place? : String → Option (Location × Node)
  /-- The last name of a path leads elsewhere. -/
  isLink : String → Bool

/-- The integer that an argument is. -/
def integerOf (s : String) : Judging Int :=
  match Arithmetic.decimal? s with
  | some n => pure n
  | none => throw ("Illegal number: " ++ s)

/-- The judgement of an operator between two operands. -/
def compareBy (places : Places) (a op b : String) : Judging Bool := do
  match op with
  | "=" => return a = b
  | "!=" => return a ≠ b
  | "<" => return a < b
  | ">" => return b < a
  | "-eq" => return (← integerOf a) = (← integerOf b)
  | "-ne" => return (← integerOf a) ≠ (← integerOf b)
  | "-ge" => return (← integerOf a) ≥ (← integerOf b)
  | "-gt" => return (← integerOf a) > (← integerOf b)
  | "-le" => return (← integerOf a) ≤ (← integerOf b)
  | "-lt" => return (← integerOf a) < (← integerOf b)
  | "-ef" =>
    let found := (places.place? a).map (·.1)
    return found.isSome && found = (places.place? b).map (·.1)
  | _ => return false

/-- The judgement of an operator in front of an operand. -/
def askOf (places : Places) (op a : String) : Judging Bool := do
  match op with
  | "-z" => return a = ""
  | "-n" => return a ≠ ""
  | "-t" =>
    let _ ← integerOf a
    return false
  | "-h" | "-L" => return places.isLink a
  | _ => return askNode op ((places.place? a).map (·.2))

/-- Goes past so many arguments and tells what stands there. -/
def proceed (count : Nat) : Judging Lexeme := do
  modify (·.drop count)
  return .ofArguments (← get)

/-- What the argument after the one read last is. -/
def following : Judging Lexeme := do return .ofArguments (← get).tail

mutual

/-- Judgements of which one must be true; `steps` bounds the recursion. -/
def judgeAny (places : Places) : Nat → Lexeme → Judging Bool
  | 0, _ => return false
  | steps + 1, l => do
    let a ← judgeAll places steps l
    if (← following) = .or then
      let b ← judgeAny places steps (← proceed 2)
      return a || b
    else return a

/-- Judgements that must all be true. -/
def judgeAll (places : Places) : Nat → Lexeme → Judging Bool
  | 0, _ => return false
  | steps + 1, l => do
    let a ← judgeOne places steps l
    if (← following) = .and then
      let b ← judgeAll places steps (← proceed 2)
      return a && b
    else return a

/-- One judgement, perhaps turned round. -/
def judgeOne (places : Places) : Nat → Lexeme → Judging Bool
  | 0, _ => return false
  | steps + 1, .not => do
    let l ← following
    if l ≠ .ending then modify (·.tail)
    return !(← judgeOne places steps l)
  | steps + 1, .left => do
    let l ← proceed 1
    if l = .right then return false
    else
      let a ← judgeAny places steps l
      if (← proceed 1) = .right then return a else throw "closing paren expected"
  | _ + 1, .ending => return false
  | _ + 1, l => do
    match l, ← get with
    | .unary, op :: a :: rest =>
      set (a :: rest)
      askOf places op a
    | _, [] => return false
    | _, a :: rest =>
      if Lexeme.ofArguments rest = .binary then
        match rest with
        | op :: b :: after =>
          set (b :: after)
          compareBy places a op b
        | op :: _ => throw (op ++ ": argument expected")
        | [] => return false
      else return a ≠ ""

end

/-- The judgement of arguments that begin like this. -/
def judgeFrom (places : Places) (l : Lexeme) (args : List String) : Except String Bool := do
  match ← (judgeAny places (4 * args.length + 8) l).run args with
  | (_, last :: _ :: _) =>
    throw (if last = "" then "unexpected operator" else last ++ ": unexpected operator")
  | (result, _) => return result

/-- The judgement of three arguments. What stands between the others is an operator if it can be
one; otherwise brackets and a `!` in front count, and the latter is left to the caller. -/
def judgeThree (places : Places) (a b c : String) : Except String Bool :=
  if binaryTests.contains b then judgeFrom places .operand [a, b, c]
  else if a = "(" && c = ")" then judgeFrom places (.ofArguments [b]) [b]
  else if a = "!" then judgeFrom places (.ofArguments [b, c]) [b, c]
  else judgeFrom places (.ofArguments [a, b, c]) [a, b, c]

/-- The judgement of arguments. Of two `!` in front of four arguments only one counts. -/
def judge (places : Places) (args : List String) : Except String Bool :=
  match args with
  | [] => .ok false
  | [a, b, c] =>
    (judgeThree places a b c).map fun r => if a = "!" && !binaryTests.contains b then !r else r
  | [a, b, c, d] =>
    if a = "(" && d = ")" then judgeFrom places (.ofArguments [b, c]) [b, c]
    else if a = "!" then (judgeThree places b c d).map not
    else judgeFrom places (.ofArguments args) args
  | _ => judgeFrom places (.ofArguments args) args

end Suite.Shell
