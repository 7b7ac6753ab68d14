/-!
# Sums

Integer expressions in scripts, in words of sixty-four bits. `evaluate` gives the value of an
expression and the variables that it sets. From the loosest to the tightest there are assignments,
the choice `? :`, `||`, `&&`, the levels of `operatorLevels` and signs. The side of a choice that
does not count is read but neither looks up nor sets variables.
-/

namespace Suite.Shell.Arithmetic

/-- What is wrong with a sum. -/
inductive Problem
  | expectsPrimary
  | expectsBracket
  | expectsColon
  | expectsEnd
  | divisionByZero
  /-- A variable whose value is no number. -/
  | illegalNumber (value : String)
  deriving DecidableEq, Repr

/-- The message for what is wrong with a sum. -/
def Problem.message (expression : String) (p : Problem) : String :=
  let of_ (why : String) := "arithmetic expression: " ++ why ++ ": \"" ++ expression ++ "\""
  match p with
  | .expectsPrimary => of_ "expecting primary"
  | .expectsBracket => of_ "expecting ')'"
  | .expectsColon => of_ "expecting ':'"
  | .expectsEnd => of_ "expecting EOF"
  | .divisionByZero => of_ "division by zero"
  | .illegalNumber value => "Illegal number: " ++ value

/-- A part of an expression. -/
inductive Sign
  | number (n : Int)
  | name (s : String)
  | operator (s : String)
  /-- A character that means nothing. -/
  | unknown
  deriving DecidableEq, Repr

/-- How many integers there are of sixty-four bits. -/
def wordSize : Nat := Nat.pow 2 64

/-- The greatest integer with sign of sixty-four bits. -/
def wordMax : Int := (Nat.pow 2 63 : Nat) - 1

/-- An integer with sign of sixty-four bits. -/
def wrap (n : Int) : Int := Int.bmod n wordSize

/-- The value of a digit in a base of up to sixteen. -/
def digit? (base : Nat) (c : Char) : Option Nat :=
  let n : Option Nat :=
    if c.isDigit then some (c.toNat - 48)
    else if 'a' ≤ c.toLower && c.toLower ≤ 'f' then some (c.toLower.toNat - 87)
    else none
  n.filter (· < base)

/-- The number that digits are in a base. -/
def ofDigits (base : Nat) (ds : List Char) : Nat :=
  ds.foldl (fun n c => n * base + (digit? base c).getD 0) 0

/-- The number in front of the characters, in the base that its beginning says, and the characters
after it; nothing if no digit stands in front. -/
def number? (s : List Char) : Option (Nat × List Char) :=
  let inBase (base : Nat) (s : List Char) : Nat × List Char :=
    let isDigit (c : Char) : Bool := (digit? base c).isSome
    (ofDigits base (s.takeWhile isDigit), s.dropWhile isDigit)
  match s with
  | '0' :: x :: d :: rest =>
    if (x = 'x' || x = 'X') && (digit? 16 d).isSome then some (inBase 16 (d :: rest))
    else if (x = 'b' || x = 'B') && (digit? 2 d).isSome then some (inBase 2 (d :: rest))
    else some (inBase 8 s)
  | '0' :: _ => some (inBase 8 s)
  | c :: _ => if c.isDigit then some (inBase 10 s) else none
  | [] => none

/-- A character between parts that means nothing. -/
def isSpace (c : Char) : Bool := c = ' ' || (9 ≤ c.toNat && c.toNat ≤ 13)

/-- The integer that a whole text is, with a sign and blanks around it. With `anyBase` the beginning
of the digits says their base, and blanks alone are zero; otherwise they are decimal. -/
def integerOf? (anyBase : Bool) (text : String) : Option Int :=
  let s := text.toList.dropWhile isSpace
  let (negative, digits) := match s with
    | '-' :: rest => (true, rest)
    | '+' :: rest => (false, rest)
    | _ => (false, s)
  let decimal := digits.takeWhile Char.isDigit
  let found :=
    if anyBase then number? digits
    else if decimal.isEmpty then none
    else some (ofDigits 10 decimal, digits.drop decimal.length)
  match found with
  | some (n, rest) =>
    let value : Int := if negative then -n else n
    if rest.all isSpace && -wordMax - 1 ≤ value && value ≤ wordMax then some value else none
  | none => if anyBase && s.isEmpty then some 0 else none

/-- The integer that the value of a variable is. -/
def integer? (text : String) : Option Int := integerOf? true text

/-- The integer that an argument is. -/
def decimal? (text : String) : Option Int := integerOf? false text

/-- The operators, of those that begin alike the longer ones first. -/
def operators : List String :=
  ["<<=", ">>=", "||", "&&", "==", "!=", "<=", ">=", "<<", ">>", "+=", "-=", "*=", "/=", "%=", "&=",
   "|=", "^=", "+", "-", "*", "/", "%", "<", ">", "&", "|", "^", "!", "~", "?", ":", "(", ")", "="]

/-- The character may stand in a name. -/
def inName (c : Char) : Bool := c.isAlphanum || c = '_'

/-- The parts of an expression; `steps` bounds the recursion. -/
def signsFrom : Nat → List Char → List Sign
  | 0, _ => []
  | steps + 1, s =>
    match s with
    | [] => []
    | c :: rest =>
      if c = ' ' || c = '\t' || c = '\n' then signsFrom steps rest
      else
        match number? s with
        | some (n, rest) => .number (min n wordMax) :: signsFrom steps rest
        | none =>
          if c.isAlpha || c = '_' then
            .name (String.ofList (s.takeWhile inName)) :: signsFrom steps (s.dropWhile inName)
          else
            match operators.find? fun op => op.toList.isPrefixOf s with
            | some op => .operator op :: signsFrom steps (s.drop op.length)
            | none => .unknown :: signsFrom steps rest

/-- The parts of an expression. -/
def signs (s : List Char) : List Sign := signsFrom (s.length + 1) s

/-- One for a truth, zero for a falsehood. -/
def ofBool (b : Bool) : Int := if b then 1 else 0

/-- The bits of two integers, combined as numbers without sign of sixty-four bits. -/
def bitwise (f : Nat → Nat → Nat) (a b : Int) : Int :=
  wrap (f (a % wordSize).toNat (b % wordSize).toNat)

/-- The value of an operator between two integers. -/
def apply (op : String) (a b : Int) : Except Problem Int :=
  match op with
  | "|" => .ok (bitwise Nat.lor a b)
  | "^" => .ok (bitwise Nat.xor a b)
  | "&" => .ok (bitwise Nat.land a b)
  | "==" => .ok (ofBool (a = b))
  | "!=" => .ok (ofBool (a ≠ b))
  | "<=" => .ok (ofBool (a ≤ b))
  | ">=" => .ok (ofBool (b ≤ a))
  | "<" => .ok (ofBool (a < b))
  | ">" => .ok (ofBool (b < a))
  | "<<" => .ok (wrap (a * Nat.pow 2 (b % 64).toNat))
  | ">>" => .ok (a / Nat.pow 2 (b % 64).toNat)
  | "+" => .ok (wrap (a + b))
  | "-" => .ok (wrap (a - b))
  | "*" => .ok (wrap (a * b))
  | "/" => if b = 0 then .error .divisionByZero else .ok (wrap (Int.tdiv a b))
  | "%" => if b = 0 then .error .divisionByZero else .ok (wrap (Int.tmod a b))
  | _ => .error .expectsEnd

/-- The operators between two operands that are tighter than `&&`, the loosest level first. -/
def operatorLevels : List (List String) :=
  [["|"], ["^"], ["&"], ["==", "!="], ["<", "<=", ">", ">="], ["<<", ">>"], ["+", "-"],
   ["*", "/", "%"]]

/-- The operator that an assignment applies before it sets a variable; nothing if the text is no
sign of an assignment, the empty text for a plain one. -/
def assignedOperator? (op : String) : Option String :=
  match op with
  | "=" => some ""
  | "+=" | "-=" | "*=" | "/=" | "%=" | "&=" | "|=" | "^=" | "<<=" | ">>=" =>
    some (String.ofList op.toList.dropLast)
  | _ => none

/-- Where the reading of an expression stands. -/
structure Progress where
  signs : List Sign
  /-- The variables set so far, the last one first. -/
  assigned : List (String × Int) := []

/-- Reads and evaluates a part of an expression. -/
abbrev Summing := StateT Progress (Except Problem)

/-- The next sign, if it is one of these operators; it is taken then. -/
def operator? (ops : List String) : Summing (Option String) := do
  let p ← get
  match p.signs with
  | .operator op :: rest =>
    if ops.contains op then
      set { p with signs := rest }
      return some op
    else return none
  | _ => return none

/-- The value of a variable. -/
def valueOf (value : String → String) (name : String) : Summing Int := do
  match (← get).assigned.lookup name with
  | some n => return n
  | none =>
    match integer? (value name) with
    | some n => return n
    | none => throw (.illegalNumber (value name))

mutual

/-- An assignment or a choice; `steps` bounds the recursion, and only an active part counts. -/
def assignment (value : String → String) : Nat → Bool → Summing Int
  | 0, _ => throw .expectsPrimary
  | steps + 1, active => do
    let p ← get
    match p.signs with
    | .name name :: .operator op :: rest =>
      match assignedOperator? op with
      | none => choice value steps active
      | some applied => do
        set { p with signs := rest }
        let n ← assignment value steps active
        if !active then return n
        else
          let n ← if applied = "" then pure n else apply applied (← valueOf value name) n
          modify fun p => { p with assigned := (name, n) :: p.assigned }
          return n
    | _ => choice value steps active

/-- A choice between two values. -/
def choice (value : String → String) : Nat → Bool → Summing Int
  | 0, _ => throw .expectsPrimary
  | steps + 1, active => do
    let a ← anyOf value steps active
    if (← operator? ["?"]).isNone then return a
    else
      let b ← assignment value steps (active && a ≠ 0)
      if (← operator? [":"]).isNone then throw .expectsColon
      let c ← choice value steps (active && a = 0)
      return if a ≠ 0 then b else c

/-- Values of which one must be true. -/
def anyOf (value : String → String) : Nat → Bool → Summing Int
  | 0, _ => throw .expectsPrimary
  | steps + 1, active => do
    let a ← allOf value steps active
    if (← operator? ["||"]).isNone then return a
    else
      let b ← anyOf value steps (active && a = 0)
      return ofBool (a ≠ 0 || b ≠ 0)

/-- Values that must all be true. -/
def allOf (value : String → String) : Nat → Bool → Summing Int
  | 0, _ => throw .expectsPrimary
  | steps + 1, active => do
    let a ← level value steps active operatorLevels
    if (← operator? ["&&"]).isNone then return a
    else
      let b ← allOf value steps (active && a ≠ 0)
      return ofBool (a ≠ 0 && b ≠ 0)

/-- Operands between the operators of the levels. -/
def level (value : String → String) : Nat → Bool → List (List String) → Summing Int
  | 0, _, _ => throw .expectsPrimary
  | steps + 1, active, [] => operand value steps active
  | steps + 1, active, ops :: tighter => do
    more value steps active ops tighter (← level value steps active tighter)

/-- What follows an operand of a level. -/
def more (value : String → String) : Nat → Bool → List String → List (List String) → Int →
    Summing Int
  | 0, _, _, _, _ => throw .expectsPrimary
  | steps + 1, active, ops, tighter, a => do
    match ← operator? ops with
    | none => return a
    | some op =>
      let b ← level value steps active tighter
      more value steps active ops tighter (← if active then apply op a b else pure b)

/-- A number, a variable, or an expression in brackets, perhaps with signs in front. -/
def operand (value : String → String) : Nat → Bool → Summing Int
  | 0, _ => throw .expectsPrimary
  | steps + 1, active => do
    let p ← get
    match p.signs with
    | .number n :: rest =>
      set { p with signs := rest }
      return n
    | .name name :: rest =>
      set { p with signs := rest }
      if active then valueOf value name else return 0
    | .operator op :: rest =>
      set { p with signs := rest }
      match op with
      | "+" => operand value steps active
      | "-" => return wrap (-(← operand value steps active))
      | "!" => return ofBool ((← operand value steps active) = 0)
      | "~" => return wrap (-(← operand value steps active) - 1)
      | "(" =>
        let a ← assignment value steps active
        if (← operator? [")"]).isNone then throw .expectsBracket
        return a
      | _ => throw .expectsPrimary
    | _ => throw .expectsPrimary

end

/-- The value of an expression and the variables that it sets, the first one first. Variables have
the values that `value` gives them. -/
def evaluate (value : String → String) (s : List Char) :
    Except Problem (Int × List (String × Int)) := do
  let signs := signs s
  let (n, p) ← (assignment value (16 * signs.length + 32) true).run { signs }
  if p.signs.isEmpty then return (n, p.assigned.reverse)
  else throw .expectsEnd

end Suite.Shell.Arithmetic
