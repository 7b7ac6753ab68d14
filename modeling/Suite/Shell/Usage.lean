import Suite.Shell.Quotation

/-!
# The arguments of programs

Programs take options in front of other arguments or among them: letters behind a dash, or words
behind two, which may be cut short as long as they stay unique. `Usage.ofArguments` tells them
apart.
-/

namespace Suite.Shell

/-- Whether an option takes a value. -/
inductive Taking
  | nothing
  | value
  /-- A value in the same argument, if there is one. -/
  | choice
  deriving DecidableEq, Repr

/-- An option of a program. -/
structure OptionKind where
  /-- The letter of the option, or its word if it has none. -/
  key : String
  /-- The word of the option, empty if it has none. -/
  name : String
  takes : Taking := .nothing
  deriving Repr

/-- What the arguments of a program say: its options with their values, and the other arguments. -/
structure Usage where
  options : List (String × String) := []
  operands : List String := []

namespace Usage

/-- The option is there. -/
def has (u : Usage) (key : String) : Bool := u.options.any fun o => o.1 = key

/-- The values of an option. -/
def values (u : Usage) (key : String) : List String :=
  u.options.filterMap fun o => if o.1 = key then some o.2 else none

/-- The options that letters in one argument are, and the arguments after them; a value is the rest
of the letters or the next argument. -/
def lettersIn (kinds : List OptionKind) :
    List Char → List String → Except String (List (String × String) × List String)
  | [], rest => .ok ([], rest)
  | c :: more, rest =>
    match kinds.find? fun k => k.key = c.toString with
    | none => .error ("invalid option -- '" ++ c.toString ++ "'")
    | some k =>
      if k.takes ≠ .value then do
        let (options, rest) ← lettersIn kinds more rest
        return ((k.key, "") :: options, rest)
      else
        match more, rest with
        | [], [] => .error ("option requires an argument -- '" ++ c.toString ++ "'")
        | [], value :: rest => .ok ([(k.key, value)], rest)
        | _, _ => .ok ([(k.key, String.ofList more)], rest)

/-- The kind of an option that a word names, which may be cut short. -/
def kindOf (kinds : List OptionKind) (name text : String) : Except String OptionKind :=
  let worded := kinds.filter fun k => k.name ≠ ""
  match worded.find? fun k => k.name = name with
  | some k => .ok k
  | none =>
    match worded.filter fun k => name.toList.isPrefixOf k.name.toList with
    | [] => .error ("unrecognized option '--" ++ text ++ "'")
    | [k] => .ok k
    | ks =>
      let names := ks.map fun k => " '--" ++ k.name ++ "'"
      .error ("option '--" ++ text ++ "' is ambiguous; possibilities:" ++ String.join names)

/-- The option that a word in an argument is, and the arguments after it. -/
def named (kinds : List OptionKind) (text : String) (rest : List String) :
    Except String ((String × String) × List String) := do
  let name := String.ofList (text.toList.takeWhile (· ≠ '='))
  let k ← kindOf kinds name text
  match k.takes, text.toList.drop name.length, rest with
  | .nothing, [], _ | .choice, [], _ => .ok ((k.key, ""), rest)
  | .nothing, _ :: _, _ => .error ("option '--" ++ k.name ++ "' doesn't allow an argument")
  | .choice, _ :: v, _ | .value, _ :: v, _ => .ok ((k.key, String.ofList v), rest)
  | .value, [], v :: rest => .ok ((k.key, v), rest)
  | .value, [], [] => .error ("option '--" ++ k.name ++ "' requires an argument")

/-- What arguments say. With `mixed` options may stand after other arguments; `steps` bounds the
recursion. -/
def ofArguments (kinds : List OptionKind) (mixed : Bool) :
    Nat → List String → Except String Usage
  | 0, args => .ok { operands := args }
  | _ + 1, [] => .ok {}
  | steps + 1, a :: rest =>
    match a.toList with
    | ['-', '-'] => .ok { operands := rest }
    | '-' :: '-' :: text => do
      let (option, rest) ← named kinds (String.ofList text) rest
      let u ← ofArguments kinds mixed steps rest
      return { u with options := option :: u.options }
    | '-' :: c :: more => do
      let (options, rest) ← lettersIn kinds (c :: more) rest
      let u ← ofArguments kinds mixed steps rest
      return { u with options := options ++ u.options }
    | _ =>
      if mixed then do
        let u ← ofArguments kinds mixed steps rest
        return { u with operands := a :: u.operands }
      else .ok { operands := a :: rest }

/-- The meaning of a word among some, of which those with the same meaning are listed together. A
word may be cut short as long as its meaning stays unique; `option` is where it stands. -/
def wordOf {α : Type} [DecidableEq α] (option : String) (words : List (List String × α))
    (word : String) : Except String α :=
  let all := words.flatMap fun (ws, a) => ws.map fun w => (w, a)
  let found := all.filter fun w => word.toList.isPrefixOf w.1.toList
  match all.lookup word, found with
  | some a, _ => .ok a
  | none, first :: rest =>
    if rest.all fun w => w.2 = first.2 then .ok first.2 else refused "ambiguous"
  | none, [] => refused "invalid"
where
  /-- What is said of a word that is none of them. -/
  refused (how : String) : Except String α :=
    let line (ws : List String) : String :=
      "\n  - " ++ ", ".intercalate (ws.map Quotation.cited)
    .error (how ++ " argument " ++ Quotation.cited word ++ " for " ++ Quotation.cited option ++
      "\nValid arguments are:" ++ String.join (words.map fun w => line w.1))

end Usage

end Suite.Shell
