import Suite.Shell.Scene

/-!
# Programs in other surroundings

The arguments of `env` say which variables a program sees, and then the program itself and its
arguments. One argument may hold several, as the first line of a script needs it. Variables stay in
the order in which they came.
-/

namespace Suite.Shell

namespace Environment

/-- The environment with a variable set. -/
def set (e : Environment) (name value : String) : Environment :=
  if e.any (·.1 = name) then e.map fun b => if b.1 = name then (name, value) else b
  else e ++ [(name, value)]

/-- The environment without a variable. -/
def unset (e : Environment) (name : String) : Environment := e.filter (·.1 ≠ name)

end Environment

/-- The character stands between words. -/
def isWordBlank (c : Char) : Bool := " \t\n\x0b\x0c\r".toList.contains c

/-- The words of a text. -/
def wordsOf (text : String) : List String :=
  let cs := text.toList.map fun c => if isWordBlank c then ' ' else c
  ((Text.pieces ' ' cs).filter (· ≠ [])).map String.ofList

/-- The surroundings in which a program is to run, with the program and its arguments. -/
structure Surroundings where
  settings : Environment
  command : List String

namespace Surroundings

/-- The options of `env`. -/
def options : List OptionKind :=
  [⟨"i", "ignore-environment", .nothing⟩, ⟨"u", "unset", .value⟩, ⟨"S", "split-string", .value⟩]

/-- The environment after an option with its value. -/
def withOption (e : Environment) : String × String → Environment
  | ("i", _) => []
  | ("u", name) => e.unset name
  | _ => e

/-- The surroundings after the assignments in front of the command. -/
def assigned (e : Environment) : List String → Surroundings
  | [] => ⟨e, []⟩
  | a :: rest =>
    match a.toList.dropWhile (· ≠ '=') with
    | _ :: value =>
      assigned (e.set (String.ofList (a.toList.takeWhile (· ≠ '='))) (String.ofList value)) rest
    | [] => ⟨e, a :: rest⟩

/-- The surroundings that arguments say; `steps` bounds how many options are read. -/
def ofArguments : Nat → Environment → List String → Except String Surroundings
  | 0, e, args => .ok (assigned e args)
  | _, e, [] => .ok ⟨e, []⟩
  | steps + 1, e, a :: rest =>
    match a.toList with
    | ['-', '-'] => .ok (assigned e rest)
    | '-' :: c :: more => do
      let (found, rest) ←
        if c = '-' then
          (Usage.named options (String.ofList more) rest).map fun (o, rest) => ([o], rest)
        else Usage.lettersIn options (c :: more) rest
      let e := found.foldl withOption e
      match found.getLast? with
      | some ("S", text) => ofArguments steps e (wordsOf text ++ rest)
      | _ => ofArguments steps e rest
    | _ => .ok (assigned e (a :: rest))

/-- How many options may be read. -/
def maxOptions : Nat := 10000

/-- Lines with all variables. -/
def listed (s : Surroundings) : String :=
  String.join (s.settings.map fun (name, value) => name ++ "=" ++ value ++ "\n")

end Surroundings

end Suite.Shell
