import Suite.Shell.Arithmetic
import Suite.Shell.Session

/-!
# Arguments of commands inside the shell

What commands inside the shell make of their arguments: numbers, options in front of the others, and
texts written so that a script can read them again.
-/

namespace Suite.Shell

/-- The number that an argument is. -/
def numberOf (a : String) : Eval Nat := do
  match Arithmetic.decimal? a with
  | some n => if 0 ≤ n && n < 2147483648 then return n.toNat else fail ("Illegal number: " ++ a)
  | none => fail ("Illegal number: " ++ a)

/-- The letters of the options in front of arguments, and the arguments after them. -/
def optionsOf (allowed : String) : List String → Eval (List Char × List String)
  | [] => return ([], [])
  | a :: rest => do
    match a.toList with
    | '-' :: c :: more =>
      if c = '-' && more.isEmpty then return ([], rest)
      else
        match (c :: more).find? fun c => !allowed.toList.contains c with
        | some c => fail ("Illegal option -" ++ c.toString)
        | none =>
          let (letters, rest) ← optionsOf allowed rest
          return (c :: more ++ letters, rest)
    | _ => return ([], a :: rest)

/-- The text in single quotes, and the quotes in it in double ones. -/
def quotedFrom : Nat → List Char → List Char
  | 0, _ => []
  | steps + 1, s =>
    let plain := s.takeWhile (· ≠ '\'')
    let rest := s.drop plain.length
    let quotes := rest.takeWhile (· = '\'')
    let front := '\'' :: plain ++ ['\'']
    if rest.isEmpty then front
    else
      let after := rest.drop quotes.length
      front ++ '"' :: quotes ++ '"' :: (if after.isEmpty then [] else quotedFrom steps after)

/-- The text as a script would write it. -/
def quoted (s : String) : String := String.ofList (quotedFrom (s.length + 1) s.toList)

end Suite.Shell
