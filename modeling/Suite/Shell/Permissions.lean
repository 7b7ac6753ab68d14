import Suite.Shell.Arguments

/-!
# Permissions

`umaskCommand` shows and sets the permissions that new files do not have, which a process passes on
to those it starts. Permissions are nine bits, three each for the user, the group and others.
-/

namespace Suite.Shell

/-- The bits of all permissions. -/
def allPermissions : Nat := 511

/-- The permissions that are not among these. -/
def withoutPermissions (mask : Nat) : Nat := allPermissions - mask &&& allPermissions

/-- The lowest bit of each group that a letter names. -/
def groupBits (c : Char) : Nat :=
  match c with
  | 'u' => 64
  | 'g' => 8
  | 'o' => 1
  | _ => 73

/-- The permissions that a letter gives to a group; some letters give what others have. -/
def permissionBits (permissions : Nat) (c : Char) : Nat :=
  match c with
  | 'r' => 4
  | 'w' => 2
  | 'x' => 1
  | 'u' => permissions / 64
  | 'g' => permissions / 8
  | 'o' => permissions
  | 'X' => if permissions &&& 73 = 0 then 0 else 1
  | _ => 0

/-- The permissions `given` after changes that letters and signs say; nothing if they say none.
Changes refer to the permissions from before all of them, and `groups` are those named so far;
`steps` bounds the recursion. -/
def changedPermissions (before : Nat) : Nat → Nat → Nat → List Char → Option Nat
  | 0, _, _, _ => none
  | _, _, given, [] => some given
  | steps + 1, groups, given, s =>
    let named := s.takeWhile "augo".toList.contains
    let groups := named.foldl (fun n c => n ||| groupBits c) groups
    let groups := if groups = 0 then groupBits 'a' else groups
    match s.drop named.length with
    | [] => some given
    | sign :: rest =>
      if !"=+-".toList.contains sign then none
      else
        let letters := rest.takeWhile "rwxugoXs".toList.contains
        let bits := letters.foldl (fun n c => n ||| permissionBits before c) 0
        let value := (bits &&& 7) * groups
        let all := allPermissions
        let given :=
          if sign = '+' then given ||| value
          else if sign = '-' then given &&& (all - value)
          else value ||| (given &&& (all - groups * 7))
        match rest.drop letters.length with
        | [] => some given
        | ',' :: rest => changedPermissions before steps 0 given rest
        | rest => changedPermissions before steps groups given rest

/-- Permissions in letters, group by group. -/
def permissionText (permissions : Nat) : String :=
  let group (name : String) (bits : Nat) : String :=
    let letter (c : Char) (bit : Nat) : List Char := if bits &&& bit = 0 then [] else [c]
    name ++ "=" ++ String.ofList (letter 'r' 4 ++ letter 'w' 2 ++ letter 'x' 1)
  ",".intercalate
    [group "u" (permissions / 64), group "g" (permissions / 8), group "o" permissions]

/-- A number in at least four octal digits. -/
def octalText (n : Nat) : String :=
  let ds := Nat.toDigits 8 n
  String.ofList (List.replicate (4 - ds.length) '0' ++ ds)

/-- Shows or sets the permissions that new files do not have. -/
def umaskCommand (args : List String) : Eval Nat := do
  let (letters, operands) ← optionsOf "S" args
  let mask := (← get).umask
  match operands with
  | [] =>
    let text := if letters.isEmpty then octalText mask else permissionText (withoutPermissions mask)
    write (text ++ "\n").toList 0
  | a :: _ =>
    let cs := a.toList
    let after ← if (cs.head?.map Char.isDigit).getD false then
        if cs.all fun c => (Arithmetic.digit? 8 c).isSome then
          pure (Arithmetic.ofDigits 8 cs &&& allPermissions)
        else fail ("Illegal number: " ++ a)
      else
        let before := withoutPermissions mask
        match changedPermissions before (cs.length + 1) 0 before cs with
        | some given => pure (withoutPermissions given)
        | none => fail ("Illegal mode: " ++ a)
    modify fun s => { s with umask := after }
    return 0

end Suite.Shell
