import Suite.Number.Shortest

/-!
# JSON values

A value keeps the members of its objects in a list, in the order in which they are written. Two
values are compared with `Value.same` once their objects are in canonical order: the two zeros of
floating point count as one number, and an integer is never the same as a floating-point number.
-/

namespace Suite.Json

/-- A number: integers that fit a machine word are exact, all others are floating point. -/
inductive Number
  | integer (n : Int)
  | float (x : Binary64)
  deriving DecidableEq, Repr

/-- Numbers of one kind and one value. -/
def Number.same : Number → Number → Bool
  | .integer m, .integer n => m = n
  | .float x, .float y => x.same y
  | _, _ => false

/-- A JSON value. -/
inductive Value
  | null
  | bool (b : Bool)
  | number (n : Number)
  | string (s : String)
  | array (items : List Value)
  | object (members : List (String × Value))
  deriving Inhabited, Repr

namespace Value

mutual

/-- Values of one structure, with the members of objects in one order. -/
def same : Value → Value → Bool
  | .null, .null => true
  | .bool a, .bool b => a = b
  | .number m, .number n => m.same n
  | .string s, .string t => s = t
  | .array xs, .array ys => sameItems xs ys
  | .object xs, .object ys => sameMembers xs ys
  | _, _ => false

/-- Lists of values that are the same one by one. -/
def sameItems : List Value → List Value → Bool
  | [], [] => true
  | x :: xs, y :: ys => x.same y && sameItems xs ys
  | _, _ => false

/-- Lists of members with the same names and values one by one. -/
def sameMembers : List (String × Value) → List (String × Value) → Bool
  | [], [] => true
  | (j, x) :: xs, (k, y) :: ys => j = k && x.same y && sameMembers xs ys
  | _, _ => false

end

mutual

theorem same_refl (v : Value) : v.same v = true := by
  cases v with
  | null => simp [same]
  | bool b => simp [same]
  | number n => cases n <;> simp [same, Number.same, Binary64.same]
  | string s => simp [same]
  | array items => simp [same, sameItems_refl items]
  | object members => simp [same, sameMembers_refl members]

theorem sameItems_refl (xs : List Value) : sameItems xs xs = true := by
  match xs with
  | [] => simp [sameItems]
  | x :: rest => simp [sameItems, same_refl x, sameItems_refl rest]

theorem sameMembers_refl (xs : List (String × Value)) : sameMembers xs xs = true := by
  match xs with
  | [] => simp [sameMembers]
  | (k, x) :: rest => simp [sameMembers, same_refl x, sameMembers_refl rest]

end

/-- A list of texts. -/
def strings (xs : List String) : Value := .array (xs.map .string)

/-- A natural number. -/
def natural (n : Nat) : Value := .number (.integer n)

/-- The first member of an object with a name. -/
def member? (v : Value) (name : String) : Option Value :=
  match v with
  | .object members => (members.find? (fun m => m.1 == name)).map (·.2)
  | _ => none

end Value

end Suite.Json
