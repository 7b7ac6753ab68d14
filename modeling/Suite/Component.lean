import Suite.Error

/-!
# Components of the platform

A `Component` is a feature that a build of the platform can have. Each has a short id, under which
lists of components are written, separated by commas.
-/

namespace Suite

/-- A feature of the polyglot platform. -/
inductive Component
  | java
  | nfi
  | sdk
  | truffle
  | compiler
  | compilerEe
  | substrateVm
  | substrateVmEe
  | truffleMacro
  deriving DecidableEq, Repr

namespace Component

/-- All components, in the order in which lists of them are sorted. -/
def all : List Component :=
  [.java, .nfi, .sdk, .truffle, .compiler, .compilerEe, .substrateVm, .substrateVmEe, .truffleMacro]

/-- The id of a component. -/
def id : Component → String
  | .java => "java"
  | .nfi => "nfi"
  | .sdk => "sdk"
  | .truffle => "tfl"
  | .compiler => "cmp"
  | .compilerEe => "cmpee"
  | .substrateVm => "svm"
  | .substrateVmEe => "svmee"
  | .truffleMacro => "tflm"

/-- The component with an id. -/
def ofId? (s : String) : Option Component := all.find? (fun c => c.id = s)

theorem ofId?_id (c : Component) : ofId? c.id = some c := by cases c <;> rfl

theorem id_of_ofId? {s : String} {c : Component} (h : ofId? s = some c) : c.id = s := by
  simpa using List.find?_some h

/-- The position of a component among all of them. -/
def index (c : Component) : Nat := all.idxOf c

/-- The component with an id, which must be one. -/
def ofId (s : String) : Except Error Component :=
  match ofId? s with
  | some c => .ok c
  | none => .error (.unknownComponent s)

/-- The components of a comma-separated list of ids, in order and with repetitions. -/
def parseList (s : String) : Except Error (List Component) := (Text.entries s).mapM ofId

/-- The components in the order of `all`; repetitions stay. -/
def sort (cs : List Component) : List Component :=
  cs.mergeSort (fun a b => decide (a.index ≤ b.index))

/-- A component, written as its id. -/
def codec : Json.Codec Component where
  encode c := .string c.id
  decode := Json.Decoder.accepted "a string" fun s => (ofId s).mapError Error.message

end Component

end Suite
