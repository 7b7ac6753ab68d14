import Suite.Component
import Suite.Json.Record
import Suite.Keyed

/-!
# Build profiles

A `Profile` names a variant of the platform that can be built. A `Registry` keeps profiles in the
order of their registration, each name once, with an index from the names to the places in that
order; nothing is ever changed or removed.
-/

namespace Suite

/-- A named variant of the platform. -/
structure Profile where
  name : String
  /-- The components, in the order of their activation. -/
  components : List Component
  /-- The environment file that the build reads. -/
  envFile : String
  deriving DecidableEq, Repr

namespace Profile

/-- The fields of a written profile. -/
def fields : Json.Fields [String, List Component, String] :=
  .cons (.required "name" .text) <|
  .cons (.required "tags" (.list Component.codec)) <|
  .cons (.required "env_file" .text) .nil

/-- A written profile. -/
def codec : Json.Codec Profile :=
  (fields.codec "VmProfile").via (fun p => (p.name, p.components, p.envFile, ()))
    fun (name, components, envFile, ()) => ⟨name, components, envFile⟩

end Profile

/-- Profiles in the order of their registration. -/
structure Registry where
  profiles : List Profile
  /-- The place of each name among the profiles. -/
  places : Table Nat

namespace Registry

/-- No profile. -/
def empty : Registry := ⟨[], Keyed.empty⟩

/-- The registry with one more profile, whose name must be new. -/
def register (r : Registry) (p : Profile) : Except Error Registry :=
  if r.places.hasKey p.name then .error (.duplicateProfile p.name)
  else .ok ⟨r.profiles ++ [p], r.places.insert (p.name, r.profiles.length)⟩

/-- The profile with a name. -/
def resolve (r : Registry) (name : String) : Except Error Profile :=
  match (r.places.get? name).bind (fun place => r.profiles[place]?) with
  | some p => .ok p
  | none => .error (.unknownProfile name)

/-- The names of the profiles, in the order of their registration. -/
def names (r : Registry) : List String := r.profiles.map (·.name)

/-- How many profiles there are. -/
def size (r : Registry) : Nat := r.profiles.length

/-- No profile is registered. -/
def isEmpty (r : Registry) : Bool := r.profiles.isEmpty

/-- The components that every variant has. -/
def base : List Component := [.java, .nfi, .sdk, .truffle]

/-- The variants of the platform: the native ones add the compiler of images to the compiler at run
time. -/
def variants : List Profile :=
  [⟨"bf-jvm", base, "jvm"⟩,
   ⟨"bf-jvm-ce", base ++ [.compiler], "jvm-ce"⟩,
   ⟨"bf-jvm-ee", base ++ [.compiler, .compilerEe], "jvm-ee"⟩,
   ⟨"bf-native-ce", base ++ [.compiler, .substrateVm, .truffleMacro], "native-ce"⟩,
   ⟨"bf-native-ee",
     base ++ [.compiler, .compilerEe, .substrateVm, .substrateVmEe, .truffleMacro], "native-ee"⟩]

/-- The registry with the variants of the platform. -/
def builtin : Except Error Registry := variants.foldlM register empty

end Registry

end Suite
