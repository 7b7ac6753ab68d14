import Suite.Config.Lookup

/-!
# The platform and its tools

Where the home of the platform and the toolchain for standalone launches are found, and how programs
are called under a family of operating systems.
-/

namespace Suite

/-- A family of operating systems. -/
inductive OsFamily
  | windows
  | unix
  deriving DecidableEq, Repr

namespace OsFamily

/-- The file name of a launcher. -/
def launcherName (os : OsFamily) (base : String) (naming : ExecutableNaming) : String :=
  match os with
  | .windows => base ++ naming.windowsEnd
  | .unix => base ++ naming.unixEnd

/-- What separates the entries of a classpath. -/
def pathSeparator : OsFamily → String
  | .windows => ";"
  | .unix => ":"

/-- The file name of a program. -/
def programName (os : OsFamily) (base : String) : String :=
  match os with
  | .windows => base ++ ".exe"
  | .unix => base

end OsFamily

/-- Finds the home of the platform on a machine. -/
abbrev Locator := Host.Machine → Except Error Path

namespace Locator

/-- A given home, which must be a directory. -/
def fixed (home : Path) : Locator := fun m =>
  if m.isDirectory home then .ok home else .error (.platformNotFound (.notDirectory home))

/-- The home that the environment gives, which must be a directory. -/
def environment : Locator := fun m =>
  match platformVariables.findSome? m.filled? with
  | some home => fixed ⟨home⟩ m
  | none => .error (.platformNotFound .unset)

end Locator

/-- The tools for standalone launches, which are found below their home. -/
structure Toolchain where
  home : Path
  deriving DecidableEq, Repr

namespace Toolchain

/-- The toolchain that the environment gives, whose home must be a directory. -/
def ofEnvironment (m : Host.Machine) : Except Error Toolchain :=
  match m.filled? toolchainVariable with
  | none => .error (.toolchainNotFound .unset)
  | some home =>
    if m.isDirectory ⟨home⟩ then .ok ⟨⟨home⟩⟩
    else .error (.toolchainNotFound (.notDirectory ⟨home⟩))

/-- The program that runs classes. -/
def javaExecutable (t : Toolchain) (os : OsFamily) : Path :=
  (t.home.below "bin").below (os.programName "java")

end Toolchain

end Suite
