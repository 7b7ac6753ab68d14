import Suite.Config.Basic

/-!
# Flags and arguments

The arguments of a standalone launch begin with flags for the virtual machine. A separator `--` says
where they end; without one they end before the first argument that does not look like a flag.
-/

namespace Suite

/-- What separates flags from arguments. -/
def separator : String := "--"

/-- Arguments divided into flags for the virtual machine and arguments for the program. -/
structure Division where
  flags : List String
  arguments : List String
  deriving DecidableEq, Repr

namespace VmFlags

/-- The argument begins with one of the marks. -/
def isFlag (f : VmFlags) (argument : String) : Bool :=
  f.marks.any fun mark => mark.toList.isPrefixOf argument.toList

/-- The arguments before and after the first separator; without one, the flags in front and all that
follows. -/
def divide (f : VmFlags) (raw : List String) : Division :=
  if raw.contains separator then
    ⟨raw.takeWhile (· ≠ separator), (raw.dropWhile (· ≠ separator)).tail⟩
  else ⟨raw.takeWhile f.isFlag, raw.dropWhile f.isFlag⟩

end VmFlags

end Suite
