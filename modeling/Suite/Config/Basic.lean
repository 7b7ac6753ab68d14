import Suite.Keyed
import Suite.Path

/-!
# The description of a suite

A `Config` says what a suite exports, how its language is registered with the platform, how it is
launched and how it is checked. Every part has a default, so a written description need only hold
what differs from them.
-/

namespace Suite

/-- A distribution exported by the suite or by one it imports. -/
structure Distribution where
  /-- The jar, relative to the root of the distributions; named for the id if not given. -/
  path : Option Path := none
  /-- The ids of the distributions needed at run time. -/
  dependencies : List String := []
  /-- The main class of a launcher. -/
  mainClass : Option String := none
  /-- The distribution holds resources and no jar. -/
  native : Bool := false
  testOnly : Bool := false
  description : Option String := none
  deriving DecidableEq, Repr

/-- What marks an argument as a flag for the virtual machine: it begins with one of these. -/
structure VmFlags where
  marks : List String := ["-XX:", "-X", "-D", "-ea", "-esa", "-da", "-agentlib:", "-javaagent:"]
  deriving DecidableEq, Repr

/-- The launcher of the language. -/
structure Launcher where
  /-- The place inside the platform home, such as `bin/<exe:bf>`. -/
  destination : String
  jars : List String
  mainClass : String
  buildArgs : List String
  language : String
  vmFlags : VmFlags := {}
  deriving DecidableEq, Repr

/-- The language as it is registered with the platform. -/
structure LanguageComponent where
  name : String
  shortName : String
  dependencies : List String
  /-- The ids of the distributions that hold the language itself. -/
  languageJars : List String
  supportDistributions : List String
  launcher : Launcher
  deriving DecidableEq, Repr

/-- The ends of the names of launchers. -/
structure ExecutableNaming where
  windowsEnd : String := ".cmd"
  unixEnd : String := ""
  deriving DecidableEq, Repr

/-- A task of the gate that runs a command. -/
structure GateCommand where
  name : String
  tags : List String
  /-- The program and its arguments. -/
  command : List String
  /-- The longest time it may take, in seconds. -/
  timeout : Nat := 1800
  deriving DecidableEq, Repr

/-- The commands of the gate, in the order in which they run. -/
structure GateCommands where
  tasks : List GateCommand :=
    [⟨"UnitTests", ["unittest"],
        ["mx", "unittest", "--enable-timing", "--very-verbose", "--suite", "brainfck"], 1800⟩,
     ⟨"Jackpot", ["jackpot"], ["mx", "jackpot", "--fail-on-warnings"], 1800⟩]
  deriving DecidableEq, Repr

/-- The files that describe the continuous integration: the copy of this suite and the file of the
platform that it is a copy of. -/
structure CiFiles where
  own : Path := ⟨"common.json"⟩
  shared : Path := ⟨"../graal/common.json"⟩
  deriving DecidableEq, Repr

/-- The main class of the suite's own launcher. -/
def defaultMainClass : String := "com.oracle.truffle.brainfck.launcher.BrainfckLauncher"

/-- The distributions of the suite and those it imports. -/
def defaultDistributions : Table Distribution :=
  Keyed.ofList
    [("BRAINFCK", { dependencies := ["truffle:TRUFFLE_API"] }),
     ("BRAINFCK_LAUNCHER",
       { dependencies := ["sdk:GRAAL_SDK", "sdk:LAUNCHER_COMMON"],
         mainClass := some defaultMainClass,
         description := some "Brainfck launcher using the polyglot API." }),
     ("BRAINFCK_TESTS",
       { dependencies := ["BRAINFCK", "truffle:TRUFFLE_API", "truffle:TRUFFLE_TCK", "mx:JUNIT"],
         testOnly := true }),
     ("BRAINFCK_SUPPORT",
       { native := true, description := some "Brainfck support distribution for the GraalVM" }),
     ("truffle:TRUFFLE_API", {}),
     ("truffle:TRUFFLE_TCK", {}),
     ("sdk:GRAAL_SDK", {}),
     ("sdk:LAUNCHER_COMMON", {}),
     ("mx:JUNIT", {})]

/-- The language of the suite. -/
def defaultComponent : LanguageComponent where
  name := "Brainfck"
  shortName := "bf"
  dependencies := ["Truffle"]
  languageJars := ["brainfck:BRAINFCK"]
  supportDistributions := ["brainfck:BRAINFCK_SUPPORT"]
  launcher :=
    { destination := "bin/<exe:bf>",
      jars := ["brainfck:BRAINFCK_LAUNCHER"],
      mainClass := defaultMainClass,
      buildArgs := ["--language:bf"],
      language := "bf" }

/-- The description of a suite. -/
structure Config where
  name : String := "brainfck"
  /-- The distributions under their ids. -/
  distributions : Table Distribution := defaultDistributions
  component : LanguageComponent := defaultComponent
  naming : ExecutableNaming := {}
  gate : GateCommands := {}
  ci : CiFiles := {}
  deriving DecidableEq, Repr

end Suite
