import Suite.Cli.Run

/-!
# What a command line looks at

`lookups` lists the places of the file tree on which the plan for a command line depends, as far as
they follow from what is known of the machine. A description that becomes known may name further
places, and so may a directory in which a program is found, so the list is complete once the machine
has been looked up `lookupRounds` times.
-/

namespace Suite.Cli

open Host (Machine)

/-- The variables that the tool reads. -/
def variableNames : List String :=
  [Config.fileVariable, distRootVariable, toolchainVariable] ++ platformVariables

/-- The places for a program: as it is named, and as it is named from its directory. -/
def programLookups (directory : Option Path) (program : String) : List Path :=
  if program.toList.contains '/' then
    ⟨program⟩ :: (directory.map fun d => d.join ⟨program⟩).toList
  else []

/-- The places for a launch. -/
def launchLookups (directory : Option Path) {ε : Type} (l : Except ε Host.Launch) : List Path :=
  match l with
  | .ok l => programLookups directory l.program
  | .error _ => []

/-- The places that variables name. -/
def variableLookups (m : Machine) (names : List String) : List Path :=
  (names.filterMap m.filled?).map Path.mk

/-- The places for a request. -/
def requestLookups (m : Machine) (c : Config) : Request → List Path
  | .embedded directory home arguments =>
    directory.toList ++ home.toList ++ variableLookups m platformVariables ++
      launchLookups directory (embeddedLaunch m c directory home arguments)
  | .standalone directory root javaHome arguments =>
    directory.toList ++ javaHome.toList ++ variableLookups m [toolchainVariable] ++
      launchLookups directory (standaloneLaunch m c directory root javaHome arguments)
  | .verifyCi _ own shared => [own.getD c.ci.own, shared.getD c.ci.shared]
  | .gate _ _ directory _ =>
    directory.toList ++
      (c.gate.tasks.flatMap fun t => t.command.head?.toList).flatMap (programLookups directory)
  | .listProfiles | .showProfile _ | .component => []

/-- The places that a command line looks at on a machine. -/
def lookups (m : Machine) (argv : List String) : List Path :=
  match parse m.setting? argv with
  | .error _ => []
  | .ok invocation =>
    invocation.config.toList ++
      match loadConfig m invocation.config with
      | .error _ => []
      | .ok c => requestLookups m c invocation.request

/-- How often the machine must be looked up: for the description, for the directories that it and
the command line name, and for the programs found there. -/
def lookupRounds : Nat := 3

end Suite.Cli
