import Suite.Cli.Grammar
import Suite.Error
import Suite.Config.Lookup
import Suite.Launch.Classpath

/-!
# Command lines of the tool

An `Invocation` is what a command line asks for. The options that every command takes may stand
before or after the name of the command; the deepest one counts, and one on the command line
counts more than the environment.
-/

namespace Suite.Cli

/-- What is asked for. -/
inductive Request
  /-- Start the launcher of the platform. -/
  | embedded (directory home : Option Path) (arguments : List String)
  /-- Start the launcher from loose jars. -/
  | standalone (directory distRoot javaHome : Option Path) (arguments : List String)
  | verifyCi (sync : Bool) (own shared : Option Path)
  | gate (tags : String) (stopOnFailure : Bool) (directory : Option Path) (reportJson : Bool)
  | listProfiles
  | showProfile (name : String)
  | component
  deriving DecidableEq, Repr

/-- A command line that was understood. -/
structure Invocation where
  config : Option Path
  request : Request
  deriving DecidableEq, Repr

/-- The name of the tool. -/
def toolName : String := "bf-suite"

/-- The version of the tool. -/
def toolVersion : String := "0.1.0"

/-- The commands, with the tool itself as the outermost one. -/
inductive Command
  | tool
  | embedded
  | standalone
  | verifyCi
  | gate
  | profiles
  | listProfiles
  | showProfile
  | profilesHelp
  | component
  | toolHelp
  deriving DecidableEq, Repr

/-- Why a command line asks for nothing to be done. -/
inductive Refusal
  | usage
  | version
  | help (command : Command)
  deriving DecidableEq, Repr

/-- What the end of a reading means at a command. -/
def Stop.on (c : Command) : Stop → Refusal
  | .usage => .usage
  | .version => .version
  | .help => .help c

/-- The option for the description of the suite. -/
def configOption : OptionSpec :=
  { long := "config", kind := .path, environment := some Config.fileVariable,
    about := "Suite config file (JSON); built-in defaults when omitted", place := 2 }

/-- The place of the options that stand last in the help. -/
def lastPlace : Nat := 999

/-- The options of every command. -/
def commonOptions : List OptionSpec :=
  [{ long := "verbose", short := some 'v', kind := .flag, about := "Enable verbose output",
     place := 0 },
   { long := "json", kind := .flag, about := "Emit JSON-formatted log lines", place := 1 },
   configOption,
   { long := "help", short := some 'h', kind := .help, about := "Print help", place := lastPlace }]

/-- The option for the directory of a program, which is used for `what`. -/
def directoryOption (what : String) (place : Nat) : OptionSpec :=
  { long := "cwd", kind := .path, about := "Working directory for " ++ what, place }

namespace Command

/-- The commands that may follow. -/
def below : Command → List Command
  | tool => [embedded, standalone, verifyCi, gate, profiles, component, toolHelp]
  | profiles => [listProfiles, showProfile, profilesHelp]
  | _ => []

/-- The words that lead to a command, after the name of the tool. -/
def path : Command → List String
  | tool => []
  | embedded => ["bf"]
  | standalone => ["bf-standalone"]
  | verifyCi => ["verify-ci"]
  | gate => ["gate"]
  | profiles => ["vm-config"]
  | listProfiles => ["vm-config", "list"]
  | showProfile => ["vm-config", "show"]
  | profilesHelp => ["vm-config", "help"]
  | component => ["component"]
  | toolHelp => ["help"]

/-- The word for a command. -/
def name (c : Command) : String := c.path.getLastD toolName

/-- The command explains others. -/
def explains : Command → Bool
  | profilesHelp | toolHelp => true
  | _ => false

/-- What a command is for. -/
def about : Command → String
  | tool => "Build and launch tooling for the Brainf*ck language suite"
  | embedded => "Run the Brainf*ck launcher embedded in the platform"
  | standalone => "Run Brainf*ck standalone from distribution jars"
  | verifyCi => "Verify the CI configuration against the upstream suite"
  | gate => "Run gate tasks"
  | profiles => "VM build profiles"
  | listProfiles => "List profile names in registration order"
  | showProfile => "Show a profile's component tags and env file"
  | component => "Show the language component registration"
  | profilesHelp | toolHelp => "Print this message or the help of the given subcommand(s)"

/-- The options of a command besides the common ones. -/
def ownOptions : Command → List OptionSpec
  | tool =>
    [{ long := "version", short := some 'V', kind := .version, about := "Print version",
       place := lastPlace }]
  | embedded =>
    [directoryOption "the launched process" 0,
     { long := "platform-home", kind := .path, place := 1,
       about := "Platform home (default: BF_PLATFORM_HOME, then GRAALVM_HOME)" }]
  | standalone =>
    [directoryOption "the launched process" 0,
     { long := "dist-root", kind := .path, environment := some distRootVariable, place := 1,
       about := "Directory containing built distribution jars" },
     { long := "java-home", kind := .path, environment := some toolchainVariable, place := 2,
       about := "JDK used to run the launcher" }]
  | verifyCi =>
    [{ long := "sync", kind := .flag, place := 0,
       about := "Overwrite the local copy from upstream instead of failing" },
     { long := "local", kind := .path, place := 1,
       about := "Local CI config (default from suite config)" },
     { long := "upstream", kind := .path, place := 2,
       about := "Upstream CI config (default from suite config)" }]
  | gate =>
    [{ long := "tags", short := some 't', kind := .text, place := 0,
       about := "Tags to run (comma-separated: unittest,jackpot); all when empty" },
     { long := "stop-on-failure", kind := .flag, place := 1,
       about := "Stop at the first failing task" },
     directoryOption "gate commands" 2,
     { long := "report-json", kind := .flag, place := 3,
       about := "Print the gate result as JSON" }]
  | _ => []

/-- The options of a command. -/
def options (c : Command) : List OptionSpec :=
  if c.explains then [] else c.ownOptions ++ commonOptions

/-- The arguments of a command that are no options. -/
def operands : Command → Operands
  | embedded => .trailing ⟨"ARGS", "Arguments passed to the launcher"⟩
  | standalone => .trailing ⟨"ARGS", "VM flags, then `--`, then launcher arguments"⟩
  | showProfile => .one ⟨"NAME", "Profile name"⟩
  | profilesHelp | toolHelp => .trailing ⟨"COMMAND", "Print help for the subcommand(s)"⟩
  | _ => .none

/-- What may stand on a command line right after a command. -/
def level (c : Command) : Level := ⟨c.options, c.operands, c.below.map name⟩

/-- The command below with a word. -/
def below? (c : Command) (word : String) : Option Command := c.below.find? fun d => d.name = word

/-- The command that words lead to from another one. -/
def locate? (c : Command) : List String → Option Command
  | [] => some c
  | word :: rest => (c.below? word).bind fun d => d.locate? rest

end Command

/-- What was read at each command, from the outermost to the innermost. -/
abbrev Readings := List (Command × Reading)

/-- The readings from a command on, which leads through at most `depth` commands. -/
def readings (environment : String → Option OsText) :
    (depth : Nat) → Command → List String → Except Refusal Readings
  | 0, _, _ => .error .usage
  | depth + 1, c, tokens => do
    let (p, continuation) ← (c.level.scan {} tokens).mapError (Stop.on c)
    let deeper ← match continuation with
      | none => if c.below.isEmpty then .ok [] else .error .usage
      | some (word, rest) =>
        match c.below? word with
        | none => .error .usage
        | some d =>
          if d.explains then .error (((c.locate? rest).map Refusal.help).getD .usage)
          else readings environment depth d rest
    let r ← (c.level.finish environment p).mapError (Stop.on c)
    return (c, r) :: deeper

/-- The arguments for a launched program, with the `--` in front that ended the options: it
belongs to the program if the arguments stand right behind it at the end of the command line. -/
def restoreSeparator (raw parsed : List String) : List String :=
  if ("--" :: parsed).isSuffixOf raw then "--" :: parsed else parsed

/-- The description that counts: the one given with the innermost command, or else that of the
environment. -/
def configOf (rs : Readings) : Option Path :=
  let given := rs.filterMap fun (_, r) => r.given? configOption.long
  (given.getLast?.or (rs.findSome? fun (_, r) => r.standIn? configOption.long)).map Path.mk

/-- A path given for an option. -/
def pathOf (r : Reading) (long : String) : Option Path := (r.value? long).map Path.mk

/-- The request of a command; those with others below make none. -/
def requestOf (raw : List String) (c : Command) (r : Reading) : Except Refusal Request :=
  match c with
  | .embedded =>
    .ok (.embedded (pathOf r "cwd") (pathOf r "platform-home") (restoreSeparator raw r.operands))
  | .standalone =>
    .ok (.standalone (pathOf r "cwd") (pathOf r "dist-root") (pathOf r "java-home")
      (restoreSeparator raw r.operands))
  | .verifyCi => .ok (.verifyCi (r.has "sync") (pathOf r "local") (pathOf r "upstream"))
  | .gate =>
    .ok (.gate (((r.value? "tags").map OsText.text).getD "") (r.has "stop-on-failure")
      (pathOf r "cwd") (r.has "report-json"))
  | .listProfiles => .ok .listProfiles
  | .showProfile => .ok (.showProfile (r.operands.headD ""))
  | .component => .ok .component
  | .tool | .profiles | .profilesHelp | .toolHelp => .error .usage

/-- The number of commands on a command line, with the tool itself. -/
def maxDepth : Nat := 3

/-- What a command line asks for; `environment` gives the values of variables. -/
def parse (environment : String → Option OsText) (raw : List String) :
    Except Refusal Invocation := do
  let rs ← readings environment maxDepth .tool raw
  match rs.getLast? with
  | none => throw .usage
  | some (c, r) => return ⟨configOf rs, ← requestOf raw c r⟩

end Suite.Cli
