import Suite.Proofs.Cli.Launching
import Suite.Proofs.Config.Validity
import Suite.Proofs.Gate.Stages

/-!
# Commands are never empty

A command has to be divided into a program and its arguments, which is possible unless it is empty.
What a description gives for the gate is checked when it is loaded; what a launch is resolved to has
a program in front by the way it is put together. So the tool never comes to a place where it would
have to report an empty command, nor looks at the first part of one.

## Key results

- `validate_of_loadConfig`: a description that the tool uses is valid, wherever it comes from
- `execute_ne_emptyCommand`: a stage that has a command has a program to start
- `commands_are_never_empty`: both, for every command line of the gate and of the two launches
-/

namespace Suite.Cli

open Host (Executor Launch Machine)

variable {m : Machine} {config : Option Path} {c : Config}

/-! ### Descriptions -/

/-- A description that is loaded from a file was checked. -/
private theorem validate_of_load {p : Path} (h : Config.load m p = .ok c) :
    c.validate = .ok () := by
  rw [Config.load] at h
  obtain ⟨text, -, h⟩ := Except.bind_eq_ok_iff.1 h
  obtain ⟨read, -, h⟩ := Except.bind_eq_ok_iff.1 h
  obtain ⟨⟨⟩, hvalid, h⟩ := Except.bind_eq_ok_iff.1 h
  obtain rfl : read = c := Except.ok.inj h
  exact hvalid

/-- A description that the tool uses is valid, whether it is loaded or stands in for one. -/
theorem validate_of_loadConfig (h : loadConfig m config = .ok c) : c.validate = .ok () := by
  cases config with
  | none =>
    obtain rfl : {} = c := Except.ok.inj h
    exact Config.validate_eq_ok_iff_problem?.2 (by decide +kernel)
  | some p => exact validate_of_load (Except.mapError_eq_ok_iff.1 h)

/-! ### Stages -/

/-- The stages of a valid description have commands. -/
private theorem command_ne_nil_of_mem_stages (h : c.Sound) {directory : Option Path} {stage : Stage}
    (hstage : stage ∈ c.stages directory) : stage.command ≠ [] := by
  rw [GateCommand.stages_eq] at hstage
  obtain ⟨t, ht, rfl⟩ := List.mem_map.1 hstage
  exact h.commands t ht

/-- A stage with a command does not fail for want of one. -/
theorem execute_ne_emptyCommand {σ : Type} {stage : Stage} (h : stage.command ≠ [])
    (exec : Executor σ) (s : σ) (name : String) :
    (stage.execute exec s).1 ≠ .error (.emptyCommand name) := by
  obtain ⟨program, arguments, hcommand⟩ := List.exists_cons_of_ne_nil h
  rw [Stage.execute, hcommand]
  rcases hexec : exec ⟨program, arguments, stage.directory⟩ s with ⟨e | f, s'⟩
  · simp [hexec]
  · simp only [hexec]
    split <;> simp

/-! ### Launches -/

/-- What an embedded launch is resolved to: the program and its arguments. -/
def embeddedArgv (m : Machine) (c : Config) (home : Option Path) (arguments : List String) :
    Except (List String) (List String) := do
  let command ← (c.embedded .unix m (fun m => platformHome m home) arguments).mapError fun e =>
    "Failed to resolve embedded launcher" :: e.causes
  return command.arguments

/-- What a standalone launch is resolved to: the program and its arguments. -/
def standaloneArgv (m : Machine) (c : Config) (root javaHome : Option Path)
    (arguments : List String) : Except (List String) (List String) := do
  let toolchain ← standaloneToolchain m javaHome
  let command ←
    (c.standalone .unix (c.classpath (standaloneRoot m root)) c.standaloneArtifacts
      c.launcherMainClass arguments).mapError fun e =>
        "Failed to resolve standalone launcher" :: e.causes
  (command.argv (some toolchain) .unix).mapError Error.causes

/-- The launch of what was resolved, taken apart by places: the first part is the program, and the
parts from the next place on are its arguments. There is none if a place is looked at that is not
there. -/
def launchByPlace? (argv : List String) (directory : Option Path) : Option Launch := do
  let program ← argv[0]?
  let arguments ← tokensFrom? argv 1
  return ⟨program, arguments, directory⟩

/-- A command line that has a program is taken apart at its first place. -/
private theorem launchByPlace?_cons (program : String) (arguments : List String)
    (directory : Option Path) :
    launchByPlace? (program :: arguments) directory = some ⟨program, arguments, directory⟩ := by
  simp [launchByPlace?, tokensFrom?]

/-- An embedded launch is that of what it is resolved to. -/
private theorem embeddedLaunch_eq_bind (m : Machine) (c : Config) (directory home : Option Path)
    (arguments : List String) :
    embeddedLaunch m c directory home arguments =
      embeddedArgv m c home arguments >>= fun argv => launchOf argv directory := by
  have hlaunch : embeddedLaunch m c directory home arguments =
      ((c.embedded .unix m (fun m => platformHome m home) arguments).mapError fun e =>
        "Failed to resolve embedded launcher" :: e.causes) >>= fun command =>
          launchOf command.arguments directory := by
    cases home <;> rfl
  rw [hlaunch, embeddedArgv]
  cases c.embedded .unix m (fun m => platformHome m home) arguments <;> rfl

/-- Without a toolchain there is a reason. -/
private theorem exists_of_standaloneToolchain_eq_error {javaHome : Option Path}
    {messages : List String}
    (h : standaloneToolchain m javaHome = .error messages) :
    ∃ e, Toolchain.ofEnvironment m = .error e ∧
      messages = "No JDK configured for standalone launch" :: e.causes := by
  -- A home that is given is taken unchecked, so only the look-up can fail.
  cases javaHome with
  | some home => cases h
  | none =>
    cases hfound : Toolchain.ofEnvironment m with
    | ok toolchain =>
      rw [standaloneToolchain, hfound] at h
      cases h
    | error e =>
      rw [standaloneToolchain, hfound] at h
      exact ⟨e, rfl, (Except.error.inj h).symm⟩

/-- A standalone launch is that of what it is resolved to. -/
private theorem standaloneLaunch_eq_bind (m : Machine) (c : Config)
    (directory root javaHome : Option Path)
    (arguments : List String) :
    standaloneLaunch m c directory root javaHome arguments =
      standaloneArgv m c root javaHome arguments >>= fun argv => launchOf argv directory := by
  rw [standaloneLaunch_eq, standaloneArgv]
  -- Both sides stop at the toolchain, at the classpath, or come to the same argument vector.
  cases standaloneToolchain m javaHome with
  | error messages => rfl
  | ok toolchain =>
    cases c.standalone .unix (c.classpath (standaloneRoot m root)) c.standaloneArtifacts
      c.launcherMainClass arguments with
    | error e => rfl
    | ok command => rfl

/-- An embedded launch has the launcher in front. -/
private theorem embeddedArgv_ne_nil {home : Option Path} {arguments argv : List String}
    (h : embeddedArgv m c home arguments = .ok argv) : argv ≠ [] := by
  obtain ⟨command, hcommand, h⟩ := Except.bind_eq_ok_iff.1 h
  obtain ⟨place, -, hplace⟩ := Except.bind_eq_ok_iff.1 (Except.mapError_eq_ok_iff.1 hcommand)
  obtain rfl := Except.ok.inj hplace
  obtain rfl := Except.ok.inj h
  exact List.cons_ne_nil _ _

/-- A standalone launch has the program of the toolchain in front. -/
private theorem standaloneArgv_ne_nil {root javaHome : Option Path} {arguments argv : List String}
    (h : standaloneArgv m c root javaHome arguments = .ok argv) : argv ≠ [] := by
  obtain ⟨toolchain, -, h⟩ := Except.bind_eq_ok_iff.1 h
  obtain ⟨command, hcommand, h⟩ := Except.bind_eq_ok_iff.1 h
  obtain ⟨entries, -, -, rfl⟩ := standalone_eq_ok_iff.1 (Except.mapError_eq_ok_iff.1 hcommand)
  obtain rfl := Except.ok.inj h
  exact List.cons_ne_nil _ _

/-- What is resolved to a command with a program in front can be taken apart by places. -/
private theorem map_launchByPlace?_eq {resolved : Except (List String) (List String)}
    (h : ∀ argv, resolved = .ok argv → argv ≠ []) (directory : Option Path) :
    resolved.map (launchByPlace? · directory) =
      (resolved >>= fun argv => launchOf argv directory).map some := by
  cases hresolved : resolved with
  | error messages => rfl
  | ok argv =>
    obtain ⟨program, arguments, rfl⟩ := List.exists_cons_of_ne_nil (h argv hresolved)
    rw [Except.ok_map, launchByPlace?_cons]
    rfl

/-- The message of a launch that was resolved to nothing. -/
def emptyLine : List String := ["empty command line"]

/-- No launch fails because what it is resolved to is empty, if that never is. -/
private theorem launchOf_ne_emptyLine {resolved : Except (List String) (List String)}
    (hne : ∀ argv, resolved = .ok argv → argv ≠ []) (hfail : resolved ≠ .error emptyLine)
    (directory : Option Path) :
    (resolved >>= fun argv => launchOf argv directory) ≠ .error emptyLine := by
  cases hresolved : resolved with
  | error messages =>
    rw [hresolved] at hfail
    exact fun h => hfail (congrArg Except.error (Except.error.inj h))
  | ok argv =>
    obtain ⟨program, arguments, rfl⟩ := List.exists_cons_of_ne_nil (hne argv hresolved)
    exact fun h => nomatch h

/-- Whatever else caused a failure, its outermost message says what it is. -/
private theorem error_cons_ne_emptyLine {message : String} (h : message ≠ "empty command line")
    (causes : List String) :
    (.error (message :: causes) : Except (List String) (List String)) ≠ .error emptyLine :=
  fun he => h (List.cons.inj (Except.error.inj he)).1

/-- What keeps an embedded launch from being resolved is something else than an empty line. -/
private theorem embeddedArgv_ne_emptyLine (m : Machine) (c : Config) (home : Option Path)
    (arguments : List String) : embeddedArgv m c home arguments ≠ .error emptyLine := by
  rw [embeddedArgv]
  cases c.embedded .unix m (fun m => platformHome m home) arguments with
  | error e => exact error_cons_ne_emptyLine (by decide) e.causes
  | ok command => exact fun h => nomatch h

/-- What keeps a standalone launch from being resolved is something else than an empty line. -/
private theorem standaloneArgv_ne_emptyLine (m : Machine) (c : Config) (root javaHome : Option Path)
    (arguments : List String) : standaloneArgv m c root javaHome arguments ≠ .error emptyLine := by
  rw [standaloneArgv]
  cases htoolchain : standaloneToolchain m javaHome with
  | error messages =>
    obtain ⟨e, -, rfl⟩ := exists_of_standaloneToolchain_eq_error htoolchain
    exact error_cons_ne_emptyLine (by decide) e.causes
  | ok toolchain =>
    cases c.standalone .unix (c.classpath (standaloneRoot m root)) c.standaloneArtifacts
      c.launcherMainClass arguments with
    | error e => exact error_cons_ne_emptyLine (by decide) e.causes
    | ok command =>
      -- With a toolchain a command of either kind has its parts.
      cases hkind : command.kind <;> simp [CommandLine.argv, hkind]

/-! ### Command lines -/

/-- Whatever description the tool uses, every stage of its gate has a command, so that no stage
fails for want of one, and whatever the two launches are asked for, what they are resolved to has a
program in front: it can be taken apart place by place, and no launch fails because it is empty.
Every command line for the gate, or for one of the launches, comes to just these stages or to that
launch. -/
theorem commands_are_never_empty (m : Machine) (config : Option Path) (c : Config)
    (hload : loadConfig m config = .ok c) :
    (∀ line tags stop directory asJson,
      parse m.setting? line = .ok ⟨config, .gate tags stop directory asJson⟩ →
      ∃ policy, plan m line =
        .gate (c.stages directory) policy (Gate.parseTags tags) asJson) ∧
    (∀ directory, ∀ stage ∈ c.stages directory, stage.command ≠ [] ∧
      ∀ (σ : Type) (exec : Executor σ) (s : σ) (name : String),
        (stage.execute exec s).1 ≠ .error (.emptyCommand name)) ∧
    (∀ directory home arguments,
      (∀ line, parse m.setting? line = .ok ⟨config, .embedded directory home arguments⟩ →
        plan m line = launchPlan m (embeddedLaunch m c directory home arguments)) ∧
      (embeddedArgv m c home arguments).map (launchByPlace? · directory) =
        (embeddedLaunch m c directory home arguments).map some ∧
      embeddedLaunch m c directory home arguments ≠ .error emptyLine) ∧
    ∀ directory root javaHome arguments,
      (∀ line,
        parse m.setting? line = .ok ⟨config, .standalone directory root javaHome arguments⟩ →
        plan m line = launchPlan m (standaloneLaunch m c directory root javaHome arguments)) ∧
      (standaloneArgv m c root javaHome arguments).map (launchByPlace? · directory) =
        (standaloneLaunch m c directory root javaHome arguments).map some ∧
      standaloneLaunch m c directory root javaHome arguments ≠ .error emptyLine := by
  -- Everything rests on one check: a description that loads has been validated.
  have hsound : c.Sound := Config.validate_eq_ok_iff.1 (validate_of_loadConfig hload)
  have hplan {line : List String} {request : Request}
      (hparse : parse m.setting? line = .ok ⟨config, request⟩) :
      plan m line = requestPlan m c request := by
    rw [plan_of_parse hparse, hload]
  refine ⟨fun line tags stop directory asJson hparse => ⟨_, hplan hparse⟩,
    fun directory stage hstage => ?_, fun directory home arguments => ?_,
    fun directory root javaHome arguments => ?_⟩
  · have hcommand := command_ne_nil_of_mem_stages hsound hstage
    exact ⟨hcommand, fun σ exec s name => execute_ne_emptyCommand hcommand exec s name⟩
  · rw [embeddedLaunch_eq_bind]
    exact ⟨fun line hparse => embeddedLaunch_eq_bind m c directory home arguments ▸ hplan hparse,
      map_launchByPlace?_eq (fun _ => embeddedArgv_ne_nil) directory,
      launchOf_ne_emptyLine (fun _ => embeddedArgv_ne_nil)
        (embeddedArgv_ne_emptyLine m c home arguments) directory⟩
  · rw [standaloneLaunch_eq_bind]
    exact ⟨fun line hparse =>
        standaloneLaunch_eq_bind m c directory root javaHome arguments ▸ hplan hparse,
      map_launchByPlace?_eq (fun _ => standaloneArgv_ne_nil) directory,
      launchOf_ne_emptyLine (fun _ => standaloneArgv_ne_nil)
        (standaloneArgv_ne_emptyLine m c root javaHome arguments) directory⟩

/-- A description whose gate starts a program without a name. -/
def namelessConfig : Config := { gate := ⟨[⟨"T", [], [""], 1800⟩]⟩ }

/-- A machine that holds this description. -/
def namelessGate : Machine where
  files :=
    { nodes := [(["suite.json"], .file (Text.encode <|
        "\x7b\"gate\":\x7b\"tasks\":[" ++
          "\x7b\"name\":\"T\",\"tags\":[],\"command\":[\"\"]\x7d]\x7d\x7d") false)] }
  environment := .empty
  cwd := []

/-- A command may be a program without a name, and is not empty for all that. -/
theorem commands_are_never_empty_nameless :
    let config : Option Path := some ⟨"suite.json"⟩
    loadConfig namelessGate config = .ok namelessConfig ∧
    parse namelessGate.setting? ["--config", "suite.json", "gate"] =
      .ok ⟨config, .gate "" false none false⟩ ∧
    (∃ policy, plan namelessGate ["--config", "suite.json", "gate"] =
      .gate [⟨"T", [], [""], 1800, none⟩] policy (Gate.parseTags "") false) ∧
    ∀ (σ : Type) (exec : Executor σ) (s : σ) (name : String),
      (Stage.execute ⟨"T", [], [""], 1800, none⟩ exec s).1 ≠ .error (.emptyCommand name) := by
  intro config
  -- The description is read from the file of the machine, with an empty name as its command.
  have hload : loadConfig namelessGate config = .ok namelessConfig :=
    Except.toOption_eq_some_iff.1 (by decide +kernel)
  have hparse : parse namelessGate.setting? ["--config", "suite.json", "gate"] =
      .ok ⟨config, .gate "" false none false⟩ :=
    Except.toOption_eq_some_iff.1 (by decide +kernel)
  obtain ⟨hplan, hstages, -⟩ := commands_are_never_empty namelessGate config _ hload
  exact ⟨hload, hparse, hplan _ _ _ _ _ hparse, (hstages none _ List.mem_cons_self).2⟩

end Suite.Cli
