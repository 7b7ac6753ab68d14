import Suite.Proofs.Cli.Launching
import Suite.Proofs.Launch.Places

/-!
# The programs of launches

The home of the platform and that of the toolchain are used as they are given. So a launcher that
lies below a relative home is looked for in the directory in which the launch starts, while that
home was checked from the current one. The entries of a classpath are absolute in any case.

## Key results

- `of_platformHome`: from where the home of the platform is checked
- `launched_program_isAbsolute`: when the program of a launch is found in one place only
- `relative_home_leads_elsewhere`: a launch of a launcher other than the one below the home
-/

namespace Suite.Cli

open Host (Executor Launch Location Machine)

/-- A fixed home is found exactly if it is a directory. -/
private theorem fixed_eq_ok_iff {m : Machine} {home place : Path} :
    Locator.fixed home m = .ok place ↔ m.isDirectory home = true ∧ home = place := by
  unfold Locator.fixed
  split
  · rename_i hdirectory
    rw [Except.ok.injEq, and_iff_right hdirectory]
  · rename_i hdirectory
    exact iff_of_false (fun h => nomatch h) fun h => hdirectory h.1

/-- The home of the platform is a directory, seen from the current one. A given home is used as it
is given. -/
theorem of_platformHome {m : Machine} {home : Option Path} {place : Path}
    (h : platformHome m home = .ok place) :
    m.isDirectory place = true ∧ ∀ p, home = some p → place = p := by
  -- A home that is given is taken; otherwise the first variable that names one.
  cases home with
  | some p =>
    obtain ⟨hdirectory, rfl⟩ := fixed_eq_ok_iff.1 h
    exact ⟨hdirectory, fun q hq => Option.some.inj hq⟩
  | none =>
    rw [platformHome, Locator.environment] at h
    split at h
    · obtain ⟨hdirectory, rfl⟩ := fixed_eq_ok_iff.1 h
      exact ⟨hdirectory, fun q hq => nomatch hq⟩
    · cases h

/-- A home of the toolchain that is given is used as it is given. -/
private theorem home_of_standaloneToolchain {m : Machine} {javaHome : Option Path} {t : Toolchain}
    (h : standaloneToolchain m javaHome = .ok t) {p : Path} (hp : javaHome = some p) :
    t.home = p := by
  subst hp
  exact (congrArg Toolchain.home (Except.ok.inj h)).symm

/-- The program of an embedded launch is an absolute path if the home of the platform is one, or if
the description gives an absolute path in its place; that of a standalone launch is one if the home
of the toolchain is. All entries on the classpath of a standalone launch are absolute paths. From
whatever directory the program is looked for, it is found in the same place exactly if its path is
absolute. -/
theorem launched_program_isAbsolute (exec : Executor Machine) (on : Gate.Occasion) (m : Machine)
    (line : List String) (config : Option Path) (request : Request) (l : Launch)
    (hparse : parse m.setting? line = .ok ⟨config, request⟩) (hlaunch : request.isLaunch = true)
    (hmem : l ∈ (run exec on m line).2.launches) :
    (∀ directory home arguments, request = .embedded directory home arguments →
      l.directory = directory ∧ ∃ c place, loadConfig m config = .ok c ∧
        platformHome m home = .ok place ∧ m.isDirectory place = true ∧
        (∀ p, home = some p → place = p) ∧
        Path.isAbsolute ⟨l.program⟩ =
          (place.isAbsolute || Path.isAbsolute ⟨c.component.launcher.directory⟩ ||
            Path.isAbsolute ⟨c.executableName .unix⟩)) ∧
    (∀ directory root javaHome arguments,
      request = .standalone directory root javaHome arguments →
      l.directory = directory ∧ ∃ toolchain entries,
        standaloneToolchain m javaHome = .ok toolchain ∧
        (∀ p, javaHome = some p → toolchain.home = p) ∧
        Path.isAbsolute ⟨l.program⟩ = toolchain.home.isAbsolute ∧
        classpathText entries ∈ l.arguments ∧ entries ≠ [] ∧
        ∀ e ∈ entries, e.isAbsolute = true) ∧
    (Path.isAbsolute ⟨l.program⟩ = true ↔
      ∀ a b : Location, a.follow ⟨l.program⟩ = b.follow ⟨l.program⟩) := by
  refine ⟨?_, ?_, (Location.follow_eq_follow_iff _).symm⟩
  · rintro directory home arguments rfl
    obtain @⟨_, _, _, c, place, hload, hhome⟩ | _ := (mem_launches_iff hparse hlaunch l).1 hmem
    obtain ⟨hdirectory, hgiven⟩ := of_platformHome hhome
    refine ⟨rfl, c, place, hload, hhome, hdirectory, hgiven, ?_⟩
    -- The slash at the front of a path is one of its text, whatever is lost behind it.
    rw [Path.isAbsolute_text, Config.isAbsolute_executablePath]
  · rintro directory root javaHome arguments rfl
    obtain _ | @⟨_, _, _, _, c, toolchain, entries, hload, htoolchain, hentries, hne⟩ :=
      (mem_launches_iff hparse hlaunch l).1 hmem
    -- Both the root that is given and the one that is assumed are anchored before any jar is.
    have hroot : (standaloneRoot m root).isAbsolute = true := by
      cases root with
      | some r => exact isAbsolute_distRoot m r
      | none => exact isAbsolute_distRoot m _
    refine ⟨rfl, toolchain, entries, htoolchain,
      fun _ => home_of_standaloneToolchain htoolchain, ?_, by simp, hne,
      Config.isAbsolute_of_mem_classpath hroot hentries⟩
    rw [Path.isAbsolute_text, Toolchain.isAbsolute_javaExecutable]

/-- A launcher for the home `h`, as it is seen from the root, and another one as it is seen from the
directory `c`. -/
def twoLaunchers : Machine where
  files :=
    { nodes :=
        [(["h"], .directory), (["h", "bin"], .directory),
          (["h", "bin", "bf"], .file (Text.encode "#!/bin/sh\nexit 5\n") true),
          (["c"], .directory), (["c", "h"], .directory), (["c", "h", "bin"], .directory),
          (["c", "h", "bin", "bf"], .file (Text.encode "#!/bin/sh\nexit 6\n") true)] }
  environment := .empty
  cwd := []

/-- With a home below the root the program is the same from every directory. -/
theorem launched_program_isAbsolute_below_root :
    let line := ["bf", "--platform-home", "/h", "--cwd", "c", "x"]
    let request : Request := .embedded (some ⟨"c"⟩) (some ⟨"/h"⟩) ["x"]
    let l : Launch := ⟨"/h/bin/bf", ["x"], some ⟨"c"⟩⟩
    parse twoLaunchers.setting? line = .ok ⟨none, request⟩ ∧ request.isLaunch = true ∧
    l ∈ (run (fun _ m => (.error .notFound, m)) ⟨"run", ⟨1970, 1, 1, 0, 0, 0, 0⟩, 0⟩ twoLaunchers
      line).2.launches ∧
    ∀ a b : Location, a.follow ⟨l.program⟩ = b.follow ⟨l.program⟩ := by
  intro line request l
  have hparse : parse twoLaunchers.setting? line = .ok ⟨none, request⟩ :=
    Except.toOption_eq_some_iff.1 (by decide +kernel)
  -- The launch is found in the run, although the program cannot be started there.
  have hmem : l ∈ (run (fun _ m => (.error .notFound, m)) ⟨"run", ⟨1970, 1, 1, 0, 0, 0, 0⟩, 0⟩
      twoLaunchers line).2.launches := by decide +kernel
  obtain ⟨-, -, hplaces⟩ :=
    launched_program_isAbsolute _ _ twoLaunchers line none request l hparse rfl hmem
  exact ⟨hparse, rfl, hmem, hplaces.1 (by decide)⟩

/-- A relative home is checked from the current directory, and the launcher that is started is the
one below a directory of the same name where the launch starts. -/
theorem relative_home_leads_elsewhere :
    let l : Launch := ⟨"h/bin/bf", ["x"], some ⟨"c"⟩⟩
    (run (fun _ m => (.error .notFound, m)) ⟨"run", ⟨1970, 1, 1, 0, 0, 0, 0⟩, 0⟩ twoLaunchers
      ["bf", "--platform-home", "h", "--cwd", "c", "x"]).2.launches = [l] ∧
    Path.isAbsolute ⟨l.program⟩ = false ∧
    twoLaunchers.files.locate twoLaunchers.cwd ⟨l.program⟩ = .ok ["h", "bin", "bf"] ∧
    twoLaunchers.files.locate twoLaunchers.cwd ⟨"c"⟩ = .ok ["c"] ∧
    twoLaunchers.files.locate ["c"] ⟨l.program⟩ = .ok ["c", "h", "bin", "bf"] := by
  refine ⟨by decide +kernel, by decide, ?_, ?_, ?_⟩
  all_goals exact Except.toOption_eq_some_iff.1 (by decide +kernel)

end Suite.Cli
