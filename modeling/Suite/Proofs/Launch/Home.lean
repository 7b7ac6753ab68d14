import Mathlib.Data.List.Basic
import Suite.Proofs.Config.Destinations
import Suite.Proofs.Config.Validity
import Suite.Proofs.Launch.Places

/-!
# The launcher and the home of the platform

The path of a launcher is put together from the home of the platform, the directory part of the
destination and a file name. A path that is read from another one begins with the parts of that
one, unless it is absolute, and then nothing of the other one is left. So a destination that is
written as a place inside the home is one, but a description may hold other ones. The program is
handed over as the text that is read of the path, and so the home has to be a text as well.

## Key results

- `Launcher.isAbsolute_directory_iff`, `Config.isAbsolute_executableName_iff`: the texts from which
  a launcher takes an absolute directory or file name
- `Config.embedded_program_inside_home`: when the launcher is inside the home, whatever home it is
-/

namespace Suite

/-! ### Absolute directories and file names -/

/-- A file name ends with what the family of operating systems asks for. -/
private theorem OsFamily.launcherName_eq (os : OsFamily) (base : String)
    (naming : ExecutableNaming) :
    os.launcherName base naming = base ++ os.launcherName "" naming := by
  cases os <;> simp [launcherName]

namespace Launcher

/-- The directory is absolute if the destination begins with a separator that is not the only
one. -/
theorem isAbsolute_directory_iff (l : Launcher) :
    Path.isAbsolute ⟨l.directory⟩ = true ↔
      ∃ rest, l.destination.toList = '/' :: rest ∧ '/' ∈ rest := by
  rw [Path.isAbsolute_mk_iff]
  by_cases h : '/' ∈ l.destination.toList
  · have hdestination : l.destination.toList = l.directory.toList ++ '/' :: l.file.toList := by
      simpa [String.toList_append] using congrArg String.toList (destination_eq_append h)
    rw [hdestination]
    -- The slash between directory and file is the first sign only if the directory is empty.
    cases hfront : l.directory.toList with
    | nil => simpa using l.separator_notMem_file
    | cons x more =>
      constructor
      · intro hx
        obtain rfl : x = '/' := Option.some.inj hx
        exact ⟨more ++ '/' :: l.file.toList, rfl, by simp⟩
      · rintro ⟨rest, hrest, -⟩
        exact congrArg some (List.cons.inj hrest).1
  · rw [(directory_file_of_notMem h).1]
    constructor
    · intro habsolute
      exact absurd habsolute (by decide)
    · rintro ⟨rest, hrest, -⟩
      exact absurd (hrest ▸ List.mem_cons_self) h

end Launcher

namespace Config

/-- The file name is absolute if the destination names no executable and the end that is put to
the name begins with a separator. -/
theorem isAbsolute_executableName_iff (c : Config) (os : OsFamily) :
    Path.isAbsolute ⟨c.executableName os⟩ = true ↔
      c.component.launcher.executable = "" ∧
        Path.isAbsolute ⟨os.launcherName "" c.naming⟩ = true := by
  have hname := c.component.launcher.separator_notMem_executable
  rw [executableName, OsFamily.launcherName_eq, Path.isAbsolute_mk_iff, Path.isAbsolute_mk_iff,
    String.toList_append]
  -- A name that is not empty gives the first sign, and a name has no slash.
  cases hexecutable : c.component.launcher.executable.toList with
  | nil => simp [String.toList_eq_nil_iff.1 hexecutable]
  | cons x more =>
    have hne : c.component.launcher.executable ≠ "" := by
      intro hempty
      simp [hempty] at hexecutable
    have hx : x ≠ '/' := by
      rintro rfl
      exact hname (hexecutable ▸ List.mem_cons_self)
    simp [hx, hne]

/-! ### Launchers inside and outside -/

/-- The description leads an embedded launch out of the home: its destination begins with a
separator and has another one, or it names no executable while the end of the file name begins with
a separator. -/
def LeavesHome (c : Config) (os : OsFamily) : Prop :=
  (∃ rest, c.component.launcher.destination.toList = '/' :: rest ∧ '/' ∈ rest) ∨
    c.component.launcher.executable = "" ∧ Path.isAbsolute ⟨os.launcherName "" c.naming⟩ = true

/-- A description leads out of the home exactly if one of the two parts of the launcher's path is
absolute. -/
private theorem leavesHome_iff {c : Config} {os : OsFamily} :
    c.LeavesHome os ↔ Path.isAbsolute ⟨c.component.launcher.directory⟩ = true ∨
      Path.isAbsolute ⟨c.executableName os⟩ = true := by
  rw [LeavesHome, Launcher.isAbsolute_directory_iff, isAbsolute_executableName_iff]

instance (c : Config) (os : OsFamily) : Decidable (c.LeavesHome os) :=
  decidable_of_iff _ leavesHome_iff.symm

/-- The command of an embedded launch for the home that is found. -/
private theorem embedded_of_ok {c : Config} {os : OsFamily} {m : Host.Machine} {locator : Locator}
    {home : Path} (h : locator m = .ok home) (arguments : List String) :
    c.embedded os m locator arguments =
      .ok ⟨.native, (c.executablePath os home).text :: arguments⟩ := by
  rw [embedded, h]
  rfl

/-- A launcher with a relative directory and a relative file name is inside each home. -/
private theorem parts_prefix_executablePath {c : Config} {os : OsFamily} (h : ¬ c.LeavesHome os)
    (home : Path) : home.parts <+: (c.executablePath os home).parts := by
  rw [leavesHome_iff, not_or, Bool.not_eq_true, Bool.not_eq_true] at h
  obtain ⟨hdirectory, hname⟩ := h
  rw [executablePath]
  refine List.IsPrefix.trans ?_ (Path.parts_prefix_join _ hname)
  split
  · exact List.prefix_rfl
  · exact Path.parts_prefix_join home hdirectory

/-- Where the directory or the file name is absolute, nothing of the home is left. -/
private theorem executablePath_of_leavesHome {c : Config} {os : OsFamily} (h : c.LeavesHome os)
    (home : Path) :
    c.executablePath os home =
      Path.join ⟨c.component.launcher.directory⟩ ⟨c.executableName os⟩ := by
  rw [executablePath]
  -- What is absolute takes the place of all before it: the name of both, the directory of the home.
  by_cases hname : Path.isAbsolute ⟨c.executableName os⟩ = true
  · rw [Path.below, Path.join_of_isAbsolute _ hname, Path.join_of_isAbsolute _ hname]
  · have hdirectory := (leavesHome_iff.1 h).resolve_right hname
    have hne : c.component.launcher.directory ≠ "" := by
      intro hempty
      rw [hempty] at hdirectory
      exact absurd hdirectory (by decide)
    rw [if_neg hne, Path.below, Path.below, Path.join_of_isAbsolute home hdirectory]

/-- The launcher is found at a text if the home is one. -/
private theorem isText_executablePath (c : Config) (os : OsFamily) {home : Path} (h : home.IsText) :
    (c.executablePath os home).IsText := by
  rw [executablePath]
  split
  · exact h.below _
  · exact (h.below _).below _

/-- An absolute text is not inside what is below it. -/
private theorem exists_not_parts_prefix {p : Path} (habsolute : p.isAbsolute = true)
    (htext : p.IsText) :
    ∃ home : String, Path.isAbsolute ⟨home⟩ = true ∧ ¬ Path.parts ⟨home⟩ <+: p.parts := by
  -- A directory below the program cannot hold it: its path is longer by one part.
  refine ⟨(p.below "h").text, ?_⟩
  rw [Path.isText_iff.1 (htext.below "h"), Path.isAbsolute_below, habsolute, Bool.true_or]
  refine ⟨rfl, fun hprefix => ?_⟩
  have hne : p.bytes ≠ [] := by
    intro hempty
    simp [Path.isAbsolute, hempty] at habsolute
  have hlength := hprefix.length_le
  rw [Path.below, Path.parts_join hne (by decide), List.length_append] at hlength
  have hpart : ((Path.mk "h").segments.filterMap Path.part?).length = 1 := by decide
  omega

/-- An embedded launch starts the launcher for the home that is found, with the arguments as they
are. The launcher is inside the home, whatever home it is, unless the description leads out of it;
and so is the text that is handed over for it, exactly if the home is a text. A description that
leads out of the home has the same program started for all homes, and it is not inside some absolute
one. -/
theorem embedded_program_inside_home (c : Config) (os : OsFamily) :
    (∀ m locator home arguments, locator m = .ok home →
      c.embedded os m locator arguments =
        .ok ⟨.native, (c.executablePath os home).text :: arguments⟩) ∧
    (¬ c.LeavesHome os → ∀ home : Path,
      home.parts <+: (c.executablePath os home).parts ∧
      (home.parts <+: Path.parts ⟨(c.executablePath os home).text⟩ ↔ home.IsText)) ∧
    (c.LeavesHome os → ∃ program : String, (∀ home, c.executablePath os home = ⟨program⟩) ∧
      ∃ home : String, Path.isAbsolute ⟨home⟩ = true ∧
        ¬ Path.parts ⟨home⟩ <+: Path.parts ⟨program⟩) := by
  refine ⟨fun _ _ _ arguments h => embedded_of_ok h arguments, fun h home => ?_, fun h => ?_⟩
  · have hinside := parts_prefix_executablePath h home
    refine ⟨hinside, Path.isText_of_parts_prefix, fun htext => ?_⟩
    rwa [Path.isText_iff.1 (c.isText_executablePath os htext)]
  -- The program is joined of two texts of the description, so nothing of it is lost.
  · let program := Path.join ⟨c.component.launcher.directory⟩ ⟨c.executableName os⟩
    have htext : program.IsText := (Path.isText_mk _).join (Path.isText_mk _)
    have habsolute : program.isAbsolute = true := by
      rw [Path.isAbsolute_join, Bool.or_eq_true]
      exact leavesHome_iff.1 h
    refine ⟨program.text, ?_⟩
    rw [Path.isText_iff.1 htext]
    exact ⟨executablePath_of_leavesHome h, exists_not_parts_prefix habsolute htext⟩

/-- The end of a file name may lead out of the home as well. -/
example : Config.executablePath
    { component := { defaultComponent with
        launcher := { defaultComponent.launcher with destination := "bin/<exe:>" } }
      naming := { unixEnd := "/x" } } .unix ⟨"/h"⟩ = ⟨"/x"⟩ := by decide

/-- A machine with a home and another directory. -/
def oneHome : Host.Machine where
  files := { nodes := [(["h"], .directory), (["w"], .directory)] }
  environment := .empty
  cwd := ["w"]

/-- The usual launcher is inside a home below the root. -/
theorem embedded_program_inside_home_default :
    let c : Config := {}
    ¬ c.LeavesHome .unix ∧ Locator.fixed ⟨"/h"⟩ oneHome = .ok ⟨"/h"⟩ ∧
      c.embedded .unix oneHome (.fixed ⟨"/h"⟩) ["x"] = .ok ⟨.native, ["/h/bin/bf", "x"]⟩ ∧
      Path.parts ⟨"/h"⟩ <+: Path.parts ⟨"/h/bin/bf"⟩ := by
  intro c
  have hinside : ¬ c.LeavesHome .unix := by decide +kernel
  have hhome : Locator.fixed ⟨"/h"⟩ oneHome = .ok ⟨"/h"⟩ := if_pos (by decide +kernel)
  -- The home is a text, and the argument is the very path of the program.
  have hprogram : c.executablePath .unix ⟨"/h"⟩ = ⟨"/h/bin/bf"⟩ := by decide +kernel
  obtain ⟨hembedded, hbelow, -⟩ := embedded_program_inside_home c .unix
  refine ⟨hinside, hhome, ?_, ?_⟩
  · rw [hembedded _ _ _ _ hhome, hprogram, Path.text_mk]
  · rw [← hprogram]
    exact (hbelow hinside ⟨"/h"⟩).1

/-- The usual description, but for a separator in front of the destination. -/
def rooted : Config where
  component :=
    { defaultComponent with
      launcher := { defaultComponent.launcher with destination := "/bin/<exe:bf>" } }

/-- A description that passes all checks leads a launch out of the home. -/
theorem embedded_leaves_home :
    rooted.validate = .ok () ∧ Locator.fixed ⟨"/h"⟩ oneHome = .ok ⟨"/h"⟩ ∧
      rooted.embedded .unix oneHome (.fixed ⟨"/h"⟩) ["x"] = .ok ⟨.native, ["/bin/bf", "x"]⟩ ∧
      ¬ Path.parts ⟨"/h"⟩ <+: Path.parts ⟨"/bin/bf"⟩ := by
  have hhome : Locator.fixed ⟨"/h"⟩ oneHome = .ok ⟨"/h"⟩ := if_pos (by decide +kernel)
  have hprogram : rooted.executablePath .unix ⟨"/h"⟩ = ⟨"/bin/bf"⟩ := by decide +kernel
  refine ⟨validate_eq_ok_iff_problem?.2 (by decide +kernel), hhome, ?_, by decide⟩
  rw [embedded_of_ok hhome, hprogram, Path.text_mk]

end Config

end Suite
