import Suite.Launch.Command
import Suite.Proofs.Launch.Reach
import Suite.Proofs.Path

/-!
# Where paths lead

A program is named by a path, and it starts in a directory of its own. `Location.follow` reads the
path from there: an absolute one leads to the same place from every directory, and no other path
does. Paths that are put together begin where their first part does, unless a later part is
absolute.

## Key results

- `Location.follow_eq_follow_iff`: the paths that lead to the same place from everywhere
- `Config.isAbsolute_of_mem_classpath`: the entries of a classpath are such paths
- `Config.isAbsolute_executablePath`, `Toolchain.isAbsolute_javaExecutable`: when the programs of
  the two kinds of launches are
-/

namespace Suite

/-! ### Following a path -/

namespace Host.Location

/-- The location one name further, if there are directories all the way. -/
def enter (l : Location) (name : OsText) : Location :=
  if isPoint name then l else if isUp name then l.dropLast else l ++ [name]

/-- A path is followed name by name. -/
private theorem follow_eq_foldl (l : Location) (p : Path) :
    Location.follow l p =
      (p.segments.map OsText.mk).foldl enter (if p.isAbsolute then [] else l) := rfl

/-- One name leads up by one directory at most. -/
private theorem length_le_length_enter (l : Location) (name : OsText) :
    l.length ≤ (enter l name).length + 1 := by
  unfold enter
  split
  · omega
  · split
    · rw [List.length_dropLast]
      omega
    · rw [List.length_append]
      omega

/-- One name does not lead out of the directory below the root, unless that is where it begins. -/
private theorem head?_enter {l : Location} (h : 1 < l.length) (name : OsText) :
    (enter l name).head? = l.head? := by
  obtain ⟨first, second, rest, rfl⟩ : ∃ first second rest, l = first :: second :: rest := by
    match l, h with
    | first :: second :: rest, _ => exact ⟨first, second, rest, rfl⟩
  unfold enter
  split
  · rfl
  · split <;> rfl

/-- A path with fewer names than a location has stays below the root where the location is. -/
private theorem head?_foldl_enter (names : List OsText) {l : Location}
    (h : names.length < l.length) :
    (names.foldl enter l).head? = l.head? := by
  -- By induction on the names: each can go up one level at most, and there are enough levels.
  induction names generalizing l with
  | nil => rfl
  | cons name rest ih =>
    rw [List.length_cons] at h
    have hlength := length_le_length_enter l name
    rw [List.foldl_cons, ih (by omega), head?_enter (by omega)]

/-- A path leads to the same place from every directory if it is absolute, and only then. -/
theorem follow_eq_follow_iff (p : Path) :
    (∀ a b : Location, Location.follow a p = Location.follow b p) ↔ p.isAbsolute = true := by
  constructor
  · intro h
    refine Bool.of_not_eq_false fun hp => ?_
    -- Two directories so deep that the path does not lead out of what is below the root.
    let names := p.segments.map OsText.mk
    have hleads (s : OsText) :
        (Location.follow (List.replicate (names.length + 1) s) p).head? = some s := by
      rw [follow_eq_foldl, hp, if_neg Bool.false_ne_true, head?_foldl_enter _ (by simp [names])]
      rfl
    have hsame := (hleads "a").symm.trans ((congrArg List.head? (h _ _)).trans (hleads "b"))
    exact absurd (Option.some.inj hsame) (by decide)
  · intro hp a b
    rw [follow_eq_foldl, follow_eq_foldl, hp]
    rfl

/-- The path of a location is absolute. -/
private theorem isAbsolute_path (l : Location) : (Location.path l).isAbsolute = true := by
  simp [Location.path, Path.isAbsolute, Path.bytes]

end Host.Location

/-! ### Jars -/

/-- The jars are looked for in a place that the current directory has no part in any more. -/
theorem isAbsolute_distRoot (m : Host.Machine) (root : Path) :
    (distRoot m root).isAbsolute = true := by
  rw [distRoot, Path.isAbsolute_join, Host.Machine.cwdPath, Host.Location.isAbsolute_path,
    Bool.true_or]

/-- The path of a jar is absolute if the root is. -/
private theorem isAbsolute_jarPath {root : Path} (h : root.isAbsolute = true) (id : String)
    (d : Distribution) : (jarPath root id d).isAbsolute = true := by
  unfold jarPath
  split
  · exact Path.isAbsolute_join_of_left _ h
  · exact Path.isAbsolute_join_of_left _ h

/-! ### Programs and classpaths -/

/-- The entries of a classpath are absolute if its root is. -/
theorem Config.isAbsolute_of_mem_classpath {c : Config} {root : Path} {ids : List String}
    {entries : List Path} (hroot : root.isAbsolute = true)
    (h : c.classpath root ids = .ok entries) : ∀ e ∈ entries, e.isAbsolute = true := by
  intro e he
  obtain ⟨id, d, -, -, -, rfl⟩ := exists_jarPath_of_mem_classpath h he
  exact isAbsolute_jarPath hroot id d

/-- The launcher is found below an absolute home, or where a description names an absolute place. -/
theorem Config.isAbsolute_executablePath (c : Config) (os : OsFamily) (home : Path) :
    (c.executablePath os home).isAbsolute =
      (home.isAbsolute || Path.isAbsolute ⟨c.component.launcher.directory⟩ ||
        Path.isAbsolute ⟨c.executableName os⟩) := by
  rw [executablePath, Path.isAbsolute_below]
  by_cases hdirectory : c.component.launcher.directory = ""
  · have hempty : Path.isAbsolute ⟨""⟩ = false := by decide
    rw [if_pos hdirectory, hdirectory, hempty, Bool.or_false]
  · rw [if_neg hdirectory, Path.isAbsolute_below]

/-- The program that runs classes is found below an absolute home only. -/
theorem Toolchain.isAbsolute_javaExecutable (t : Toolchain) (os : OsFamily) :
    (t.javaExecutable os).isAbsolute = t.home.isAbsolute := by
  have hprogram : Path.isAbsolute ⟨os.programName "java"⟩ = false := by cases os <;> decide
  have hbin : Path.isAbsolute ⟨"bin"⟩ = false := by decide
  rw [javaExecutable, Path.isAbsolute_below, Path.isAbsolute_below, hprogram, hbin, Bool.or_false,
    Bool.or_false]

/-- The program that runs classes is found at a text exactly if the home is one. -/
theorem Toolchain.isText_javaExecutable (t : Toolchain) (os : OsFamily) :
    (t.javaExecutable os).IsText ↔ t.home.IsText := by
  have hprogram : Path.isAbsolute ⟨os.programName "java"⟩ = false := by cases os <;> decide
  have hbin : Path.isAbsolute ⟨"bin"⟩ = false := by decide
  rw [javaExecutable, Path.below, Path.isText_join hprogram, Path.below, Path.isText_join hbin]
  simp

end Suite
