import Suite.Config.Lookup
import Suite.Proofs.Text.Pieces

/-!
# Destinations

Two things are read off the destination of a launcher: the directory is what stands before the last
separator, and the executable is named by what stands behind it, its file part. The name may have a
mark around it (`Launcher.mark`), which is taken off only where both ends of it are there. So the
directory and the executable make up the destination again.

## Key results

- `Launcher.executable_eq_iff`: the executable that a file part names
- `Launcher.directory_file_of_append`, `Launcher.destination_eq_append`: the place of the cut
- `Launcher.destination_cut_loses_nothing`: a destination and its two halves
-/

namespace Suite.Launcher

variable {name front back : String}

/-! ### Marks -/

/-- The name of an executable with the mark around it. -/
def mark (name : String) : String := "<exe:" ++ name ++ ">"

/-- The name that a mark stands around. -/
def unmark? (file : String) : Option String :=
  (Text.withoutFront? "<exe:" file).bind (Text.withoutEnd? ">")

/-- A file name is unmarked exactly if it is a marked one. -/
private theorem unmark?_eq_some_iff {file : String} :
    unmark? file = some name ↔ file = mark name := by
  rw [unmark?, mark, String.append_assoc, Option.bind_eq_some_iff]
  simp only [Text.withoutFront?_eq_some_iff, Text.withoutEnd?_eq_some_iff]
  constructor
  · rintro ⟨rest, hfile, hrest⟩
    rw [hfile, hrest]
  · intro hfile
    exact ⟨name ++ ">", hfile, rfl⟩

/-- The mark is taken off the name that it was put to. -/
private theorem unmark?_mark (name : String) : unmark? (mark name) = some name :=
  unmark?_eq_some_iff.2 rfl

/-- A file name stays as it is exactly if it is no marked one. -/
private theorem unmark?_eq_none_iff {file : String} :
    unmark? file = none ↔ ∀ name, file ≠ mark name := by
  simp only [Option.eq_none_iff_forall_ne_some, ne_eq, unmark?_eq_some_iff]

/-- The separators of a marked name are those of the name. -/
private theorem separator_mem_mark_iff : '/' ∈ (mark name).toList ↔ '/' ∈ name.toList := by
  simp [mark, String.toList_append]

/-! ### The file part -/

variable {l : Launcher}

/-- The file part of the destination. -/
def file (l : Launcher) : String := Text.afterLast '/' l.destination

/-- The file part of a destination has no separator. -/
theorem separator_notMem_file (l : Launcher) : '/' ∉ l.file.toList :=
  Text.notMem_afterLast '/' l.destination

/-- The executable is the file part without its mark. -/
private theorem executable_eq (l : Launcher) : l.executable = (unmark? l.file).getD l.file := rfl

/-- The executable is what the mark stands around, or all of a file part that is not marked. -/
theorem executable_eq_iff :
    l.executable = name ↔
      l.file = mark name ∨ l.file = name ∧ ∀ other, l.file ≠ mark other := by
  rw [executable_eq]
  -- Either the file is marked and names the executable, or it is the name itself.
  cases hname : unmark? l.file with
  | none =>
    have hbare := unmark?_eq_none_iff.1 hname
    rw [Option.getD_none]
    constructor
    · exact fun h => .inr ⟨h, hbare⟩
    · rintro (h | ⟨h, -⟩)
      · exact absurd h (hbare name)
      · exact h
  | some marked =>
    have hmarked := unmark?_eq_some_iff.1 hname
    rw [Option.getD_some]
    constructor
    · rintro rfl
      exact .inl hmarked
    · rintro (h | ⟨-, hbare⟩)
      · -- A text is the mark around one name at most.
        rw [h, unmark?_mark] at hname
        exact (Option.some.inj hname).symm
      · exact absurd hmarked (hbare marked)

/-- The name of the executable is a part of the file part. -/
theorem separator_notMem_executable (l : Launcher) : '/' ∉ l.executable.toList := by
  have hfile := l.separator_notMem_file
  obtain h | ⟨h, -⟩ := executable_eq_iff.1 (rfl : l.executable = _)
  · rwa [h, separator_mem_mark_iff] at hfile
  · rwa [h] at hfile

/-! ### The cut -/

/-- Without a separator all of the destination is its file part. -/
theorem directory_file_of_notMem (h : '/' ∉ l.destination.toList) :
    l.directory = "" ∧ l.file = l.destination := by
  refine ⟨?_, Text.afterLast_of_notMem h⟩
  rw [directory, Text.beforeLast?_of_notMem h, Option.getD_none]

/-- A separator that none follows is the one at which the destination is cut. -/
theorem directory_file_of_append (h : l.destination = front ++ "/" ++ back)
    (hback : '/' ∉ back.toList) : l.directory = front ∧ l.file = back := by
  have hcut : l.destination = front ++ String.singleton '/' ++ back := h
  rw [directory, file, hcut]
  constructor
  · rw [Text.beforeLast?_append front hback, Option.getD_some]
  · rw [Text.afterLast_append, Text.afterLast_of_notMem hback]

/-- A destination with a separator is cut at one. -/
theorem destination_eq_append (h : '/' ∈ l.destination.toList) :
    l.destination = l.directory ++ "/" ++ l.file := by
  obtain ⟨front, back, hcut, hback⟩ := Text.exists_cut h
  obtain ⟨hdirectory, hfile⟩ := directory_file_of_append hcut hback
  rw [hdirectory, hfile]
  exact hcut

/-- A destination is cut at its last separator, and nothing of it is lost. It is the directory, a
separator and the file part, or the file part alone if it has no separator. The file part is the
name of the executable in its mark, or the name itself, which then is not marked. A directory and a
name without a separator are read off the destination again that is put together from them. -/
theorem destination_cut_loses_nothing (l : Launcher) :
    (∃ file, '/' ∉ file.toList ∧
      (file = mark l.executable ∨ file = l.executable ∧ ∀ name, file ≠ mark name) ∧
      if '/' ∈ l.destination.toList then l.destination = l.directory ++ "/" ++ file
      else l.destination = file ∧ l.directory = "") ∧
    ∀ directory name, '/' ∉ name.toList →
      let l' := { l with destination := directory ++ "/" ++ mark name }
      l'.directory = directory ∧ l'.executable = name := by
  constructor
  · refine ⟨l.file, l.separator_notMem_file, executable_eq_iff.1 rfl, ?_⟩
    split
    · next h => exact destination_eq_append h
    · next h =>
      obtain ⟨hdirectory, hfile⟩ := directory_file_of_notMem h
      exact ⟨hfile.symm, hdirectory⟩
  · intro directory name hname l'
    -- The mark brings no separator of its own, so the one in front of it is the last.
    have hmark : '/' ∉ (mark name).toList := fun h => hname (separator_mem_mark_iff.1 h)
    obtain ⟨hdirectory, hfile⟩ : l'.directory = directory ∧ l'.file = mark name :=
      directory_file_of_append rfl hmark
    exact ⟨hdirectory, executable_eq_iff.2 (.inl hfile)⟩

/-- A directory may end with a separator, and a name may look like one in its mark. -/
theorem destination_cut_loses_nothing_nested :
    '/' ∉ "<exe:bf>".toList ∧
      let l := { defaultComponent.launcher with destination := "opt//<exe:<exe:bf>>" }
      l.directory = "opt/" ∧ l.executable = "<exe:bf>" := by
  have hname : '/' ∉ "<exe:bf>".toList := by decide
  have hdestination : "opt/" ++ "/" ++ mark "<exe:bf>" = "opt//<exe:<exe:bf>>" := by decide
  obtain ⟨-, hread⟩ := destination_cut_loses_nothing defaultComponent.launcher
  refine ⟨hname, ?_⟩
  rw [← hdestination]
  exact hread "opt/" "<exe:bf>" hname

-- A mark that is not closed belongs to the name.
example :
    let l := { defaultComponent.launcher with destination := "/<exe:bf" }
    l.directory = "" ∧ l.executable = "<exe:bf" := by
  decide

end Suite.Launcher
