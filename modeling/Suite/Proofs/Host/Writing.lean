import Suite.Host.Machine
import Suite.Proofs.Failing

/-!
# What writing a file changes

A write changes what stands at one location, or nothing where a device takes the bytes. Since no
directory is ever overwritten, every path that could be followed before leads to the same location
afterwards; so files elsewhere are read as before, and the file itself as it was written.

## Key results

- `FileTree.write_cases`: what a write that succeeds does
- `Machine.sameBut_of_write`: all else stays as it is
- `Machine.stores_of_forall_ne_null`, `Machine.read_of_write`: what is read afterwards
-/

namespace Suite.Host

namespace FileTree

variable {t t' : FileTree} {cwd l m : Location} {p q : Path} {content bytes : List UInt8} {n : Node}

/-! ### Following a path -/

/-- A step along a path starts from a directory. -/
private theorem node?_of_step {name : OsText} (h : t.step l name = .ok m) :
    t.node? l = some .directory := by
  unfold step at h
  split at h
  · cases h
  · assumption
  · cases h

/-- A step goes where it went before if something is put where no directory stands. -/
private theorem step_put {name : OsText} {at_ : Location} (hl : t.node? l ≠ some .directory)
    (h : t.step at_ name = .ok m) : (t.put l n).step at_ name = .ok m := by
  have hdir := node?_of_step h
  have hne : at_ ≠ l := fun heq => hl (heq ▸ hdir)
  unfold step at h ⊢
  rw [node?_put_of_ne t n hne, hdir]
  rw [hdir] at h
  exact h

/-- A path that can be followed is well formed, and is followed name by name. -/
private theorem locate_eq_ok_iff :
    t.locate cwd p = .ok m ↔
      (0 ∉ p.bytes ∧ p.bytes ≠ [] ∧ p.bytes.length ≤ maxPath) ∧
        (p.segments.map OsText.mk).foldlM (t.seenFrom cwd).step
          (if p.isAbsolute then [] else cwd) = .ok m := by
  unfold locate
  simp only [List.contains_iff_mem]
  -- The three checks of the whole path are made one after the other.
  split
  · next hnul => simp [hnul]
  · next hnul =>
    split
    · next hempty => simp [hempty]
    · next hempty =>
      split
      · next hlong => simp [Nat.not_le.2 hlong]
      · next hlong => simp [hnul, hempty, Nat.not_lt.1 hlong]

/-- A path leads where it led before if something is put where no directory stands. -/
private theorem locate_put (hl : t.node? l ≠ some .directory) (h : t.locate cwd p = .ok m) :
    (t.put l n).locate cwd p = .ok m := by
  obtain ⟨hwritten, hfollow⟩ := locate_eq_ok_iff.1 h
  -- What is seen from the current directory differs by links only, which lead on as before.
  have hstep : ∀ at_ name m, (t.seenFrom cwd).step at_ name = .ok m →
      ((t.put l n).seenFrom cwd).step at_ name = .ok m :=
    fun at_ name m => step_put (t := t.seenFrom cwd) hl
  exact locate_eq_ok_iff.2 ⟨hwritten, Except.foldlM_eq_ok_of_imp hstep hfollow⟩

/-! ### Reading -/

/-- What is read from a path is the content of what stands where it leads. -/
private theorem read_eq_ok_iff :
    t.read cwd p = .ok bytes ↔
      ∃ l n, t.locate cwd p = .ok l ∧ t.node? l = some n ∧ n ≠ .device .terminal ∧
        n.content? = some bytes := by
  unfold read
  rw [Except.bind_eq_ok_iff]
  refine exists_congr fun l => ?_
  -- What is no file, and no device that can be read, has no content.
  cases hn : t.node? l with
  | none => simp
  | some n => cases n with
    | device d => cases d <;> simp [Node.content?]
    | _ => simp [Node.content?]

/-- A path that leads elsewhere is read as before. -/
private theorem read_put_of_ne (hl : t.node? l ≠ some .directory) (hp : t.locate cwd p ≠ .ok l)
    (h : t.read cwd p = .ok bytes) : (t.put l n).read cwd p = .ok bytes := by
  obtain ⟨m, k, hlocate, hnode, hdevice, hcontent⟩ := read_eq_ok_iff.1 h
  have hne : m ≠ l := fun heq => hp (heq ▸ hlocate)
  refine read_eq_ok_iff.2 ⟨m, k, locate_put hl hlocate, ?_, hdevice, hcontent⟩
  rw [node?_put_of_ne t n hne, hnode]

/-- A path that leads to a file is read as the content of the file. -/
private theorem read_put_file {executable : Bool} (hl : t.node? l ≠ some .directory)
    (hp : t.locate cwd p = .ok l) :
    (t.put l (.file content executable)).read cwd p = .ok content := by
  have hroot : l ≠ [] := by
    rintro rfl
    exact hl rfl
  exact read_eq_ok_iff.2 ⟨l, _, locate_put hl hp, node?_put_self t _ hroot, by simp, rfl⟩

/-! ### Writing -/

/-- A file is written where its path leads. -/
private theorem locate_of_locateFile (h : t.locateFile cwd p = .ok l) : t.locate cwd p = .ok l := by
  unfold locateFile at h
  split at h
  · split at h
    · cases h
    · obtain ⟨_, -, h⟩ := Except.bind_eq_ok_iff.1 h
      cases h
  · exact h

/-- A write that succeeds puts a file where the path leads, which is no directory, or hands the
bytes to a device there. -/
theorem write_cases (h : t.write cwd p content = .ok t') :
    ∃ l, t.locate cwd p = .ok l ∧ t.node? l ≠ some .directory ∧
      ((∃ executable, t' = t.put l (.file content executable)) ∨
        (t.node? l = some (.device .null) ∧ t' = t) ∨
        (t.node? l = some (.device .full) ∧ content = [] ∧ t' = t)) := by
  obtain ⟨l, hlocate, h⟩ := Except.bind_eq_ok_iff.1 h
  refine ⟨l, locate_of_locateFile hlocate, ?_⟩
  -- One case for each kind of node: a file is replaced, a device takes what it is given.
  cases hn : t.node? l with
  | none =>
    rw [hn] at h
    simp only at h
    split at h
    · exact ⟨by simp, .inl ⟨false, (Except.ok.inj h).symm⟩⟩
    · cases h
  | some n =>
    rw [hn] at h
    cases n with
    | directory => cases h
    | file old executable => exact ⟨by simp, .inl ⟨executable, (Except.ok.inj h).symm⟩⟩
    | program name => exact ⟨by simp, .inl ⟨true, (Except.ok.inj h).symm⟩⟩
    | device d =>
      cases d with
      | null => exact ⟨by simp, .inr (.inl ⟨rfl, (Except.ok.inj h).symm⟩)⟩
      | full =>
        simp only at h
        split at h
        · next hempty =>
          exact ⟨by simp, .inr (.inr ⟨rfl, List.isEmpty_iff.1 hempty, (Except.ok.inj h).symm⟩)⟩
        · cases h
      | terminal => cases h

end FileTree

namespace Machine

variable {m m' : Machine} {p q : Path} {content bytes : List UInt8}

/-- The machines are the same but for what stands where a path leads. -/
structure SameBut (m m' : Machine) (p : Path) : Prop where
  nodes : ∀ l, m.files.locate m.cwd p ≠ .ok l → m'.files.node? l = m.files.node? l
  links : m'.files.links = m.files.links
  sealed : m'.files.sealed = m.files.sealed
  environment : m'.environment = m.environment
  cwd : m'.cwd = m.cwd

/-- What is written to the path is what is read from it afterwards. -/
def Stores (m : Machine) (p : Path) : Prop :=
  ∀ content m', m.write p content = .ok m' → m'.read p = .ok content

/-- A machine is like itself, wherever one looks. -/
theorem sameBut_refl (m : Machine) (p : Path) : m.SameBut m p :=
  ⟨fun _ _ => rfl, rfl, rfl, rfl, rfl⟩

/-- A write to a machine is one to its files. -/
private theorem write_eq_ok_iff :
    m.write p content = .ok m' ↔
      ∃ files, m.files.write m.cwd p content = .ok files ∧ m' = { m with files } := by
  unfold write
  cases m.files.write m.cwd p content with
  | error e => simp
  | ok files => simp [eq_comm]

/-- A write changes nothing but what stands where its path leads. -/
theorem sameBut_of_write (h : m.write p content = .ok m') : m.SameBut m' p := by
  obtain ⟨files, hwrite, rfl⟩ := write_eq_ok_iff.1 h
  obtain ⟨l, hlocate, -, ⟨executable, rfl⟩ | ⟨-, rfl⟩ | ⟨-, -, rfl⟩⟩ := FileTree.write_cases hwrite
  · refine ⟨fun k hk => ?_, rfl, rfl, rfl, rfl⟩
    have hne : k ≠ l := fun heq => hk (heq ▸ hlocate)
    exact FileTree.node?_put_of_ne _ _ hne
  · exact sameBut_refl m p
  · exact sameBut_refl m p

/-- Every path but those to the device that forgets what it takes stores what is written. -/
theorem stores_of_forall_ne_null
    (hp : ∀ l, m.files.locate m.cwd p = .ok l → m.files.node? l ≠ some (.device .null)) :
    m.Stores p := by
  intro content m' h
  obtain ⟨files, hwrite, rfl⟩ := write_eq_ok_iff.1 h
  obtain ⟨l, hlocate, hl, ⟨executable, rfl⟩ | ⟨hnull, -⟩ | ⟨hfull, rfl, rfl⟩⟩ :=
    FileTree.write_cases hwrite
  · exact FileTree.read_put_file hl hlocate
  · exact absurd hnull (hp l hlocate)
  · exact FileTree.read_eq_ok_iff.2 ⟨l, _, hlocate, hfull, by simp, rfl⟩

/-- After a write, whatever could be read is read as before or, where the same file is meant, as it
was written. -/
theorem read_of_write (hwrite : m.write p content = .ok m')
    (hread : m.read q = .ok bytes) : m'.read q = .ok bytes ∨ m'.read q = .ok content := by
  obtain ⟨files, h, rfl⟩ := write_eq_ok_iff.1 hwrite
  obtain ⟨l, hlocate, hl, ⟨executable, rfl⟩ | ⟨-, rfl⟩ | ⟨-, -, rfl⟩⟩ := FileTree.write_cases h
  · by_cases hq : m.files.locate m.cwd q = .ok l
    · exact .inr (FileTree.read_put_file hl hq)
    · exact .inl (FileTree.read_put_of_ne hl hq hread)
  · exact .inl hread
  · exact .inl hread

end Machine

end Suite.Host
