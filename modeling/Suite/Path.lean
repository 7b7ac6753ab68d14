import Suite.Text.Os
import Suite.Text.Pieces

/-!
# Paths

A path is a text of the operating system whose parts are separated by `/`. Two spellings with the
same parts name the same place (`Path.same`): empty parts and `.` between others do not count, while
`..` does, since it may lead out of a link. `Path.join` is how a relative path is read from another
one.
-/

namespace Suite

/-- A place in the file system, as it is written. -/
structure Path where
  written : OsText
  deriving DecidableEq, Repr, Inhabited

/-- A part of a path. -/
inductive Path.Part
  | root
  /-- A `.` in front of a relative path. -/
  | here
  | up
  | name (s : List UInt8)
  deriving DecidableEq, Repr

namespace Path

/-- The byte of `/`. -/
def slash : UInt8 := 0x2f

/-- The byte of `.`. -/
def dot : UInt8 := 0x2e

/-- The bytes of a path. -/
def bytes (p : Path) : List UInt8 := p.written.bytes

/-- The text that a path is read as. -/
def text (p : Path) : String := p.written.text

/-- The path is a text. -/
def IsText (p : Path) : Prop := p.written.IsText

instance (p : Path) : Decidable p.IsText := inferInstanceAs (Decidable p.written.IsText)

/-- What stands between the separators. -/
def segments (p : Path) : List (List UInt8) := Text.pieces slash p.bytes

/-- The part that a segment is, if it counts. -/
def part? (segment : List UInt8) : Option Part :=
  if segment = [] || segment = [dot] then none
  else if segment = [dot, dot] then some .up
  else some (.name segment)

/-- The path begins at the root. -/
def isAbsolute (p : Path) : Bool := p.bytes.head? = some slash

/-- The parts of a path. -/
def parts (p : Path) : List Part :=
  if p.isAbsolute then .root :: p.segments.filterMap part?
  else if p.segments.head? = some [dot] then .here :: p.segments.filterMap part?
  else p.segments.filterMap part?

/-- The paths have the same parts. -/
def same (p q : Path) : Bool := p.parts = q.parts

/-- The path `q` as it is read from the place `p`: an absolute one stands for itself. -/
def join (p q : Path) : Path :=
  if q.isAbsolute then q
  else if p.bytes = [] || p.bytes.getLast? = some slash then ⟨⟨p.bytes ++ q.bytes⟩⟩
  else ⟨⟨p.bytes ++ slash :: q.bytes⟩⟩

/-- The place of a name below a path. -/
def below (p : Path) (name : String) : Path := p.join ⟨name⟩

theorem isAbsolute_join_of_left {p : Path} (q : Path) (h : p.isAbsolute = true) :
    (p.join q).isAbsolute = true := by
  unfold join
  split
  · assumption
  · have hp : p.bytes.head? = some slash := by simpa [isAbsolute] using h
    cases hbs : p.bytes with
    | nil => simp [hbs] at hp
    | cons b rest =>
      have hb : b = slash := by simpa [hbs] using hp
      split <;> simp [isAbsolute, bytes, hb]

theorem isAbsolute_join_of_right (p : Path) {q : Path} (h : q.isAbsolute = true) :
    (p.join q).isAbsolute = true := by
  simp [join, h]

theorem same_refl (p : Path) : p.same p = true := by simp [same]

theorem same_symm {p q : Path} (h : p.same q = true) : q.same p = true := by
  simp only [same, decide_eq_true_eq] at h ⊢
  exact h.symm

theorem same_comm (p q : Path) : p.same q = q.same p := by
  rw [Bool.eq_iff_iff]
  exact ⟨same_symm, same_symm⟩

theorem same_trans {p q r : Path} (h : p.same q = true) (k : q.same r = true) :
    p.same r = true := by
  simp only [same, decide_eq_true_eq] at h k ⊢
  exact h.trans k

end Path

end Suite
