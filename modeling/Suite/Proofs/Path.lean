import Mathlib.Data.List.Basic
import Suite.Path
import Suite.Proofs.Text.Utf8

/-!
# Paths and their texts

A path is handed over as the text that is read of it, and that text may be taken for a path again.
Since the separator is a sign of ASCII, this changes no more than the names inside: the text names
the path itself exactly if the path is a text, and is absolute exactly if the path is.

## Key results

- `Path.isText_iff_forall_segments`, `Path.isText_iff_forall_parts`: the paths that are texts
- `Path.isAbsolute_text`, `Path.isAbsolute_mk_iff`: texts that are absolute paths
- `Path.parts_join`: the parts of a joined path
- `Path.isText_of_parts_prefix`: a text leads below texts only
-/

namespace Suite.Path

variable {p q : Path}

/-- The separator has a byte of its own. -/
theorem isByteOf_slash : Text.IsByteOf slash '/' := ⟨by decide, by decide, by decide⟩

/-! ### Texts as paths -/

/-- A text that is taken for a path is read as it is. -/
@[simp] theorem text_mk (s : String) : Path.text ⟨s⟩ = s := OsText.text_ofText s

/-- A text that is taken for a path is one. -/
@[simp] theorem isText_mk (s : String) : Path.IsText ⟨s⟩ := OsText.isText_ofText s

/-- A path is a text exactly if it is the path of the text that is read of it. -/
theorem isText_iff : p.IsText ↔ ⟨p.text⟩ = p := by
  rw [IsText, OsText.IsText, ← Path.mk.injEq]
  rfl

/-- Paths are the same if their segments are. -/
theorem segments_inj : p.segments = q.segments ↔ p = q := by
  refine ⟨fun h => ?_, fun h => h ▸ rfl⟩
  have hbytes : p.bytes = q.bytes := by
    rw [← Text.intercalate_pieces slash p.bytes, ← Text.intercalate_pieces slash q.bytes]
    exact congrArg _ h
  exact congrArg (Path.mk ∘ OsText.mk) hbytes

/-- The sign of a byte is in a text exactly if the byte is in its path. -/
theorem mem_bytes_mk {b : UInt8} {c : Char} (h : Text.IsByteOf b c) (s : String) :
    b ∈ bytes ⟨s⟩ ↔ c ∈ s.toList := Text.mem_encode_iff h

/-- The sign of a byte is read of a path exactly if the byte is in it. -/
theorem mem_text_iff {b : UInt8} {c : Char} (h : Text.IsByteOf b c) (p : Path) :
    c ∈ p.text.toList ↔ b ∈ p.bytes := Text.mem_decodeLossy_iff h

/-- The segments of a text are its pieces. -/
theorem segments_mk (s : String) :
    segments ⟨s⟩ =
      (Text.pieces '/' s.toList).map fun piece => Text.encode (String.ofList piece) := by
  have h := Text.pieces_encode isByteOf_slash s.toList
  rwa [String.ofList_toList] at h

/-- The text of a path, taken for a path, has as segments what is read of those of the path. -/
theorem segments_text (p : Path) :
    segments ⟨p.text⟩ = p.segments.map fun g => Text.encode (Text.decodeLossy g) := by
  rw [segments_mk, text, OsText.text, Text.pieces_decodeLossy isByteOf_slash, List.map_map]
  simp [segments, bytes, Function.comp_def]

/-- A path is a text exactly if all its segments are. -/
theorem isText_iff_forall_segments :
    p.IsText ↔ ∀ g ∈ p.segments, Text.encode (Text.decodeLossy g) = g := by
  have hmap := @List.map_inj_left _ _ p.segments (fun g => Text.encode (Text.decodeLossy g)) id
  rw [List.map_id] at hmap
  rw [isText_iff, ← segments_inj, segments_text, hmap]
  rfl

/-! ### Absolute paths -/

/-- A path is absolute if its first segment is empty and others follow. -/
theorem isAbsolute_iff :
    p.isAbsolute = true ↔ ∃ rest, rest ≠ [] ∧ p.segments = [] :: rest := by
  rw [isAbsolute, decide_eq_true_eq, Text.head?_eq_some_iff, segments]

/-- The text of a path is absolute exactly if the path is. -/
theorem isAbsolute_text (p : Path) : isAbsolute ⟨p.text⟩ = p.isAbsolute := by
  rw [Bool.eq_iff_iff, isAbsolute_iff, isAbsolute_iff, segments_text]
  cases hp : p.segments with
  | nil => simp
  | cons g rest =>
    simp [Text.encode_eq_nil_iff, Text.decodeLossy_eq_empty_iff]

/-- A text is absolute if it begins with the separator. -/
theorem isAbsolute_mk_iff {s : String} : isAbsolute ⟨s⟩ = true ↔ s.toList.head? = some '/' := by
  rw [isAbsolute_iff, segments_mk, Text.head?_eq_some_iff]
  cases hp : Text.pieces '/' s.toList with
  | nil => simp
  | cons g rest =>
    simp [Text.encode_eq_nil_iff]

/-! ### Joined paths -/

/-- A joined path is absolute if one of its parts is. -/
theorem isAbsolute_join (p q : Path) :
    (p.join q).isAbsolute = (p.isAbsolute || q.isAbsolute) := by
  cases hq : q.isAbsolute with
  | true => rw [isAbsolute_join_of_right p hq, Bool.or_true]
  | false =>
    cases hp : p.isAbsolute with
    | true => rw [isAbsolute_join_of_left q hp, Bool.true_or]
    | false =>
      rw [isAbsolute, decide_eq_false_iff_not] at hp hq
      rw [join, if_neg (by simpa [isAbsolute] using hq)]
      -- Neither path has a slash in front; joining adds one behind the first path, if at all.
      cases hbytes : p.bytes with
      | nil => simpa [isAbsolute, bytes] using hq
      | cons b rest =>
        rw [hbytes] at hp
        split <;> simpa [isAbsolute, bytes] using hp

/-- A name below a path is absolute if the path is, or the name itself. -/
theorem isAbsolute_below (p : Path) (name : String) :
    (p.below name).isAbsolute = (p.isAbsolute || isAbsolute ⟨name⟩) :=
  isAbsolute_join p ⟨name⟩

/-- Nothing is left of the place from which an absolute path is read. -/
theorem join_of_isAbsolute (p : Path) (hq : q.isAbsolute = true) : p.join q = q := if_pos hq

/-- A path that is not absolute is put behind a separator, which the other path may end with. -/
private theorem bytes_join (hp : p.bytes ≠ []) (hq : q.isAbsolute = false) :
    ∃ front, (p.join q).bytes = front ++ slash :: q.bytes ∧
      (p.bytes = front ∨ p.bytes = front ++ [slash]) := by
  rw [join, if_neg (by simp [hq])]
  split
  · next h =>
    have hlast : p.bytes.getLast? = some slash := by simpa [hp] using h
    obtain ⟨front, hfront⟩ := List.getLast?_eq_some_iff.1 hlast
    exact ⟨front, by rw [hfront]; simp [bytes], .inr hfront⟩
  · exact ⟨p.bytes, rfl, .inl rfl⟩

/-- The segments of a joined path are those of its parts. A separator at the end of the first part
makes a last segment that is empty, and gets lost. -/
theorem segments_join (hp : p.bytes ≠ []) (hq : q.isAbsolute = false) :
    ∃ front, front ≠ [] ∧ (p.join q).segments = front ++ q.segments ∧
      (p.segments = front ∨ p.segments = front ++ [[]]) := by
  obtain ⟨front, hjoin, hfront⟩ := bytes_join hp hq
  refine ⟨Text.pieces slash front, Text.pieces_ne_nil slash front, ?_, ?_⟩
  · rw [segments, hjoin, Text.pieces_append_cons, segments]
  · rcases hfront with h | h
    · exact .inl (by rw [segments, h])
    · exact .inr (by rw [segments, h, Text.pieces_append_cons]; rfl)

/-- A joined path is a text if its parts are. -/
theorem isText_join (hq : q.isAbsolute = false) :
    (p.join q).IsText ↔ p.IsText ∧ q.IsText := by
  -- An empty path adds nothing, not even a separator.
  by_cases hp : p.bytes = []
  · obtain rfl : p = ⟨""⟩ := congrArg (Path.mk ∘ OsText.mk) hp
    have hjoin : join ⟨""⟩ q = q := by
      rw [join, if_neg (by simp [hq])]
      rfl
    simp [hjoin]
  · obtain ⟨front, -, hjoin, hfront⟩ := segments_join hp hq
    have hempty : Text.encode (Text.decodeLossy []) = [] := rfl
    rw [isText_iff_forall_segments, isText_iff_forall_segments, isText_iff_forall_segments, hjoin,
      List.forall_mem_append]
    rcases hfront with h | h <;> simp [h, hempty, or_imp, forall_and]

/-- Texts are joined to texts. -/
theorem IsText.join (hp : p.IsText) (hq : q.IsText) : (p.join q).IsText := by
  cases habsolute : q.isAbsolute with
  | true => rwa [join_of_isAbsolute p habsolute]
  | false => exact (isText_join habsolute).2 ⟨hp, hq⟩

/-- The place of a name below a text is a text. -/
theorem IsText.below (hp : p.IsText) (name : String) : (p.below name).IsText :=
  hp.join (isText_mk name)

/-- A path has the parts of another one in front if its segments go on from those, up to segments
that do not count. -/
private theorem parts_of_segments {more : List Part} (habsolute : q.isAbsolute = p.isAbsolute)
    (hhead : q.segments.head? = p.segments.head?)
    (hsegments : q.segments.filterMap part? = p.segments.filterMap part? ++ more) :
    q.parts = p.parts ++ more := by
  unfold parts
  rw [habsolute, hhead, hsegments]
  split
  · rfl
  · split <;> rfl

/-- The parts of a path, and behind them those of the path that is read from there. -/
theorem parts_join (hp : p.bytes ≠ []) (hq : q.isAbsolute = false) :
    (p.join q).parts = p.parts ++ q.segments.filterMap part? := by
  obtain ⟨front, hne, hjoin, hfront⟩ := segments_join hp hq
  have hempty : [[]].filterMap part? = [] := rfl
  apply parts_of_segments
  · rw [isAbsolute_join, hq, Bool.or_false]
  · rcases hfront with h | h <;> rw [hjoin, h]
    · exact List.head?_append_of_ne_nil _ hne
    · rw [List.head?_append_of_ne_nil _ hne, List.head?_append_of_ne_nil _ hne]
  · rcases hfront with h | h <;>
      simp only [hjoin, h, List.filterMap_append, hempty, List.append_nil]

/-- A path that is read from another one leads below it. -/
theorem parts_prefix_join (p : Path) (hq : q.isAbsolute = false) :
    p.parts <+: (p.join q).parts := by
  by_cases hp : p.bytes = []
  · obtain rfl : p = ⟨""⟩ := congrArg (Path.mk ∘ OsText.mk) hp
    exact List.nil_prefix
  · exact ⟨_, (parts_join hp hq).symm⟩

/-! ### Parts that are texts -/

/-- The name is that of a text. -/
def Part.IsText : Part → Prop
  | .name s => Text.encode (Text.decodeLossy s) = s
  | _ => True

/-- A segment is a text exactly if the part that it is, if any, is one. -/
private theorem isText_part?_iff (g : List UInt8) :
    Text.encode (Text.decodeLossy g) = g ↔ ∀ part ∈ part? g, part.IsText := by
  unfold part?
  split
  · next h =>
    rcases (Bool.or_eq_true _ _ ▸ h) with h | h <;> obtain rfl := of_decide_eq_true h
    · simp
      rfl
    · simp
      decide
  · split
    · next h =>
      subst h
      simp [Part.IsText]
      decide
    · simp [Part.IsText]

/-- A path is a text exactly if all its parts are. -/
theorem isText_iff_forall_parts : p.IsText ↔ ∀ part ∈ p.parts, part.IsText := by
  have hcount : p.IsText ↔ ∀ part ∈ p.segments.filterMap part?, part.IsText := by
    rw [isText_iff_forall_segments]
    simp only [isText_part?_iff, List.mem_filterMap]
    exact ⟨fun h part ⟨g, hg, hpart⟩ => h g hg part hpart,
      fun h g hg part hpart => h part ⟨g, hg, hpart⟩⟩
  rw [hcount, parts]
  split
  · simp [Part.IsText]
  · split <;> simp [Part.IsText]

/-- A path that a text leads below is a text. -/
theorem isText_of_parts_prefix {s : String} (h : p.parts <+: parts ⟨s⟩) : p.IsText := by
  have hs := isText_iff_forall_parts.1 (isText_mk s)
  exact isText_iff_forall_parts.2 fun part hpart => hs part (h.subset hpart)

end Suite.Path
