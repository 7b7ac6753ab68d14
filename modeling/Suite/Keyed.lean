/-!
# Lists in the order of their keys

`Keyed key` holds elements in ascending order of the text `key` gives them, no key twice. With
`key := id` it is a set of texts, with `key := Prod.fst` a table from texts. The view is `toList`;
since the order is fixed, two of them with the same members are the same (`Keyed.ext_mem`).
-/

namespace Suite

/-- `x` put in its place in a list ordered by key, instead of an element of the same key. -/
def place {α : Type} (key : α → String) (x : α) : List α → List α
  | [] => [x]
  | y :: rest =>
    if key x < key y then x :: y :: rest
    else if key x = key y then x :: rest
    else y :: place key x rest

/-- Elements in ascending order of their keys, no key twice. -/
structure Keyed {α : Type} (key : α → String) where
  toList : List α
  sorted : toList.Pairwise (fun a b => key a < key b) := by simp
  deriving DecidableEq, Repr

section Place

variable {α : Type} {key : α → String}

theorem mem_of_mem_place {x y : α} {l : List α} (h : y ∈ place key x l) : y = x ∨ y ∈ l := by
  induction l with
  | nil => simpa [place] using h
  | cons z rest ih =>
    unfold place at h
    split at h
    · simpa using h
    · split at h
      · rcases List.mem_cons.1 h with h | h
        · exact .inl h
        · exact .inr (List.mem_cons_of_mem _ h)
      · rcases List.mem_cons.1 h with h | h
        · exact .inr (h ▸ List.mem_cons_self)
        · exact (ih h).imp id (List.mem_cons_of_mem _)

theorem key_lt_of_not {a b : String} (hlt : ¬a < b) (hne : ¬a = b) : b < a := by
  rcases String.le_total a b with h | h
  · exact absurd (String.le_antisymm h (String.not_lt.1 hlt)) hne
  · exact Classical.byContradiction fun hn =>
      hne (String.le_antisymm (String.not_lt.1 hn) (String.not_lt.1 hlt))

theorem sorted_place {x : α} {l : List α} (h : l.Pairwise (fun a b => key a < key b)) :
    (place key x l).Pairwise (fun a b => key a < key b) := by
  induction l with
  | nil => simp [place]
  | cons y rest ih =>
    have ⟨hy, hrest⟩ := List.pairwise_cons.1 h
    unfold place
    split
    · rename_i hlt
      refine List.pairwise_cons.2 ⟨fun b hb => ?_, h⟩
      rcases List.mem_cons.1 hb with hb | hb
      · exact hb ▸ hlt
      · exact String.lt_trans hlt (hy b hb)
    · split
      · rename_i heq
        exact List.pairwise_cons.2 ⟨fun b hb => heq ▸ hy b hb, hrest⟩
      · rename_i hlt hne
        refine List.pairwise_cons.2 ⟨fun b hb => ?_, ih hrest⟩
        rcases mem_of_mem_place hb with hb | hb
        · exact hb ▸ key_lt_of_not hlt hne
        · exact hy b hb

end Place

namespace Keyed

variable {α : Type} {key : α → String}

instance : Inhabited (Keyed key) := ⟨{ toList := [] }⟩

instance : Membership α (Keyed key) := ⟨fun s x => x ∈ s.toList⟩

/-- Nothing at all. -/
def empty : Keyed key := { toList := [] }

/-- No element is there. -/
def isEmpty (s : Keyed key) : Bool := s.toList.isEmpty

/-- Something is there exactly if it is not empty. -/
theorem isEmpty_eq_false_iff {s : Keyed key} : s.isEmpty = false ↔ ∃ x, x ∈ s := by
  rw [isEmpty, List.isEmpty_eq_false_iff_exists_mem]
  rfl

/-- With `x`, which takes the place of an element of the same key. -/
def insert (s : Keyed key) (x : α) : Keyed key := ⟨place key x s.toList, sorted_place s.sorted⟩

/-- Without the element of a key. -/
def erase (s : Keyed key) (k : String) : Keyed key :=
  ⟨s.toList.filter fun x => key x ≠ k, s.sorted.filter _⟩

/-- The elements of a list; of two with one key the later one stays. -/
def ofList (xs : List α) : Keyed key := xs.foldl insert empty

/-- The element with the key `k`. -/
def find? (s : Keyed key) (k : String) : Option α := s.toList.find? (fun x => key x == k)

/-- Some element has the key `k`. -/
def hasKey (s : Keyed key) (k : String) : Bool := s.toList.any (fun x => key x == k)

theorem find?_place (x : α) (l : List α) (h : l.Pairwise (fun a b => key a < key b)) (k : String) :
    (place key x l).find? (fun y => key y == k) =
      if key x = k then some x else l.find? (fun y => key y == k) := by
  induction l with
  | nil => by_cases hk : key x = k <;> simp [place, hk]
  | cons y rest ih =>
    have ⟨hy, hrest⟩ := List.pairwise_cons.1 h
    unfold place
    split
    · by_cases hk : key x = k <;> simp [hk]
    · split
      · rename_i heq
        by_cases hk : key x = k
        · simp [hk]
        · simp [hk, heq ▸ hk]
      · rename_i hlt hne
        by_cases hyk : key y = k
        · have hxk : key x ≠ k := fun hx => hne (hx.trans hyk.symm)
          simp [hyk, hxk]
        · simp [beq_eq_false_iff_ne.2 hyk, ih hrest]

/-- After `insert x` the key of `x` leads to `x`, and every other key to what it led to. -/
theorem find?_insert (s : Keyed key) (x : α) (k : String) :
    (s.insert x).find? k = if key x = k then some x else s.find? k :=
  find?_place x s.toList s.sorted k

theorem find?_of_mem {x : α} {l : List α} (h : l.Pairwise (fun a b => key a < key b))
    (hx : x ∈ l) : l.find? (fun y => key y == key x) = some x := by
  induction l with
  | nil => cases hx
  | cons y rest ih =>
    have ⟨hy, hrest⟩ := List.pairwise_cons.1 h
    rcases List.mem_cons.1 hx with rfl | hx
    · simp
    · have hne : key y ≠ key x := String.ne_of_lt (hy x hx)
      simp [beq_eq_false_iff_ne.2 hne, ih hrest hx]

/-- A key leads to the one element that has it. -/
theorem find?_eq_some_iff {s : Keyed key} {k : String} {x : α} :
    s.find? k = some x ↔ x ∈ s ∧ key x = k := by
  constructor
  · intro h
    exact ⟨List.mem_of_find?_eq_some h, by simpa using List.find?_some h⟩
  · rintro ⟨hx, rfl⟩
    exact find?_of_mem s.sorted hx

/-- A key is had exactly if it leads somewhere. -/
theorem hasKey_eq_isSome_find? (s : Keyed key) (k : String) : s.hasKey k = (s.find? k).isSome := by
  simp [hasKey, find?, List.isSome_find?]

/-- With `x` there are `x` and the elements of other keys. -/
theorem mem_insert_iff {s : Keyed key} {x y : α} :
    y ∈ s.insert x ↔ y = x ∨ y ∈ s ∧ key x ≠ key y := by
  have hfind : ∀ t : Keyed key, y ∈ t ↔ t.find? (key y) = some y := fun t => by
    simp [find?_eq_some_iff]
  rw [hfind, hfind, find?_insert]
  by_cases h : key x = key y
  · simp [h, eq_comm]
  · have hne : y ≠ x := fun heq => h (heq ▸ rfl)
    simp [h, hne]

theorem mem_foldl_insert_iff {xs : List α} {s : Keyed key} {x : α}
    (h : xs.Pairwise fun a b => key a ≠ key b) :
    x ∈ xs.foldl insert s ↔ x ∈ xs ∨ x ∈ s ∧ ∀ y ∈ xs, key y ≠ key x := by
  induction xs generalizing s with
  | nil => simp
  | cons y rest ih =>
    obtain ⟨hy, hrest⟩ := List.pairwise_cons.1 h
    rw [List.foldl_cons, ih hrest, mem_insert_iff]
    by_cases hx : x = y
    · subst hx
      simpa using .inr fun z hz => (hy z hz).symm
    · simp [hx, and_assoc]

/-- Ordered lists with the same members are equal. -/
theorem eq_of_sorted_of_mem_iff {l m : List α} (hl : l.Pairwise (fun a b => key a < key b))
    (hm : m.Pairwise (fun a b => key a < key b)) (h : ∀ x, x ∈ l ↔ x ∈ m) : l = m := by
  induction l generalizing m with
  | nil =>
    cases m with
    | nil => rfl
    | cons y _ => exact absurd ((h y).2 List.mem_cons_self) (by simp)
  | cons x l ih =>
    cases m with
    | nil => exact absurd ((h x).1 List.mem_cons_self) (by simp)
    | cons y m =>
      obtain ⟨hx, hl'⟩ := List.pairwise_cons.1 hl
      obtain ⟨hy, hm'⟩ := List.pairwise_cons.1 hm
      have hxy : x = y := by
        rcases List.mem_cons.1 ((h x).1 List.mem_cons_self) with hxm | hxm
        · exact hxm
        · rcases List.mem_cons.1 ((h y).2 List.mem_cons_self) with hyl | hyl
          · exact hyl.symm
          · exact absurd (hx y hyl) (String.lt_asymm (hy x hxm))
      subst hxy
      refine congrArg (x :: ·) (ih hl' hm' fun z => ⟨fun hz => ?_, fun hz => ?_⟩)
      · rcases List.mem_cons.1 ((h z).1 (List.mem_cons_of_mem _ hz)) with hzx | hzm
        · exact absurd (hzx ▸ hx z hz) (String.lt_irrefl _)
        · exact hzm
      · rcases List.mem_cons.1 ((h z).2 (List.mem_cons_of_mem _ hz)) with hzx | hzl
        · exact absurd (hzx ▸ hy z hz) (String.lt_irrefl _)
        · exact hzl

/-- What holds the same elements is the same. -/
theorem ext_mem {s t : Keyed key} (h : ∀ x, x ∈ s ↔ x ∈ t) : s = t := by
  cases s with
  | mk l hl =>
    cases t with
    | mk m hm => simpa using eq_of_sorted_of_mem_iff hl hm h

/-- Elements of different keys, in any order, are those of the list in the order of their keys. -/
theorem ofList_eq_of_perm {xs : List α} {s : Keyed key} (h : xs.Perm s.toList) : ofList xs = s := by
  have hne : s.toList.Pairwise fun a b => key a ≠ key b :=
    s.sorted.imp fun hlt => String.ne_of_lt hlt
  have hxs : xs.Pairwise fun a b => key a ≠ key b := h.symm.pairwise hne fun hab => hab.symm
  have hempty : ∀ x, x ∉ (empty : Keyed key) := fun _ => List.not_mem_nil
  refine ext_mem fun x => ?_
  rw [ofList, mem_foldl_insert_iff hxs]
  simp only [hempty, false_and, or_false]
  exact h.mem_iff

end Keyed

/-- A set of texts. -/
abbrev TextSet := Keyed (id : String → String)

/-- A table from texts. -/
abbrev Table (β : Type) := Keyed (Prod.fst : String × β → String)

/-- The value a table has for a text. -/
def Table.get? {β : Type} (t : Table β) (k : String) : Option β := (t.find? k).map (·.2)

/-- A table has a value for a text exactly if it holds the pair of both. -/
theorem Table.get?_eq_some_iff {β : Type} {t : Table β} {k : String} {v : β} :
    t.get? k = some v ↔ (k, v) ∈ t := by
  simp only [get?, Option.map_eq_some_iff, Keyed.find?_eq_some_iff]
  constructor
  · rintro ⟨⟨_, _⟩, ⟨hmem, rfl⟩, rfl⟩
    exact hmem
  · exact fun hmem => ⟨(k, v), ⟨hmem, rfl⟩, rfl⟩

/-- After `insert (k, v)` a table has `v` for `k`, and for all other texts what it had. -/
theorem Table.get?_insert {β : Type} (t : Table β) (k : String) (v : β) (l : String) :
    Table.get? (t.insert (k, v)) l = if k = l then some v else t.get? l := by
  rw [get?, Keyed.find?_insert]
  split
  · rfl
  · rfl

/-- A table has a key exactly if it has a value for it. -/
theorem Table.hasKey_eq_isSome_get? {β : Type} (t : Table β) (k : String) :
    t.hasKey k = (t.get? k).isSome := by
  rw [Keyed.hasKey_eq_isSome_find?, get?, Option.isSome_map]

/-- The sets have a common element. -/
def TextSet.meets (s t : TextSet) : Bool := s.toList.any (t.toList.contains ·)

/-- Sets meet exactly if some text is in both. -/
theorem TextSet.meets_iff {s t : TextSet} : s.meets t = true ↔ ∃ x ∈ s, x ∈ t := by
  simp only [meets, List.any_eq_true, List.contains_iff_mem]
  rfl

/-- A set of texts with one more text. -/
theorem TextSet.mem_insert_iff {s : TextSet} {x y : String} : x ∈ s.insert y ↔ x = y ∨ x ∈ s := by
  have hfind : ∀ t : TextSet, x ∈ t ↔ t.find? x = some x := fun t => by
    simp [Keyed.find?_eq_some_iff]
  rw [hfind, hfind, Keyed.find?_insert]
  by_cases h : y = x
  · simp [h]
  · simp [h, Ne.symm h]

theorem TextSet.mem_foldl_insert_iff {xs : List String} {s : TextSet} {x : String} :
    x ∈ xs.foldl Keyed.insert s ↔ x ∈ xs ∨ x ∈ s := by
  induction xs generalizing s with
  | nil => simp
  | cons y rest ih =>
    rw [List.foldl_cons, ih, mem_insert_iff, List.mem_cons, or_assoc, or_left_comm]

/-- The set of some texts holds these. -/
theorem TextSet.mem_ofList_iff {xs : List String} {x : String} :
    x ∈ (Keyed.ofList xs : TextSet) ↔ x ∈ xs := by
  have hempty : x ∉ (Keyed.empty : TextSet) := List.not_mem_nil
  simp [Keyed.ofList, mem_foldl_insert_iff, hempty]

end Suite
