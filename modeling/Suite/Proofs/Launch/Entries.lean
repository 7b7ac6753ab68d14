import Suite.Launch.Classpath

/-!
# Entries without repetition

`addEntry` keeps a classpath free of paths that name the same place. The first spelling of a place
stays; what counts for later ones are the parts of the paths.

## Key results

- `exists_same_foldl_addEntry`: every place added is on the classpath, and no other
- `pairwise_foldl_addEntry`: no two entries name the same place
- `foldl_addEntry_eq_eraseDupsBy`: adding one by one is dropping the repetitions afterwards
-/

namespace Suite

/-- An entry of a classpath was there before or was added. -/
theorem mem_or_mem_of_mem_foldl_addEntry (jars : List Path) {entries : List Path} {e : Path}
    (h : e ∈ jars.foldl addEntry entries) : e ∈ entries ∨ e ∈ jars := by
  -- By induction on the jars: an entry was there before, or is one of them.
  induction jars generalizing entries with
  | nil => exact .inl h
  | cons p rest ih =>
    rw [List.foldl_cons] at h
    rcases ih h with h | h
    · unfold addEntry at h
      split at h
      · exact .inl h
      · rcases List.mem_append.1 h with h | h
        · exact .inl h
        · exact .inr (List.mem_singleton.1 h ▸ List.mem_cons_self)
    · exact .inr (List.mem_cons_of_mem p h)

/-- A place that is among the entries is not added again. -/
theorem addEntry_of_exists_same {entries : List Path} {p : Path} (h : ∃ e ∈ entries, p.same e) :
    addEntry entries p = entries := by
  obtain ⟨e, he, hsame⟩ := h
  have hany : entries.any (fun q => q.same p) = true :=
    List.any_eq_true.2 ⟨e, he, Path.same_symm hsame⟩
  rw [addEntry, if_pos hany]

/-- The places of a classpath with one more entry. -/
private theorem exists_same_addEntry (entries : List Path) (p q : Path) :
    (∃ e ∈ addEntry entries p, q.same e) ↔ (∃ e ∈ entries, q.same e) ∨ q.same p := by
  unfold addEntry
  split
  · -- The place is there already, under another spelling perhaps.
    rename_i hany
    obtain ⟨e, he, hep⟩ := List.any_eq_true.1 hany
    refine ⟨.inl, fun h => ?_⟩
    rcases h with h | h
    · exact h
    · exact ⟨e, he, Path.same_trans h (Path.same_symm hep)⟩
  · simp only [List.mem_append, List.mem_singleton]
    constructor
    · rintro ⟨e, he | rfl, hqe⟩
      · exact .inl ⟨e, he, hqe⟩
      · exact .inr hqe
    · rintro (⟨e, he, hqe⟩ | hqp)
      · exact ⟨e, .inl he, hqe⟩
      · exact ⟨p, .inr rfl, hqp⟩

/-- The places of a classpath with some more entries. -/
theorem exists_same_foldl_addEntry (jars entries : List Path) (q : Path) :
    (∃ e ∈ jars.foldl addEntry entries, q.same e) ↔
      (∃ e ∈ entries, q.same e) ∨ ∃ p ∈ jars, q.same p := by
  -- By induction on the jars: each of them adds its own place and no other.
  induction jars generalizing entries with
  | nil => simp
  | cons p rest ih =>
    rw [List.foldl_cons, ih, exists_same_addEntry, or_assoc]
    simp

/-- A classpath without repetition stays so with one more entry. -/
private theorem pairwise_addEntry {entries : List Path} (p : Path)
    (h : entries.Pairwise fun q r => q.same r = false) :
    (addEntry entries p).Pairwise fun q r => q.same r = false := by
  unfold addEntry
  split
  · exact h
  · rename_i hany
    refine List.pairwise_append.2 ⟨h, List.pairwise_singleton _ p, fun q hq r hr => ?_⟩
    obtain rfl : r = p := List.mem_singleton.1 hr
    have hall : ∀ e ∈ entries, e.same r = false := by simpa using hany
    exact hall q hq

/-- A classpath without repetition stays so with some more entries. -/
theorem pairwise_foldl_addEntry (jars : List Path) {entries : List Path}
    (h : entries.Pairwise fun q r => q.same r = false) :
    (jars.foldl addEntry entries).Pairwise fun q r => q.same r = false := by
  -- By induction on the jars: no place is added twice.
  induction jars generalizing entries with
  | nil => exact h
  | cons p rest ih => exact ih (pairwise_addEntry p h)

/-- Entries are added as if the ones already there were taken out first and then every path that
repeats an earlier one. -/
private theorem foldl_addEntry (jars entries : List Path) :
    jars.foldl addEntry entries =
      entries ++ (jars.filter fun p => !entries.any (·.same p)).eraseDupsBy Path.same := by
  -- By induction on the jars, for any entries that are there before.
  induction jars generalizing entries with
  | nil => simp
  | cons p rest ih =>
    rw [List.foldl_cons, ih]
    unfold addEntry
    split
    · rename_i hany
      rw [List.filter_cons_of_neg (by simp [hany])]
    · rename_i hany
      rw [List.filter_cons_of_pos (by simpa using hany), List.eraseDupsBy_cons, List.filter_filter,
        List.append_assoc, List.singleton_append]
      -- What is left to compare: the paths that repeat neither an entry nor the head.
      congr 3
      apply List.filter_congr
      intro q _
      rw [Path.same_comm q p]
      simp [List.any_append, Bool.and_comm]

/-- Entries that are there stay in front. -/
theorem prefix_foldl_addEntry (jars entries : List Path) :
    entries <+: jars.foldl addEntry entries := by
  rw [foldl_addEntry]
  exact List.prefix_append _ _

/-- Entries added one by one are those that are left when every path that repeats an earlier one is
dropped. -/
theorem foldl_addEntry_eq_eraseDupsBy (jars : List Path) :
    jars.foldl addEntry [] = jars.eraseDupsBy Path.same := by
  have hall : jars.filter (fun p => !([] : List Path).any (·.same p)) = jars :=
    List.filter_eq_self.2 fun p _ => by simp
  rw [foldl_addEntry, hall, List.nil_append]

end Suite
