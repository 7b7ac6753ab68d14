import Suite.Proofs.Launch.Reach
import Suite.Proofs.Repetitions

/-!
# Asking for more ids, or for the same ones otherwise

A walk along two lists is a walk along the first, which goes on with the second. So ids behind
others only put more entries behind theirs, and no entries at all if the others lead to them. What
stands in front of what depends on the order of the ids, but which places are on the classpath
depends only on which ids are asked for.

## Key results

- `preorder_append_of_reached`: ids that others lead to add nothing to a walk
- `preorder_eraseDups`: ids that come again add nothing to a walk
- `classpath_grows_with_ids`: classpaths for more, fewer and reordered ids compared
-/

namespace Suite

namespace Config

variable {c : Config} {root : Path} {a b : List String}

/-! ### Walks -/

/-- Ids that are all met lead to nothing new. -/
private theorem preorder_eq_nil_of_subset {pending met : List String} (h : pending ⊆ met) :
    c.preorder pending met = [] := by
  induction pending with
  | nil => exact preorder_nil c met
  | cons id rest ih =>
    obtain ⟨hid, hrest⟩ := List.cons_subset.1 h
    rw [preorder_cons_of_mem c rest hid, ih hrest]

/-- A walk along more ids begins like the one along the first of them. -/
private theorem preorder_prefix_append (c : Config) (a b : List String) :
    c.preorder a [] <+: c.preorder (a ++ b) [] := by
  rw [preorder_append]
  exact List.prefix_append _ _

/-- Ids that the ones before lead to add nothing to a walk. -/
theorem preorder_append_of_reached (h : ∀ id ∈ b, c.Reached a id) :
    c.preorder (a ++ b) [] = c.preorder a [] := by
  have hmet : b ⊆ (c.preorder a []).reverse ++ [] := by
    intro id hid
    rw [List.append_nil, List.mem_reverse]
    exact mem_preorder_iff.2 (h id hid)
  rw [preorder_append, preorder_eq_nil_of_subset hmet, List.append_nil]

/-- Ids that come again add nothing to a walk. -/
theorem preorder_eraseDups (c : Config) (ids : List String) :
    c.preorder ids.eraseDups [] = c.preorder ids [] := by
  -- By induction from the end: an id that is there already adds nothing behind the others.
  induction ids using List.reverseRecOn with
  | nil => rfl
  | append_singleton ids id ih =>
    rw [List.eraseDups_concat]
    split
    · rename_i hid
      have hreached : ∀ x ∈ [id], c.Reached ids x := by
        intro x hx
        obtain rfl := List.mem_singleton.1 hx
        exact .start hid
      rw [ih, preorder_append_of_reached hreached]
    · rw [preorder_append, preorder_append, ih]

/-- The same ids, in whatever order and however often, lead to the same ones. -/
private theorem reached_congr (h : ∀ id, id ∈ b ↔ id ∈ a) (id : String) :
    c.Reached b id ↔ c.Reached a id :=
  ⟨fun hid => hid.trans fun x hx => .start ((h x).1 hx),
    fun hid => hid.trans fun x hx => .start ((h x).2 hx)⟩

/-! ### Classpaths -/

/-- Walks that meet the same ids in the same order come to the same classpath or error. -/
theorem classpath_congr (h : c.preorder b [] = c.preorder a []) :
    c.classpath root b = c.classpath root a := by
  rw [classpath_eq, classpath_eq, h]

/-- What the first ids fail at, more ids fail at. -/
private theorem classpath_append_of_error {e : Error} (h : c.classpath root a = .error e) :
    c.classpath root (a ++ b) = .error e := by
  obtain ⟨id, hfind, rfl⟩ := classpath_eq_error_iff.1 h
  exact classpath_eq_error_iff.2
    ⟨id, (preorder_prefix_append c a b).find?_eq_some hfind, rfl⟩

/-- A classpath for more ids begins with that for the first of them. -/
private theorem exists_prefix_of_classpath_append {entries : List Path}
    (h : c.classpath root (a ++ b) = .ok entries) :
    ∃ front, c.classpath root a = .ok front ∧ front <+: entries := by
  obtain ⟨hfind, rfl⟩ := classpath_eq_ok_iff.1 h
  refine ⟨_, classpath_eq_ok_iff.2 ⟨(preorder_prefix_append c a b).find?_eq_none hfind, rfl⟩, ?_⟩
  -- The jars of the walk along the first ids are added before all others.
  rw [preorder_append, List.filterMap_append, List.foldl_append]
  exact prefix_foldl_addEntry _ _

/-- If there is a classpath for some ids, there is one for the same ids in another order or number,
with the same places on it. -/
private theorem classpath_of_mem_iff (h : ∀ id, id ∈ b ↔ id ∈ a) {entries : List Path}
    (hentries : c.classpath root a = .ok entries) :
    ∃ entries', c.classpath root b = .ok entries' ∧
      ∀ p : Path, (∃ e ∈ entries', p.same e) ↔ ∃ e ∈ entries, p.same e := by
  have hdeclared := exists_classpath_iff.1 ⟨entries, hentries⟩
  simp only [← reached_congr h] at hdeclared
  obtain ⟨entries', hentries'⟩ := exists_classpath_iff.2 hdeclared
  refine ⟨entries', hentries', fun p => ?_⟩
  rw [exists_same_of_classpath hentries', exists_same_of_classpath hentries]
  simp only [reached_congr h]

/-- Ids behind others change neither the classpath of these nor their error: a classpath for all
begins with that for the first, the first error stays, and ids that are reached, or asked for,
already change nothing at all. The same ids in another order, or another number of times, give a
classpath if these do, with the same places on it. -/
theorem classpath_grows_with_ids (c : Config) (root : Path) (a : List String) :
    (∀ b entries, c.classpath root (a ++ b) = .ok entries →
      ∃ front, c.classpath root a = .ok front ∧ front <+: entries) ∧
    (∀ b e, c.classpath root a = .error e → c.classpath root (a ++ b) = .error e) ∧
    (∀ b, (∀ id ∈ b, c.Reached a id) → c.classpath root (a ++ b) = c.classpath root a) ∧
    c.classpath root (a ++ a) = c.classpath root a ∧
    ∀ b, (∀ id, id ∈ b ↔ id ∈ a) →
      ((∃ entries, c.classpath root b = .ok entries) ↔
        ∃ entries, c.classpath root a = .ok entries) ∧
      ∀ entries entries', c.classpath root a = .ok entries → c.classpath root b = .ok entries' →
        ∀ p : Path, (∃ e ∈ entries', p.same e) ↔ ∃ e ∈ entries, p.same e := by
  -- An id that is reached has been met by the walk when it is asked for.
  have hreached (b : List String) (hb : ∀ id ∈ b, c.Reached a id) :
      c.classpath root (a ++ b) = c.classpath root a :=
    classpath_congr (preorder_append_of_reached hb)
  refine ⟨fun b entries => exists_prefix_of_classpath_append,
    fun b e => classpath_append_of_error, hreached, hreached a fun id hid => .start hid,
    fun b hb => ⟨⟨?_, ?_⟩, fun entries entries' hentries hentries' => ?_⟩⟩
  · rintro ⟨entries, hentries⟩
    obtain ⟨entries', hentries', -⟩ := classpath_of_mem_iff (fun id => (hb id).symm) hentries
    exact ⟨entries', hentries'⟩
  · rintro ⟨entries, hentries⟩
    obtain ⟨entries', hentries', -⟩ := classpath_of_mem_iff hb hentries
    exact ⟨entries', hentries'⟩
  · obtain ⟨found, hfound, hsame⟩ := classpath_of_mem_iff hb hentries
    obtain rfl := Except.ok.inj (hfound.symm.trans hentries')
    exact hsame

end Config

end Suite
