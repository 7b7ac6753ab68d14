import Mathlib.Data.List.Nodup
import Mathlib.Data.List.Perm.Subperm
import Suite.Proofs.Launch.Validated
import Suite.Proofs.Repetitions

/-!
# How deep a walk goes

`Config.visit` is the recursion behind a walk, cut off at a given depth, and it keeps an account:
for which ids it was called, and of which ids it followed the dependencies. It knows nothing of a
measure. That it is not cut off once the depth exceeds the number of texts that are not met yet,
however the distributions depend on each other, says that the recursion ends.

## Key results

- `accounts_visit`: what the account of a visit holds, whether it is cut off or not
- `result_visitEach`: visits that are not cut off are the walk
- `visits_end_within_unmet`: a depth that suffices, and how many calls there are
-/

namespace Suite

namespace Config

/-- What visits come to, and their account. -/
structure Visits where
  /-- Where they lead to; nothing if they are cut off. -/
  result : Option (Except Error Walk)
  /-- The ids that are visited. -/
  called : List String := []
  /-- The ids whose dependencies are followed. -/
  expanded : List String := []

/-- Visits one id after the other, up to the first that fails or is cut off. -/
def visitEach (visit : String → Walk → Visits) : List String → Walk → Visits
  | [], w => { result := some (.ok w) }
  | id :: rest, w =>
    let first := visit id w
    match first.result with
    | some (.ok w) =>
      let others := visitEach visit rest w
      ⟨others.result, first.called ++ others.called, first.expanded ++ others.expanded⟩
    | _ => first

/-- Visits an id: one that is new is entered, and all that it depends on is visited. The depth is
that of the calls in each other. -/
def visit (c : Config) (root : Path) : (depth : Nat) → String → Walk → Visits
  | 0, _, _ => { result := none }
  | depth + 1, id, w =>
    match c.distribution? id with
    | none => { result := some (.error (.unresolvedDistribution id)), called := [id] }
    | some d =>
      if id ∈ w.met then { result := some (.ok w), called := [id] }
      else
        let below := visitEach (c.visit root depth) d.dependencies (w.enter root id d)
        ⟨below.result, id :: below.called, id :: below.expanded⟩

variable {c : Config} {root : Path} {ids : List String} {w : Walk}

/-! ### Accounts -/

/-- The account of visits along some ids, from where a walk has come. -/
structure Accounts (c : Config) (ids : List String) (w : Walk) (v : Visits) : Prop where
  /-- No id is expanded twice. -/
  nodup : v.expanded.Nodup
  /-- No id is expanded that was met before. -/
  fresh : ∀ id ∈ v.expanded, id ∉ w.met
  /-- What is expanded is met afterwards. -/
  met : ∀ w', v.result = some (.ok w') → w'.met = v.expanded.reverse ++ w.met
  /-- Only ids are visited that the given ones lead to. -/
  reached : ∀ id ∈ v.called, c.Reached ids id
  /-- Only ids are expanded that are visited. -/
  called : v.expanded ⊆ v.called
  /-- A call is for one of the ids, or for a dependency of an id that is expanded. -/
  length_le : v.called.length ≤ (ids ++ v.expanded.flatMap c.needs).length

/-- Accounts of visits along the first id and along the others are put together. -/
private theorem accounts_visitEach {visit : String → Walk → Visits}
    (h : ∀ id w, Accounts c [id] w (visit id w)) (ids : List String) (w : Walk) :
    Accounts c ids w (visitEach visit ids w) := by
  -- By induction on the ids: the account of the first visit and that of the others are put
  -- together.
  induction ids generalizing w with
  | nil => exact ⟨List.nodup_nil, by simp [visitEach], by simp [visitEach], by simp [visitEach],
      by simp [visitEach], by simp [visitEach]⟩
  | cons id rest ih =>
    have hfirst := h id w
    have hreached : ∀ x ∈ (visit id w).called, c.Reached (id :: rest) x := fun x hx =>
      (hfirst.reached x hx).trans fun y hy =>
        .start (List.mem_singleton.1 hy ▸ List.mem_cons_self)
    have hlength : (visit id w).called.length ≤
        (id :: rest ++ (visit id w).expanded.flatMap c.needs).length := by
      have hle := hfirst.length_le
      simp only [List.length_append, List.length_cons, List.length_nil] at hle ⊢
      omega
    rw [visitEach]
    split
    · next w₁ hok =>
      -- The first visit has come to an end, so the others begin with what it has met.
      have hothers := ih w₁
      have hmet := hfirst.met w₁ hok
      constructor
      · refine List.nodup_append.2 ⟨hfirst.nodup, hothers.nodup, ?_⟩
        rintro x hx _ hx' rfl
        exact hothers.fresh x hx' (by simp [hmet, hx])
      · intro x hx
        rcases List.mem_append.1 hx with hx | hx
        · exact hfirst.fresh x hx
        · exact fun hmem => hothers.fresh x hx (by simp [hmet, hmem])
      · intro w' hw'
        rw [hothers.met w' hw', hmet, List.reverse_append, List.append_assoc]
      · intro x hx
        rcases List.mem_append.1 hx with hx | hx
        · exact hreached x hx
        · exact (hothers.reached x hx).trans fun y hy => .start (List.mem_cons_of_mem id hy)
      · intro x hx
        rcases List.mem_append.1 hx with hx | hx
        · exact List.mem_append_left _ (hfirst.called hx)
        · exact List.mem_append_right _ (hothers.called hx)
      · have hle := hfirst.length_le
        have hle' := hothers.length_le
        simp only [List.length_append, List.flatMap_append, List.length_cons,
          List.length_nil] at hle hle' ⊢
        omega
    · exact { hfirst with reached := hreached, length_le := hlength }

/-- The account of a visit that follows no dependencies. -/
private theorem accounts_of_expanded_eq_nil {result : Option (Except Error Walk)}
    {called : List String}
    {id : String} (hresult : ∀ w', result = some (.ok w') → w' = w)
    (hcalled : called.Sublist [id]) : Accounts c [id] w ⟨result, called, []⟩ where
  nodup := List.nodup_nil
  fresh := by simp
  met w' hw' := by simp [hresult w' hw']
  reached x hx := .start (hcalled.subset hx)
  called := List.nil_subset _
  length_le := by simpa using hcalled.length_le

/-- A visit keeps its account, at whatever depth it is cut off. -/
theorem accounts_visit (depth : Nat) (id : String) (w : Walk) :
    Accounts c [id] w (c.visit root depth id w) := by
  -- By induction on the depth: a visit that is not cut off expands its id and visits what it needs.
  induction depth generalizing id w with
  | zero => exact accounts_of_expanded_eq_nil (by simp) (List.nil_sublist _)
  | succ depth ih =>
    rw [visit]
    split
    · exact accounts_of_expanded_eq_nil (by simp) (List.Sublist.refl _)
    · next d hd =>
      split
      · exact accounts_of_expanded_eq_nil (by simp [eq_comm]) (List.Sublist.refl _)
      · next hid =>
        have hbelow := accounts_visitEach ih d.dependencies (w.enter root id d)
        generalize visitEach (c.visit root depth) d.dependencies (w.enter root id d) = v at hbelow ⊢
        -- The id itself is met before its needs are, so no visit below expands it again.
        have hfresh : ∀ x ∈ v.expanded, x ≠ id ∧ x ∉ w.met := by
          simpa using hbelow.fresh
        constructor
        · exact List.nodup_cons.2 ⟨fun hmem => (hfresh id hmem).1 rfl, hbelow.nodup⟩
        · intro x hx
          rcases List.mem_cons.1 hx with rfl | hx
          · exact hid
          · exact (hfresh x hx).2
        · intro w' hw'
          rw [hbelow.met w' hw', met_enter]
          simp
        · intro x hx
          rcases List.mem_cons.1 hx with rfl | hx
          · exact .start List.mem_cons_self
          · exact (hbelow.reached x hx).trans fun y hy => .next (.start List.mem_cons_self) hd hy
        · exact List.cons_subset_cons id hbelow.called
        · have hle := hbelow.length_le
          simp only [List.length_append, List.length_cons, List.length_nil, List.flatMap_cons,
            needs_of_some hd] at hle ⊢
          omega

/-! ### Depth -/

/-- All texts from which ids can be taken: the given ones and the dependencies of distributions. -/
def mentioned (c : Config) (ids : List String) : List String :=
  ids ++ c.distributions.toList.flatMap fun entry => entry.2.dependencies

/-- The texts that a walk has not met, each once. -/
def unmetOf (c : Config) (ids : List String) (w : Walk) : List String :=
  (c.mentioned ids).eraseDups.filter (· ∉ w.met)

/-- What a distribution needs is mentioned in the description. -/
private theorem dependencies_subset_mentioned {id : String} {d : Distribution}
    (hd : c.distribution? id = some d) : d.dependencies ⊆ c.mentioned ids := by
  obtain ⟨key, hmem⟩ := exists_mem_of_distribution? hd
  intro dep hdep
  exact List.mem_append_right ids (List.mem_flatMap.2 ⟨(key, d), hmem, hdep⟩)

/-- What ids lead to along dependencies is mentioned, in whatever spelling it is looked up. -/
private theorem Reached.mem_mentioned {id : String} (h : c.Reached ids id) :
    id ∈ c.mentioned ids := by
  cases h with
  | start h => exact List.mem_append_left _ h
  | next _ hd hdep => exact dependencies_subset_mentioned hd hdep

/-- A walk only goes forward. -/
private theorem met_subset_of_walkEnd {w' : Walk} (h : c.walkEnd root ids w = .ok w') :
    w.met ⊆ w'.met := by
  rw [walkEnd] at h
  cases hwalk : c.walk root ids w with
  | error e =>
    rw [hwalk] at h
    cases h
  | ok walked =>
    rw [hwalk] at h
    obtain rfl : walked.val = w' := Except.ok.inj h
    exact walked.property

/-- Visits that may go deeper than there are texts not met yet are not cut off, and are the walk. -/
theorem result_visitEach (texts : List String)
    (htexts : ∀ id d, c.distribution? id = some d → d.dependencies ⊆ texts) (ids : List String)
    (w : Walk) {depth : Nat} (hids : ids ⊆ texts)
    (hdepth : (texts.filter fun id => id ∉ w.met).length < depth) :
    (visitEach (c.visit root depth) ids w).result = some (c.walkEnd root ids w) := by
  -- The cases are those of the walk; the depth is more than the number of texts that are not met.
  induction ids, w using walkEnd_induct c root generalizing depth with
  | nil w => rw [walkEnd_nil, visitEach]
  | unresolved id rest w hd =>
    obtain ⟨depth, rfl⟩ := Nat.exists_eq_add_one_of_ne_zero (Nat.ne_zero_of_lt hdepth)
    rw [walkEnd_cons_of_none rest w hd, visitEach, visit, hd]
  | met id rest w d hd hid ih =>
    obtain ⟨depth, rfl⟩ := Nat.exists_eq_add_one_of_ne_zero (Nat.ne_zero_of_lt hdepth)
    have hvisit : c.visit root (depth + 1) id w = { result := some (.ok w), called := [id] } := by
      rw [visit, hd]
      exact if_pos hid
    rw [walkEnd_cons_of_mem rest hd hid, visitEach, hvisit]
    exact ih (fun x hx => hids (List.mem_cons_of_mem id hx)) hdepth
  | new id rest w d hd hid ih₁ ih₂ =>
    obtain ⟨depth, rfl⟩ := Nat.exists_eq_add_one_of_ne_zero (Nat.ne_zero_of_lt hdepth)
    -- One text more is met below the id, and one call less is left.
    have hentered : (texts.filter fun x => x ∉ (w.enter root id d).met).length <
        (texts.filter fun x => x ∉ w.met).length :=
      length_filter_notMem_lt (List.subset_cons_self id w.met) (hids List.mem_cons_self) hid
        List.mem_cons_self
    have hbelow : (visitEach (c.visit root depth) d.dependencies (w.enter root id d)).result =
        some (c.walkEnd root d.dependencies (w.enter root id d)) :=
      ih₁ (htexts id d hd) (by omega)
    have hvisit : (c.visit root (depth + 1) id w).result =
        some (c.walkEnd root d.dependencies (w.enter root id d)) := by
      rw [visit, hd]
      simp only [if_neg hid, hbelow]
    rw [walkEnd_cons_of_notMem rest hd hid, visitEach, hvisit]
    cases hok : c.walkEnd root d.dependencies (w.enter root id d) with
    | error e => exact hvisit.trans (congrArg some hok)
    | ok w₁ =>
      -- What was met stays met, so there is as much depth as before for the others.
      have hsub : w.met ⊆ w₁.met :=
        List.Subset.trans (List.subset_cons_self id w.met) (met_subset_of_walkEnd hok)
      have hle := length_filter_notMem_le texts hsub
      exact ih₂ w₁ hok (fun x hx => hids (List.mem_cons_of_mem id hx)) (by omega)

/-- A visit to a list of one id is a visit to the id. -/
private theorem visitEach_singleton (visit : String → Walk → Visits) (id : String) (w : Walk) :
    visitEach visit [id] w = visit id w := by
  rw [visitEach]
  split
  · next hok => simp [visitEach, ← hok]
  · rfl

/-- However the distributions depend on each other, the recursion behind a walk comes to an end,
whatever ids it begins with and whatever was met before: if it may go one call deeper than there are
texts not met, it is not cut off, and leads to what the walk leads to. All ids that it can come to
are among those texts, which are the given ids and the dependencies of distributions, or were met
before. Wherever it is cut off, it has followed the dependencies of no id twice, nor of one that was
met before, and it made no more calls than there are given ids and dependencies of the ids that it
followed. -/
theorem visits_end_within_unmet (c : Config) (root : Path) (ids : List String) (w : Walk) :
    (∀ id, c.Reached ids id → id ∈ c.mentioned ids) ∧
    (∀ id, id ∈ c.unmetOf ids w ↔ id ∈ c.mentioned ids ∧ id ∉ w.met) ∧
    (∀ depth,
      let visits := visitEach (c.visit root depth) ids w
      visits.expanded.Nodup ∧ visits.expanded ⊆ c.unmetOf ids w ∧
      visits.expanded.length ≤ (c.unmetOf ids w).length ∧
      (∀ id ∈ visits.called, c.Reached ids id) ∧
      visits.called.length ≤ (ids ++ visits.expanded.flatMap c.needs).length) ∧
    (∀ depth, (c.unmetOf ids w).length < depth →
      (visitEach (c.visit root depth) ids w).result = some (c.walkEnd root ids w)) ∧
    (∀ depth id, visitEach (c.visit root depth) [id] w = c.visit root depth id w) ∧
    c.classpath root ids = (c.walkEnd root ids {}).map (·.entries) := by
  have hunmet : ∀ id, id ∈ c.unmetOf ids w ↔ id ∈ c.mentioned ids ∧ id ∉ w.met := by
    simp [unmetOf]
  refine ⟨fun id => Reached.mem_mentioned, hunmet, fun depth => ?_, fun depth hdepth => ?_,
    fun depth id => visitEach_singleton _ id w, classpath_eq_map_walkEnd c root ids⟩
  · have haccount : Accounts c ids w (visitEach (c.visit root depth) ids w) :=
      accounts_visitEach (accounts_visit depth) ids w
    -- What is expanded is called, so it is reached and mentioned; and it is fresh.
    have hsub : (visitEach (c.visit root depth) ids w).expanded ⊆ c.unmetOf ids w := fun id hid =>
      (hunmet id).2 ⟨(haccount.reached id (haccount.called hid)).mem_mentioned,
        haccount.fresh id hid⟩
    exact ⟨haccount.nodup, hsub, (haccount.nodup.subperm hsub).length_le, haccount.reached,
      haccount.length_le⟩
  · refine result_visitEach (c.mentioned ids).eraseDups (fun id d hd => ?_) ids w ?_ hdepth
    · exact fun dep hdep => List.mem_eraseDups.2 (dependencies_subset_mentioned hd hdep)
    · exact fun id hid => List.mem_eraseDups.2 (List.mem_append_left _ hid)

-- Distributions that depend on themselves, on each other and on other spellings of themselves: four
-- texts are mentioned, so a depth of five suffices.
example :
    let visits := visitEach (knotted.visit ⟨"/d"⟩ 5) ["A"] {}
    visits.expanded = ["A", "s:B", "s:A", "B"] ∧ visits.called.length = 7 ∧
      visits.result.isSome = true := by
  decide +kernel

end Config

end Suite
