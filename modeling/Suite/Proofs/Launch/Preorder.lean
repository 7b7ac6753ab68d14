import Suite.Launch.Classpath

/-!
# The order in which a walk meets distributions

`Config.preorder` lists the ids that a depth-first walk meets, each once and where it is met first.
It knows of no jars and no errors: an id that stands for no distribution is met like any other and
leads nowhere.

## Key results

- `mem_preorder_iff`: the list holds the least set of ids that is closed under dependencies
- `nodup_preorder`: no id is met twice
- `preorder_append`: a walk along two lists is a walk along the first, then one along the second
-/

namespace Suite

namespace Config

/-- The ids that the distribution of an id depends on, none if it stands for no distribution. -/
def needs (c : Config) (id : String) : List String :=
  ((c.distribution? id).map (·.dependencies)).getD []

/-- What an id needs is what its distribution depends on. -/
theorem needs_of_some {c : Config} {id : String} {d : Distribution}
    (hd : c.distribution? id = some d) : c.needs id = d.dependencies := by
  simp [needs, hd]

/-- The ids that some ids lead to along dependencies: the least set that holds them and, with an id
that stands for a distribution, all that the distribution depends on. -/
inductive Reached (c : Config) (ids : List String) : String → Prop
  | start {id : String} (h : id ∈ ids) : Reached c ids id
  | next {id dep : String} {d : Distribution} (h : Reached c ids id)
      (hd : c.distribution? id = some d) (hdep : dep ∈ d.dependencies) : Reached c ids dep

/-- Expanding an id leaves fewer spellings ahead, or else a shorter list of pending ids. -/
private theorem lex_expand (c : Config) {id : String} {met : List String} (rest : List String)
    (h : id ∉ met) :
    Prod.Lex (· < ·) (· < ·)
      (c.unmet { met := id :: met }, (c.needs id ++ rest).length)
      (c.unmet { met := met }, (id :: rest).length) := by
  have hsub : met ⊆ id :: met := List.subset_cons_self id met
  cases hd : c.distribution? id with
  | some d =>
    exact Prod.Lex.left _ _ (unmet_lt hsub (mem_spellings hd) h List.mem_cons_self)
  | none =>
    -- Nothing is declared under the id, so the measure may stay; the list loses its head.
    have hlen : (c.needs id ++ rest).length < (id :: rest).length := by simp [needs, hd]
    have hle : c.unmet { met := id :: met } ≤ c.unmet { met := met } := unmet_le hsub
    rcases Nat.lt_or_eq_of_le hle with hlt | heq
    · exact Prod.Lex.left _ _ hlt
    · rw [heq]
      exact Prod.Lex.right _ hlen

/-- The ids that a depth-first walk meets from the pending ones on, in the order in which it first
meets them, past those met before. -/
def preorder (c : Config) (pending met : List String) : List String :=
  match pending with
  | [] => []
  | id :: rest =>
    if _h : id ∈ met then c.preorder rest met
    else id :: c.preorder (c.needs id ++ rest) (id :: met)
  termination_by (c.unmet { met := met }, pending.length)
  decreasing_by
    · exact Prod.Lex.right _ (Nat.lt_succ_self _)
    · exact lex_expand c rest _h

/-- A walk to no ids meets nothing. -/
@[simp] theorem preorder_nil (c : Config) (met : List String) : c.preorder [] met = [] := by
  rw [preorder]

/-- An id that was met is passed over. -/
theorem preorder_cons_of_mem (c : Config) {id : String} {met : List String} (rest : List String)
    (h : id ∈ met) : c.preorder (id :: rest) met = c.preorder rest met := by
  rw [preorder, dif_pos h]

/-- An id that is new comes before what it needs, and that before the others. -/
theorem preorder_cons_of_notMem (c : Config) {id : String} {met : List String} (rest : List String)
    (h : id ∉ met) :
    c.preorder (id :: rest) met = id :: c.preorder (c.needs id ++ rest) (id :: met) := by
  rw [preorder, dif_neg h]

/-- Walking along one list and then along another meets what a walk along both meets. -/
theorem preorder_append (c : Config) (a b met : List String) :
    c.preorder (a ++ b) met =
      c.preorder a met ++ c.preorder b ((c.preorder a met).reverse ++ met) := by
  -- Induction along the first walk: where it ends, the second one begins.
  induction a, met using preorder.induct c with
  | case1 met => simp
  | case2 met id rest h ih =>
    rw [List.cons_append, preorder_cons_of_mem c _ h, preorder_cons_of_mem c _ h, ih]
  | case3 met id rest h ih =>
    rw [List.cons_append, preorder_cons_of_notMem c _ h, preorder_cons_of_notMem c _ h,
      ← List.append_assoc, ih]
    simp

/-! ### Members -/

section Members

variable {c : Config}

/-- An id needs what its distribution depends on, and nothing without one. -/
theorem mem_needs {id dep : String} :
    dep ∈ c.needs id ↔ ∃ d, c.distribution? id = some d ∧ dep ∈ d.dependencies := by
  cases hd : c.distribution? id <;> simp [needs, hd]

/-- What reached ids lead to is reached. -/
theorem Reached.trans {a b : List String} {id : String} (h : c.Reached a id)
    (hab : ∀ x ∈ a, c.Reached b x) : c.Reached b id := by
  induction h with
  | start h => exact hab _ h
  | next _ hd hdep ih => exact .next ih hd hdep

/-- What a reached id needs is reached. -/
theorem Reached.needs {ids : List String} {id dep : String} (h : c.Reached ids id)
    (hdep : dep ∈ c.needs id) : c.Reached ids dep := by
  obtain ⟨d, hd, hmem⟩ := mem_needs.1 hdep
  exact .next h hd hmem

/-- What is pending after an id is met was reached before. -/
theorem reached_of_mem_needs_append {id dep : String} {rest : List String}
    (h : dep ∈ c.needs id ++ rest) : c.Reached (id :: rest) dep := by
  rcases List.mem_append.1 h with h | h
  · exact Reached.needs (.start List.mem_cons_self) h
  · exact .start (List.mem_cons_of_mem id h)

/-- An id met on a walk is reached from the pending ids. -/
private theorem reached_of_mem_preorder {pending met : List String} {id : String}
    (h : id ∈ c.preorder pending met) : c.Reached pending id := by
  -- The cases are those of the recursion: nothing is pending, or the head is met or new.
  induction pending, met using preorder.induct c with
  | case1 met => simp at h
  | case2 met x rest hx ih =>
    rw [preorder_cons_of_mem c _ hx] at h
    exact (ih h).trans fun y hy => .start (List.mem_cons_of_mem x hy)
  | case3 met x rest hx ih =>
    rw [preorder_cons_of_notMem c _ hx] at h
    rcases List.mem_cons.1 h with rfl | h
    · exact .start List.mem_cons_self
    · -- An id met later is reached from what the head needs or from the rest.
      exact (ih h).trans fun y hy => reached_of_mem_needs_append hy

/-- The pending ids are met, now or before. -/
private theorem mem_preorder_of_mem {pending met : List String} {id : String} (h : id ∈ pending) :
    id ∈ met ∨ id ∈ c.preorder pending met := by
  -- The ids that are met grow along the recursion, so the statement has to speak of them as well.
  induction pending, met using preorder.induct c with
  | case1 met => cases h
  | case2 met x rest hx ih =>
    rw [preorder_cons_of_mem c _ hx]
    rcases List.mem_cons.1 h with rfl | h
    · exact .inl hx
    · exact ih h
  | case3 met x rest hx ih =>
    rw [preorder_cons_of_notMem c _ hx]
    rcases List.mem_cons.1 h with rfl | h
    · exact .inr List.mem_cons_self
    · rcases ih (List.mem_append_right _ h) with hm | hm
      · rcases List.mem_cons.1 hm with rfl | hm
        · exact .inr List.mem_cons_self
        · exact .inl hm
      · exact .inr (List.mem_cons_of_mem x hm)

/-- A walk leaves nothing open: what an id needs is met, if what the ids met before need is met or
pending. -/
private theorem needs_met {pending met : List String} {id dep : String}
    (hopen : ∀ x ∈ met, ∀ y ∈ c.needs x, y ∈ met ∨ y ∈ pending)
    (hid : id ∈ met ∨ id ∈ c.preorder pending met) (hdep : dep ∈ c.needs id) :
    dep ∈ met ∨ dep ∈ c.preorder pending met := by
  induction pending, met using preorder.induct c with
  | case1 met =>
    -- Nothing is pending any more, so all that is needed is met.
    rw [preorder_nil] at hid ⊢
    exact hopen id (hid.resolve_right List.not_mem_nil) dep hdep
  | case2 met x rest hx ih =>
    rw [preorder_cons_of_mem c _ hx] at hid ⊢
    refine ih (fun y hy z hz => ?_) hid
    rcases hopen y hy z hz with hm | hm
    · exact .inl hm
    · rcases List.mem_cons.1 hm with rfl | hm
      · exact .inl hx
      · exact .inr hm
  | case3 met x rest hx ih =>
    rw [preorder_cons_of_notMem c _ hx] at hid ⊢
    -- The head moves from the pending ids to the met ones, and what it needs becomes pending.
    have hmoved : ∀ y, y ∈ x :: met ∨ y ∈ c.preorder (c.needs x ++ rest) (x :: met) ↔
        y ∈ met ∨ y ∈ x :: c.preorder (c.needs x ++ rest) (x :: met) := by
      intro y
      simp only [List.mem_cons]
      exact ⟨fun h => by rcases h with (h | h) | h <;> simp [h],
        fun h => by rcases h with h | h | h <;> simp [h]⟩
    refine (hmoved dep).1 (ih (fun y hy z hz => ?_) ((hmoved id).2 hid))
    rcases List.mem_cons.1 hy with rfl | hy
    · exact .inr (List.mem_append_left _ hz)
    · rcases hopen y hy z hz with hm | hm
      · exact .inl (List.mem_cons_of_mem x hm)
      · rcases List.mem_cons.1 hm with rfl | hm
        · exact .inl List.mem_cons_self
        · exact .inr (List.mem_append_right _ hm)

/-- A walk from nothing meets exactly the ids that the given ones lead to. -/
theorem mem_preorder_iff {ids : List String} {id : String} :
    id ∈ c.preorder ids [] ↔ c.Reached ids id := by
  refine ⟨reached_of_mem_preorder, fun h => ?_⟩
  -- Nothing is met before the walk, so nothing is open at its beginning.
  induction h with
  | start h => exact (mem_preorder_of_mem h).resolve_left List.not_mem_nil
  | next _ hd hdep ih =>
    have hneeds := needs_met (fun x hx => by cases hx) (.inr ih) (mem_needs.2 ⟨_, hd, hdep⟩)
    exact hneeds.resolve_left List.not_mem_nil

/-- A walk meets no id twice and none of those met before. -/
theorem nodup_preorder (pending met : List String) :
    (c.preorder pending met).Nodup ∧ ∀ id ∈ c.preorder pending met, id ∉ met := by
  -- That the ids are new is proved along: it is what keeps a new head from coming again.
  induction pending, met using preorder.induct c with
  | case1 met => simp
  | case2 met x rest hx ih => rwa [preorder_cons_of_mem c _ hx]
  | case3 met x rest hx ih =>
    obtain ⟨hnodup, hnew⟩ := ih
    rw [preorder_cons_of_notMem c _ hx]
    refine ⟨List.nodup_cons.2 ⟨fun h => hnew x h List.mem_cons_self, hnodup⟩, fun y hy => ?_⟩
    rcases List.mem_cons.1 hy with rfl | hy
    · exact hx
    · exact fun hm => hnew y hy (List.mem_cons_of_mem x hm)

end Members

end Config

end Suite
