/-!
# Computations that may fail

Equations for `Except`, by which programs in it are taken apart step by step, and for lists of
results in `Option`.
-/

namespace Except

variable {ε ε' α β : Type}

@[simp] theorem ok_bind (a : α) (f : α → Except ε β) : (Except.ok a >>= f) = f a := rfl

@[simp] theorem error_bind (e : ε) (f : α → Except ε β) : (Except.error e >>= f) = .error e := rfl

@[simp] theorem ok_map (f : α → β) (a : α) : (Except.ok a : Except ε α).map f = .ok (f a) := rfl

@[simp] theorem error_map (f : α → β) (e : ε) :
    (Except.error e : Except ε α).map f = .error e := rfl

@[simp] theorem ok_mapError (f : ε → ε') (a : α) :
    (Except.ok a : Except ε α).mapError f = .ok a := rfl

@[simp] theorem error_mapError (f : ε → ε') (e : ε) :
    (Except.error e : Except ε α).mapError f = .error (f e) := rfl

/-- Two steps one after the other succeed exactly if both do. -/
theorem bind_eq_ok_iff {x : Except ε α} {f : α → Except ε β} {b : β} :
    (x >>= f) = .ok b ↔ ∃ a, x = .ok a ∧ f a = .ok b := by
  cases x with
  | error e => simp
  | ok a => simp

/-- A mapped result is there exactly if there is one to be mapped. -/
theorem map_eq_ok_iff {x : Except ε α} {f : α → β} {b : β} :
    x.map f = .ok b ↔ ∃ a, x = .ok a ∧ f a = b := by
  cases x <;> simp

/-- A fold that succeeds does so too with a step that succeeds wherever the first one does. -/
theorem foldlM_eq_ok_of_imp {f g : β → α → Except ε β} {xs : List α} {b c : β}
    (hstep : ∀ b a c, f b a = .ok c → g b a = .ok c) (h : xs.foldlM f b = .ok c) :
    xs.foldlM g b = .ok c := by
  -- By induction on the list, for every state that the fold can start from.
  induction xs generalizing b with
  | nil => exact h
  | cons a rest ih =>
    rw [List.foldlM_cons, bind_eq_ok_iff] at h ⊢
    obtain ⟨b', hf, hrest⟩ := h
    exact ⟨b', hstep b a b' hf, ih hrest⟩

/-- A list of results fails with its first one, or with one of the others after it. -/
private theorem mapM_cons_eq_error_iff {f : α → Except ε β} {x : α} {rest : List α} {e : ε} :
    (x :: rest).mapM f = .error e ↔
      f x = .error e ∨ (∃ b, f x = .ok b) ∧ rest.mapM f = .error e := by
  rw [List.mapM_cons]
  cases f x with
  | error e' => simp
  | ok b => cases rest.mapM f <;> simp [pure, Except.pure]

/-- A list of results, some of which are not asked for, fails with the first error among those
that are. -/
theorem mapM_filter_eq_error_iff {f : α → Except ε β} {p : α → Bool} {xs : List α} {e : ε} :
    (xs.filter p).mapM f = .error e ↔
      ∃ before x after, xs = before ++ x :: after ∧
        (∀ y ∈ before, p y = true → ∃ b, f y = .ok b) ∧ p x = true ∧ f x = .error e := by
  constructor
  · intro h
    -- By induction on the list: the error is that of the head, or it is found behind it.
    induction xs with
    | nil => cases h
    | cons x rest ih =>
      by_cases hp : p x = true
      · rw [List.filter_cons_of_pos hp, mapM_cons_eq_error_iff] at h
        rcases h with hx | ⟨hx, hrest⟩
        · exact ⟨[], x, rest, rfl, by simp, hp, hx⟩
        · obtain ⟨before, y, after, rfl, hbefore, hy⟩ := ih hrest
          exact ⟨x :: before, y, after, rfl, by simpa [hx] using hbefore, hy⟩
      · rw [List.filter_cons_of_neg hp] at h
        obtain ⟨before, y, after, rfl, hbefore, hy⟩ := ih h
        exact ⟨x :: before, y, after, rfl, by simpa [hp] using hbefore, hy⟩
  · rintro ⟨before, x, after, rfl, hbefore, hp, hx⟩
    -- By induction on what stands before: nothing that is asked for there fails.
    induction before with
    | nil =>
      rw [List.nil_append, List.filter_cons_of_pos hp, mapM_cons_eq_error_iff]
      exact .inl hx
    | cons y before ih =>
      obtain ⟨hy, hrest⟩ := List.forall_mem_cons.1 hbefore
      rw [List.cons_append]
      by_cases hpy : p y = true
      · rw [List.filter_cons_of_pos hpy, mapM_cons_eq_error_iff]
        exact .inr ⟨hy hpy, ih hrest⟩
      · rw [List.filter_cons_of_neg hpy]
        exact ih hrest

/-- What is found in a list: at its head, and behind it. -/
theorem filterMapM_cons_eq (f : α → Except ε (Option β)) (x : α) (rest : List α) :
    (x :: rest).filterMapM f =
      f x >>= fun found => (rest.filterMapM f).map (found.toList ++ ·) := by
  rw [List.filterMapM_cons]
  cases f x with
  | error e => rfl
  | ok found => cases found <;> cases rest.filterMapM f <;> rfl

/-- Functions that agree on a list find the same in it. -/
theorem filterMapM_congr {f g : α → Except ε (Option β)} {xs : List α}
    (h : ∀ x ∈ xs, f x = g x) : xs.filterMapM f = xs.filterMapM g := by
  induction xs with
  | nil => rfl
  | cons x rest ih =>
    obtain ⟨hx, hrest⟩ := List.forall_mem_cons.1 h
    rw [filterMapM_cons_eq, filterMapM_cons_eq, hx, ih hrest]

/-- Where one element gives nothing, a step that differs there adds what it gives in its place. -/
theorem exists_filterMapM_insert {f g : α → Except ε (Option β)} {before after : List α} {x : α}
    {ys : List β} (hsame : ∀ y ∈ before ++ after, f y = g y) (hx : g x = .ok none)
    (h : (before ++ x :: after).filterMapM g = .ok ys) :
    ∃ front back, ys = front ++ back ∧ (∀ y ∈ front, ∃ z ∈ before, g z = .ok (some y)) ∧
      (before ++ x :: after).filterMapM f =
        (f x).map fun found => front ++ found.toList ++ back := by
  -- By induction on what stands before the element: only there do the two functions differ.
  induction before generalizing ys with
  | nil =>
    rw [List.nil_append] at hsame h
    rw [filterMapM_cons_eq, hx, ok_bind] at h
    refine ⟨[], ys, rfl, by simp, ?_⟩
    rw [List.nil_append, filterMapM_cons_eq, filterMapM_congr hsame]
    cases hafter : after.filterMapM g with
    | error e =>
      rw [hafter] at h
      cases h
    | ok zs =>
      rw [hafter] at h
      obtain rfl : zs = ys := Except.ok.inj h
      -- What the first function makes of the element is the same for both sides.
      cases f x <;> simp
  | cons y before ih =>
    obtain ⟨hy, hrest⟩ := List.forall_mem_cons.1 hsame
    rw [List.cons_append, filterMapM_cons_eq] at h
    obtain ⟨found, hfound, h⟩ := bind_eq_ok_iff.1 h
    cases hmore : (before ++ x :: after).filterMapM g with
    | error e =>
      rw [hmore] at h
      cases h
    | ok zs =>
      rw [hmore] at h
      obtain rfl : found.toList ++ zs = ys := Except.ok.inj h
      obtain ⟨front, back, rfl, hfront, hf⟩ := ih hrest hmore
      refine ⟨found.toList ++ front, back, by rw [List.append_assoc], fun z hz => ?_, ?_⟩
      · rcases List.mem_append.1 hz with hz | hz
        · obtain rfl : found = some z := Option.mem_toList.1 hz
          exact ⟨y, List.mem_cons_self, hfound⟩
        · obtain ⟨w, hw, hgw⟩ := hfront z hz
          exact ⟨w, List.mem_cons_of_mem y hw, hgw⟩
      · rw [List.cons_append, filterMapM_cons_eq, hy, hfound, ok_bind, hf]
        cases f x <;> simp

/-- Another error does not change a result. -/
theorem mapError_eq_ok_iff {x : Except ε α} {f : ε → ε'} {a : α} :
    x.mapError f = .ok a ↔ x = .ok a := by
  cases x <;> simp

/-- The result as an option. -/
theorem toOption_eq_some_iff {x : Except ε α} {a : α} : x.toOption = some a ↔ x = .ok a := by
  cases x <;> simp [Except.toOption]

end Except

namespace Option

variable {α β : Type}

/-- A list of results lacks something exactly if one of them does. -/
theorem mapM_eq_none_iff {f : α → Option β} {xs : List α} :
    xs.mapM f = none ↔ ∃ x ∈ xs, f x = none := by
  -- By induction on the list; one element without a result is enough.
  induction xs with
  | nil => simp
  | cons x rest ih =>
    rw [List.mapM_cons]
    cases hx : f x with
    | none => simp [hx]
    | some y => cases hrest : rest.mapM f <;> simp_all

end Option
