import Suite.Proofs.Launch.Preorder

/-!
# Walks as passes over the preorder

`Config.walk` recurses along dependencies and stops at the first id that stands for nothing. Here it
becomes one pass over `Config.preorder`, so that questions about classpaths are questions about a
list.

## Key results

- `walkEnd_eq_foldlM`: a walk meets the ids of the preorder one after the other
- `foldlM_meet`: what meeting a list of ids comes to
- `classpath_eq`: the classpath, or the error, read off the preorder
-/

namespace Suite

namespace Config

variable {c : Config} {root : Path}

/-- The id stands for no distribution. -/
def isUnresolved (c : Config) (id : String) : Bool := (c.distribution? id).isNone

/-- An id without a distribution is unresolved. -/
theorem isUnresolved_of_none {id : String} (hd : c.distribution? id = none) :
    c.isUnresolved id = true := by
  simp [isUnresolved, hd]

/-- An id with a distribution is not unresolved. -/
theorem isUnresolved_of_some {id : String} {d : Distribution} (hd : c.distribution? id = some d) :
    c.isUnresolved id = false := by
  simp [isUnresolved, hd]

/-- An id that stands for a distribution may join those that do. -/
theorem resolved_cons {id : String} {d : Distribution} {met : List String}
    (hd : c.distribution? id = some d) (hmet : ∀ x ∈ met, c.isUnresolved x = false) :
    ∀ x ∈ id :: met, c.isUnresolved x = false := by
  intro x hx
  rcases List.mem_cons.1 hx with rfl | hx
  · exact isUnresolved_of_some hd
  · exact hmet x hx

/-- An id that stands for nothing is not among those that stand for distributions. -/
theorem notMem_of_resolved {id : String} {met : List String} (hd : c.distribution? id = none)
    (hmet : ∀ x ∈ met, c.isUnresolved x = false) : id ∉ met := by
  intro h
  have hresolved := hmet id h
  rw [isUnresolved_of_none hd] at hresolved
  cases hresolved

/-- The jar that an id puts on a classpath, if it stands for a distribution that has one. -/
def jar? (c : Config) (root : Path) (id : String) : Option Path :=
  (c.distribution? id).bind fun d => if d.native then none else some (jarPath root id d)

/-- The walk after an id that it has not met before. -/
def meet (c : Config) (root : Path) (w : Walk) (id : String) : Except Error Walk :=
  match c.distribution? id with
  | none => .error (.unresolvedDistribution id)
  | some d => .ok (w.enter root id d)

/-! ### Meeting a list of ids -/

/-- Meeting an id without a distribution is an error. -/
private theorem meet_of_none {w : Walk} {id : String} (h : c.distribution? id = none) :
    c.meet root w id = .error (.unresolvedDistribution id) := by
  simp [meet, h]

/-- Meeting an id with a distribution puts down both. -/
private theorem meet_of_some {w : Walk} {id : String} {d : Distribution}
    (h : c.distribution? id = some d) : c.meet root w id = .ok (w.enter root id d) := by
  simp [meet, h]

/-- The id of a distribution that is entered has been met. -/
@[simp] theorem met_enter (w : Walk) (id : String) (d : Distribution) :
    (w.enter root id d).met = id :: w.met := rfl

/-- Entering a distribution adds its jar, if it has one. -/
private theorem enter_eq {w : Walk} {id : String} {d : Distribution}
    (h : c.distribution? id = some d) :
    w.enter root id d = ⟨id :: w.met, (c.jar? root id).toList.foldl addEntry w.entries⟩ := by
  cases hnative : d.native <;> simp [Walk.enter, jar?, h, hnative]

/-- Meeting ids one after the other fails at the first that stands for nothing; otherwise all are
met, and their jars are added in order. -/
theorem foldlM_meet (ids : List String) (w : Walk) :
    ids.foldlM (c.meet root) w =
      match ids.find? c.isUnresolved with
      | some id => .error (.unresolvedDistribution id)
      | none => .ok ⟨ids.reverse ++ w.met,
          (ids.filterMap (c.jar? root)).foldl addEntry w.entries⟩ := by
  induction ids generalizing w with
  | nil => rfl
  | cons id rest ih =>
    rw [List.foldlM_cons]
    cases hd : c.distribution? id with
    | none =>
      rw [meet_of_none hd, List.find?_cons_of_pos (isUnresolved_of_none hd)]
      rfl
    | some d =>
      have hsome : ¬ c.isUnresolved id = true := by simp [isUnresolved_of_some hd]
      rw [meet_of_some hd, List.find?_cons_of_neg hsome]
      -- Going on after a success is the pass over the rest from where the id was entered.
      change rest.foldlM (c.meet root) (w.enter root id d) = _
      rw [ih, enter_eq hd]
      cases hjar : c.jar? root id <;> simp [hjar]

/-- After ids were met, they are among those met, and they all stand for distributions. -/
private theorem of_foldlM_meet_eq_ok {ids : List String} {w w' : Walk}
    (h : ids.foldlM (c.meet root) w = .ok w') :
    w'.met = ids.reverse ++ w.met ∧ ∀ id ∈ ids, c.isUnresolved id = false := by
  rw [foldlM_meet] at h
  split at h
  · cases h
  · next hnone =>
    obtain rfl := Except.ok.inj h
    exact ⟨rfl, fun id hid => by simpa using List.find?_eq_none.1 hnone id hid⟩

/-! ### Walks -/

/-- Where a walk along some ids comes to, without the proof that it only goes forward. -/
def walkEnd (c : Config) (root : Path) (ids : List String) (w : Walk) : Except Error Walk :=
  (c.walk root ids w).map Subtype.val

/-- A walk to no ids ends where it begins. -/
@[simp] theorem walkEnd_nil (w : Walk) : c.walkEnd root [] w = .ok w := by
  rw [walkEnd, walk]
  rfl

/-- A walk to an id without a distribution fails. -/
theorem walkEnd_cons_of_none {id : String} (rest : List String) (w : Walk)
    (hd : c.distribution? id = none) :
    c.walkEnd root (id :: rest) w = .error (.unresolvedDistribution id) := by
  rw [walkEnd, walk]
  split
  · rfl
  · next d hsome => simp [hd] at hsome

/-- A walk passes over an id that was met. -/
theorem walkEnd_cons_of_mem {id : String} {d : Distribution} (rest : List String) {w : Walk}
    (hd : c.distribution? id = some d) (hid : id ∈ w.met) :
    c.walkEnd root (id :: rest) w = c.walkEnd root rest w := by
  rw [walkEnd, walk]
  split
  · next hnone => simp [hd] at hnone
  · rw [dif_pos hid, walkEnd]

/-- A walk to a new id goes along its dependencies first. -/
theorem walkEnd_cons_of_notMem {id : String} {d : Distribution} (rest : List String) {w : Walk}
    (hd : c.distribution? id = some d) (hid : id ∉ w.met) :
    c.walkEnd root (id :: rest) w =
      (c.walkEnd root d.dependencies (w.enter root id d)).bind (c.walkEnd root rest) := by
  rw [walkEnd, walk]
  split
  · next hnone => simp [hd] at hnone
  · next d' hd' =>
    obtain rfl : d = d' := Option.some.inj (hd.symm.trans hd')
    rw [dif_neg hid, walkEnd]
    cases c.walk root d.dependencies (w.enter root id d) with
    | error e => rfl
    | ok w₁ =>
      -- The walk along the rest needs the end of this one, but not the proof that comes with it.
      obtain ⟨w₁, h₁⟩ := w₁
      change _ = c.walkEnd root rest w₁
      rw [walkEnd]
      dsimp only
      cases c.walk root rest w₁ <;> rfl

/-- Induction along a walk: a new id comes with the walk along its dependencies and, if that comes
to an end, with the walk along the rest. -/
theorem walkEnd_induct (c : Config) (root : Path) {motive : List String → Walk → Prop}
    (nil : ∀ w, motive [] w)
    (unresolved : ∀ id rest w, c.distribution? id = none → motive (id :: rest) w)
    (met : ∀ id rest w d, c.distribution? id = some d → id ∈ w.met → motive rest w →
      motive (id :: rest) w)
    (new : ∀ id rest w d, c.distribution? id = some d → id ∉ w.met →
      motive d.dependencies (w.enter root id d) →
      (∀ w₁, c.walkEnd root d.dependencies (w.enter root id d) = .ok w₁ → motive rest w₁) →
      motive (id :: rest) w)
    (ids : List String) (w : Walk) : motive ids w := by
  induction ids, w using walk.induct c root with
  | case1 w => exact nil w
  | case2 w id rest hd => exact unresolved id rest w hd
  | case3 w id rest d hd hid ih => exact met id rest w d hd hid ih
  | case4 w id rest d hd hid e herr ih =>
    refine new id rest w d hd hid ih fun v hv => ?_
    -- The walk along the dependencies fails, so there is none along the rest.
    rw [walkEnd, herr] at hv
    cases hv
  | case5 w id rest d hd hid w₁ h₁ hok e _ ih₁ ih₂
  | case6 w id rest d hd hid w₁ h₁ hok w₂ h₂ _ ih₁ ih₂ =>
    refine new id rest w d hd hid ih₁ fun v hv => ?_
    rw [walkEnd, hok] at hv
    obtain rfl : w₁ = v := Except.ok.inj hv
    exact ih₂

/-- A walk meets the ids of the preorder one after the other. -/
theorem walkEnd_eq_foldlM (ids : List String) (w : Walk)
    (hmet : ∀ id ∈ w.met, c.isUnresolved id = false) :
    c.walkEnd root ids w = (c.preorder ids w.met).foldlM (c.meet root) w := by
  induction ids, w using walkEnd_induct c root with
  | nil w =>
    rw [walkEnd_nil, preorder_nil]
    rfl
  | unresolved id rest w hd =>
    -- What was met stands for distributions, so this id was not.
    have hid := notMem_of_resolved hd hmet
    rw [walkEnd_cons_of_none rest w hd, preorder_cons_of_notMem c _ hid, List.foldlM_cons,
      meet_of_none hd]
    rfl
  | met id rest w d hd hid ih =>
    rw [walkEnd_cons_of_mem rest hd hid, preorder_cons_of_mem c _ hid, ih hmet]
  | new id rest w d hd hid ih₁ ih₂ =>
    have hentered := resolved_cons hd hmet
    have hdeps := ih₁ hentered
    rw [met_enter] at hdeps
    -- The preorder splits where the walk goes from the dependencies to the rest.
    rw [walkEnd_cons_of_notMem rest hd hid, preorder_cons_of_notMem c _ hid, List.foldlM_cons,
      meet_of_some hd, needs_of_some hd, preorder_append]
    change _ = List.foldlM (c.meet root) (w.enter root id d) _
    rw [List.foldlM_append, hdeps]
    cases hok : (c.preorder d.dependencies (id :: w.met)).foldlM (c.meet root)
        (w.enter root id d) with
    | error e => rfl
    | ok w₁ =>
      obtain ⟨hmet₁, hresolved⟩ := of_foldlM_meet_eq_ok hok
      rw [met_enter] at hmet₁
      -- The walk along the rest begins with more ids met, all of which stand for distributions.
      have hmet₁' : ∀ x ∈ w₁.met, c.isUnresolved x = false := by
        intro x hx
        rw [hmet₁, List.mem_append, List.mem_reverse] at hx
        rcases hx with hx | hx
        · exact hresolved x hx
        · exact hentered x hx
      change c.walkEnd root rest w₁ = List.foldlM (c.meet root) w₁ _
      rw [ih₂ w₁ (hdeps.trans hok) hmet₁', hmet₁]

/-- A classpath has the entries at the end of the walk. -/
theorem classpath_eq_map_walkEnd (c : Config) (root : Path) (ids : List String) :
    c.classpath root ids = (c.walkEnd root ids {}).map (·.entries) := by
  rw [classpath, walkEnd]
  cases c.walk root ids {} <;> rfl

/-- The classpath holds the jars of the preorder, unless some id in it stands for nothing: the first
of these is the error. -/
theorem classpath_eq (c : Config) (root : Path) (ids : List String) :
    c.classpath root ids =
      match (c.preorder ids []).find? c.isUnresolved with
      | some id => .error (.unresolvedDistribution id)
      | none => .ok (((c.preorder ids []).filterMap (c.jar? root)).foldl addEntry []) := by
  rw [classpath_eq_map_walkEnd, walkEnd_eq_foldlM ids {} (fun id hid => by cases hid), foldlM_meet]
  cases (c.preorder ids []).find? c.isUnresolved <;> rfl

end Config

end Suite
