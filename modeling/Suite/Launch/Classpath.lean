import Suite.Config.Lookup

/-!
# Classpaths

The classpath for some distributions has their jars and those of everything they depend on, in the
order in which a walk along the dependencies first meets them. `Config.walk` follows each id once,
so it ends however the distributions depend on each other: an id that stands for a distribution is
one of finitely many `Config.spellings`.
-/

namespace Suite

/-- The text with the capital letters of ASCII made small. -/
def Text.lowercase (s : String) : String := String.ofList (s.toList.map Char.toLower)

/-- What gives classpath entries for ids. -/
abbrev Resolver := List String → Except Error (List Path)

/-- The variable that may hold the root of the distributions. -/
def distRootVariable : String := "BF_DIST_ROOT"

/-- The root of the distributions: a relative one is read from the current directory, so that the
entries stay valid wherever the program starts. -/
def distRoot (m : Host.Machine) (root : Path) : Path := m.cwdPath.join root

/-- The root of the distributions that the environment gives, or else the place of the build. -/
def distRootOfEnvironment (m : Host.Machine) : Path :=
  distRoot m (((m.setting? distRootVariable).map Path.mk).getD ⟨"mxbuild/dists"⟩)

/-- The jar of a distribution: where the distribution says, or else named for the last part of its
id. -/
def jarPath (root : Path) (id : String) (d : Distribution) : Path :=
  match d.path with
  | some p => root.join p
  | none => root.below (Text.lowercase (Text.afterLast ':' id) ++ ".jar")

/-- How far a walk along the dependencies has come: the ids met and the entries found. -/
structure Walk where
  met : List String := []
  entries : List Path := []
  deriving DecidableEq, Repr

/-- The entries with one more, unless the same place is among them. -/
def addEntry (entries : List Path) (p : Path) : List Path :=
  if entries.any (fun q => q.same p) then entries else entries ++ [p]

/-- The walk after a distribution is met for the first time under an id. -/
def Walk.enter (w : Walk) (root : Path) (id : String) (d : Distribution) : Walk where
  met := id :: w.met
  entries := if d.native then w.entries else addEntry w.entries (jarPath root id d)

namespace Config

/-- The ids that can stand for a distribution. -/
def spellings (c : Config) : List String :=
  let ids := c.distributions.toList.map (·.1)
  ids ++ ids.map (c.name ++ ":" ++ ·)

/-- How many of the spellings a walk has not met. -/
def unmet (c : Config) (w : Walk) : Nat := (c.spellings.filter (fun id => id ∉ w.met)).length

theorem mem_ids_of_get? {c : Config} {id : String} {d : Distribution}
    (h : c.distributions.get? id = some d) : id ∈ c.distributions.toList.map (·.1) := by
  obtain ⟨entry, hfind, _⟩ := Option.map_eq_some_iff.1 h
  have hkey : entry.1 = id := by simpa using List.find?_some hfind
  exact List.mem_map.2 ⟨entry, List.mem_of_find?_eq_some hfind, hkey⟩

/-- An id that stands for a distribution is a spelling. -/
theorem mem_spellings {c : Config} {id : String} {d : Distribution}
    (h : c.distribution? id = some d) : id ∈ c.spellings := by
  unfold distribution? at h
  split at h
  · rename_i hget
    exact List.mem_append_left _ (mem_ids_of_get? hget)
  · obtain ⟨rest, hrest, hget⟩ := Option.bind_eq_some_iff.1 h
    have hid := Text.withoutFront?_eq_some_iff.1 hrest
    exact List.mem_append_right _ (List.mem_map.2 ⟨rest, mem_ids_of_get? hget, hid.symm⟩)

theorem length_filter_notMem_le (ids : List String) {s t : List String} (h : s ⊆ t) :
    (ids.filter (fun id => id ∉ t)).length ≤ (ids.filter (fun id => id ∉ s)).length := by
  induction ids with
  | nil => simp
  | cons x rest ih =>
    by_cases hs : x ∈ s
    · simpa [hs, h hs] using ih
    · by_cases ht : x ∈ t
      · simpa [hs, ht] using Nat.le_succ_of_le ih
      · simpa [hs, ht] using ih

theorem length_filter_notMem_lt {ids : List String} {s t : List String} (h : s ⊆ t) {x : String}
    (hx : x ∈ ids) (hs : x ∉ s) (ht : x ∈ t) :
    (ids.filter (fun id => id ∉ t)).length < (ids.filter (fun id => id ∉ s)).length := by
  induction ids with
  | nil => cases hx
  | cons y rest ih =>
    have hle := length_filter_notMem_le rest h
    by_cases hxy : x = y
    · subst hxy
      simpa [hs, ht] using Nat.lt_succ_of_le hle
    · have hlt := ih ((List.mem_cons.1 hx).resolve_left hxy)
      by_cases hys : y ∈ s
      · simpa [hys, h hys] using hlt
      · by_cases hyt : y ∈ t
        · simpa [hys, hyt] using Nat.lt_succ_of_lt hlt
        · simpa [hys, hyt] using hlt

/-- A walk that has met one more spelling has fewer ahead. -/
theorem unmet_lt {c : Config} {v w : Walk} (h : v.met ⊆ w.met) {id : String}
    (hid : id ∈ c.spellings) (hv : id ∉ v.met) (hw : id ∈ w.met) : c.unmet w < c.unmet v :=
  length_filter_notMem_lt h hid hv hw

theorem unmet_le {c : Config} {v w : Walk} (h : v.met ⊆ w.met) : c.unmet w ≤ c.unmet v :=
  length_filter_notMem_le _ h

/-- The walk along some ids and all they depend on, each dependency before the next id. It stops
at an id that stands for no distribution, and goes past one that it has met. -/
def walk (c : Config) (root : Path) (ids : List String) (w : Walk) :
    Except Error { w' : Walk // w.met ⊆ w'.met } :=
  match ids with
  | [] => .ok ⟨w, fun _ h => h⟩
  | id :: rest =>
    match _hd : c.distribution? id with
    | none => .error (.unresolvedDistribution id)
    | some d =>
      if _hmet : id ∈ w.met then c.walk root rest w
      else
        match c.walk root d.dependencies (w.enter root id d) with
        | .error e => .error e
        | .ok ⟨w₁, h₁⟩ =>
          match c.walk root rest w₁ with
          | .error e => .error e
          | .ok ⟨w₂, h₂⟩ => .ok ⟨w₂, fun _ h => h₂ (h₁ (List.mem_cons_of_mem _ h))⟩
  termination_by (c.unmet w, ids.length)
  decreasing_by
    · exact Prod.Lex.right _ (Nat.lt_succ_self _)
    · exact Prod.Lex.left _ _ (unmet_lt (fun _ h => List.mem_cons_of_mem _ h)
        (mem_spellings _hd) _hmet List.mem_cons_self)
    · exact Prod.Lex.left _ _ (unmet_lt (fun _ h => h₁ (List.mem_cons_of_mem _ h))
        (mem_spellings _hd) _hmet (h₁ List.mem_cons_self))

/-- The classpath for some ids, with jars below `root`. -/
def classpath (c : Config) (root : Path) : Resolver := fun ids =>
  (c.walk root ids {}).map fun w => w.val.entries

end Config

end Suite
