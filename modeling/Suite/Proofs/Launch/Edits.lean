import Mathlib.Data.List.Basic
import Mathlib.Data.List.Find
import Suite.Launch.Command
import Suite.Proofs.Launch.Aliases
import Suite.Proofs.Launch.Validated

/-!
# Edits elsewhere

A classpath is put together from what its ids lead to and from nothing else. Two descriptions that
answer alike for all of that give the same classpath, or the same error, whatever else they declare
and whatever they are called. An edit keeps the answers if none of these ids stands for what it
touches, neither before nor after it: a distribution that is added may take over a spelling which
was an alias before.

## Key results

- `preorder_of_agreeOn`: a walk stays where the descriptions agree
- `distribution?_eq_some_iff`: an id stands for something declared under itself or under what it is
  an alias of
- `DiffersAside.agreeOn`: edits aside from what ids stand for leave the answers as they are
- `launch_unchanged_by_edits`: what becomes of classpaths and launches
-/

namespace Suite

namespace Config

variable {c c' : Config} {root : Path} {ids : List String}

/-! ### Agreement -/

/-- The second description answers like the first for all that the ids lead to in the first. -/
def AgreeOn (c c' : Config) (ids : List String) : Prop :=
  ∀ id, c.Reached ids id → c'.distribution? id = c.distribution? id

/-- Agreement passes on to whatever the ids lead to. -/
private theorem AgreeOn.of_reached {a b : List String} (h : c.AgreeOn c' a)
    (hb : ∀ id ∈ b, c.Reached a id) : c.AgreeOn c' b :=
  fun id hid => h id (hid.trans hb)

/-- A walk through the second description meets what a walk through the first meets. -/
theorem preorder_of_agreeOn {pending met : List String} (h : c.AgreeOn c' pending) :
    c'.preorder pending met = c.preorder pending met := by
  induction pending, met using preorder.induct c with
  | case1 met => rw [preorder_nil, preorder_nil]
  | case2 met id rest hid ih =>
    have hrest : c.AgreeOn c' rest := h.of_reached fun x hx => .start (List.mem_cons_of_mem id hx)
    rw [preorder_cons_of_mem c' rest hid, preorder_cons_of_mem c rest hid, ih hrest]
  | case3 met id rest hid ih =>
    -- The id is reached, so that it needs the same in both.
    have hneeds : c'.needs id = c.needs id := by
      rw [needs, needs, h id (.start List.mem_cons_self)]
    have hopened : c.AgreeOn c' (c.needs id ++ rest) :=
      h.of_reached fun x hx => reached_of_mem_needs_append hx
    rw [preorder_cons_of_notMem c' rest hid, preorder_cons_of_notMem c rest hid, hneeds,
      ih hopened]

/-- Descriptions that agree on all that ids lead to give the same classpath, or the same error. -/
private theorem classpath_of_agreeOn (h : c.AgreeOn c' ids) :
    c'.classpath root ids = c.classpath root ids := by
  have hanswer : ∀ id ∈ c.preorder ids [], c'.distribution? id = c.distribution? id :=
    fun id hid => h id (mem_preorder_iff.1 hid)
  have hfind : (c.preorder ids []).find? c'.isUnresolved =
      (c.preorder ids []).find? c.isUnresolved :=
    List.find?_congr fun id hid => by rw [isUnresolved, isUnresolved, hanswer id hid]
  have hjars : (c.preorder ids []).filterMap (c'.jar? root) =
      (c.preorder ids []).filterMap (c.jar? root) :=
    List.filterMap_congr fun id hid => by rw [jar?, jar?, hanswer id hid]
  rw [classpath_eq, classpath_eq, preorder_of_agreeOn h, hfind, hjars]

/-! ### Edits -/

/-- The id stands for the distribution that is declared under the key: it is the key or an alias
of it. -/
inductive StandsFor (c : Config) : String → String → Prop
  | declared {key : String} {d : Distribution} (h : c.distributions.get? key = some d) :
      StandsFor c key key
  | respelled {full key : String} (h : c.IsAlias full key) : StandsFor c full key

/-- What an id stands for is declared under a key that it stands for. -/
theorem distribution?_eq_some_iff {id : String} {d : Distribution} :
    c.distribution? id = some d ↔
      ∃ key, c.StandsFor id key ∧ c.distributions.get? key = some d := by
  constructor
  · intro hd
    unfold distribution? at hd
    -- A declared id stands for itself, and only another one is looked at without its suite.
    split at hd
    · next e he => exact ⟨id, .declared he, he.trans hd⟩
    · next hnone =>
      obtain ⟨key, hkey, hget⟩ := Option.bind_eq_some_iff.1 hd
      have hspelling := Text.withoutFront?_eq_some_iff.1 hkey
      exact ⟨key, .respelled ⟨hspelling, ⟨d, hget⟩, hnone⟩, hget⟩
  · rintro ⟨key, hstands, hget⟩
    cases hstands with
    | declared _ => exact distribution?_of_get? hget
    | respelled halias => exact halias.distribution?_eq.trans (distribution?_of_get? hget)

/-- The descriptions have one name, and under no key for which some of the ids stand, in the one or
in the other, do they declare different distributions. -/
structure DiffersAside (c c' : Config) (ids : String → Prop) : Prop where
  name : c'.name = c.name
  aside {id key : String} (hid : ids id) (h : c.StandsFor id key ∨ c'.StandsFor id key) :
    c'.distributions.get? key = c.distributions.get? key

/-- Descriptions differ aside in either order. -/
theorem DiffersAside.symm {ids : String → Prop} (h : c.DiffersAside c' ids) :
    c'.DiffersAside c ids :=
  ⟨h.name.symm, fun hid hstands => (h.aside hid hstands.symm).symm⟩

/-- What an id stands for is declared under the same key after an edit aside from it. -/
private theorem DiffersAside.standsFor {ids : String → Prop} (h : c.DiffersAside c' ids)
    {id key : String}
    (hid : ids id) (hstands : c.StandsFor id key) : c'.StandsFor id key := by
  have hkey := h.aside hid (.inl hstands)
  cases hstands with
  | declared hd => exact .declared (hkey.trans hd)
  | respelled halias =>
    obtain ⟨hspelling, ⟨d, hd⟩, hnone⟩ := halias
    refine .respelled ⟨h.name ▸ hspelling, ⟨d, hkey.trans hd⟩, ?_⟩
    -- Nothing was added under the alias itself, or else the id would stand for that.
    cases hfull : c'.distributions.get? id with
    | none => rfl
    | some e => rw [← hfull, h.aside hid (.inr (.declared hfull)), hnone]

/-- An id among these stands for the same distribution after the edit. -/
private theorem DiffersAside.distribution?_eq_some {ids : String → Prop} (h : c.DiffersAside c' ids)
    {id : String} (hid : ids id) {d : Distribution} (hd : c.distribution? id = some d) :
    c'.distribution? id = some d := by
  obtain ⟨key, hstands, hget⟩ := distribution?_eq_some_iff.1 hd
  exact distribution?_eq_some_iff.2
    ⟨key, h.standsFor hid hstands, (h.aside hid (.inl hstands)).trans hget⟩

/-- Edits aside from what ids lead to leave the answers for these as they are. -/
theorem DiffersAside.agreeOn (h : c.DiffersAside c' (c.Reached ids)) : c.AgreeOn c' ids :=
  fun _ hid => Option.ext fun _ =>
    ⟨h.symm.distribution?_eq_some hid, h.distribution?_eq_some hid⟩

/-- Descriptions that answer alike for all that ids lead to in the first of them give the same
classpath, or the same error. So distributions may be added, edited and taken out, if none of these
ids stands for one of them before or after, and no launch of the ids changes. -/
theorem launch_unchanged_by_edits (c : Config) (root : Path) (ids : List String) :
    (∀ c' : Config, (∀ id, c.Reached ids id → c'.distribution? id = c.distribution? id) →
      c'.classpath root ids = c.classpath root ids) ∧
    ∀ (edited : Table Distribution) (c' : Config), c' = { c with distributions := edited } →
      (∀ key, edited.get? key ≠ c.distributions.get? key →
        ∀ id, c.Reached ids id → ¬ c.StandsFor id key ∧ ¬ c'.StandsFor id key) →
      c'.classpath root ids = c.classpath root ids ∧
      ∀ os mainClass raw, c'.standalone os (c'.classpath root) ids mainClass raw =
        c.standalone os (c.classpath root) ids mainClass raw := by
  refine ⟨fun c' h => classpath_of_agreeOn h, ?_⟩
  intro edited c' hc' h
  have haside : c.DiffersAside c' (c.Reached ids) := by
    subst hc'
    refine ⟨rfl, fun {id key} hid hstands => ?_⟩
    by_contra hdiffers
    obtain ⟨hbefore, hafter⟩ := h key hdiffers id hid
    exact hstands.elim hbefore hafter
  have hclasspath : c'.classpath root ids = c.classpath root ids :=
    classpath_of_agreeOn haside.agreeOn
  refine ⟨hclasspath, fun os mainClass raw => ?_⟩
  -- Besides the classpath only the flags count, which belong to the launcher.
  rw [standalone, standalone, hclasspath, hc']

/-- The knotted distributions under their full spellings, and one that depends on nothing declared,
in a suite of another name. -/
def regrouped : Config where
  name := "t"
  distributions :=
    Keyed.ofList [("s:A", { dependencies := ["s:B"] }), ("s:B", { dependencies := ["s:A", "B"] }),
      ("B", { dependencies := ["s:A", "B"] }), ("C", { dependencies := ["D"] })]

/-- The walk over the example goes round its circle once. -/
private theorem preorder_knotted : knotted.preorder ["s:A"] [] = ["s:A", "s:B", "B"] := by
  have hneeds : knotted.needs "s:A" = ["s:B"] ∧ knotted.needs "s:B" = ["s:A", "B"] ∧
      knotted.needs "B" = ["s:A", "B"] := by
    refine ⟨?_, ?_, ?_⟩ <;> decide +kernel
  simp [preorder_cons_of_notMem, preorder_cons_of_mem, hneeds]

/-- An edit of something that the example does not reach changes no launch of it. -/
theorem launch_unchanged_by_edits_knotted :
    let edited : Table Distribution := knotted.distributions.insert ("C", { dependencies := ["D"] })
    let widened : Config := { knotted with distributions := edited }
    (∀ id, knotted.Reached ["s:A"] id →
      regrouped.distribution? id = knotted.distribution? id) ∧
    regrouped.classpath ⟨"/d"⟩ ["s:A"] = knotted.classpath ⟨"/d"⟩ ["s:A"] ∧
    (∀ key, edited.get? key ≠ knotted.distributions.get? key →
      ∀ id, knotted.Reached ["s:A"] id → ¬ knotted.StandsFor id key ∧ ¬ widened.StandsFor id key) ∧
    widened.standalone .unix (widened.classpath ⟨"/d"⟩) ["s:A"] "M" ["-ea", "x"] =
      knotted.standalone .unix (knotted.classpath ⟨"/d"⟩) ["s:A"] "M" ["-ea", "x"] := by
  intro edited widened
  -- The walk meets three ids, so whatever is asked of all reached ones can be computed.
  have hreached {id : String} (hid : knotted.Reached ["s:A"] id) :
      id ∈ ["s:A", "s:B", "B"] := preorder_knotted ▸ mem_preorder_iff.2 hid
  have hanswers : ∀ id, knotted.Reached ["s:A"] id →
      regrouped.distribution? id = knotted.distribution? id := by
    have hall : ∀ id ∈ ["s:A", "s:B", "B"],
        regrouped.distribution? id = knotted.distribution? id := by decide +kernel
    exact fun id hid => hall id (hreached hid)
  have haside : ∀ key, edited.get? key ≠ knotted.distributions.get? key →
      ∀ id, knotted.Reached ["s:A"] id →
        ¬ knotted.StandsFor id key ∧ ¬ widened.StandsFor id key := by
    intro key hkey id hid
    -- Only what is declared as `C` differs, and nothing reached is spelled like it.
    have hC : key = "C" := by
      by_contra hne
      exact hkey ((Table.get?_insert _ "C" _ key).trans (if_neg (Ne.symm hne)))
    have hspelled : id ≠ "C" ∧ id ≠ "s" ++ ":" ++ "C" := by
      have hall : ∀ x ∈ ["s:A", "s:B", "B"], x ≠ "C" ∧ x ≠ "s" ++ ":" ++ "C" := by decide +kernel
      exact hall id (hreached hid)
    subst hC
    have hstands {c : Config} (hname : c.name = "s") : ¬ c.StandsFor id "C" := by
      rintro (_ | halias)
      · exact hspelled.1 rfl
      · exact hspelled.2 (hname ▸ halias.spelling)
    exact ⟨hstands rfl, hstands rfl⟩
  have hedits := launch_unchanged_by_edits knotted ⟨"/d"⟩ ["s:A"]
  exact ⟨hanswers, hedits.1 regrouped hanswers, haside,
    (hedits.2 edited widened rfl haside).2 .unix "M" ["-ea", "x"]⟩

end Config

end Suite
