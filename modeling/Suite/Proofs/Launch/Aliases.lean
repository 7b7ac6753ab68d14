import Suite.Proofs.Launch.Reach
import Suite.Proofs.Text.Pieces

/-!
# Aliases

A declared id may be written with the name of the suite in front, unless something else is declared
under that spelling. Both spellings stand for one distribution and put the same jar on a classpath:
only what follows the last colon names a jar. A walk keeps them apart all the same.

## Key results

- `SameId.distribution?_eq`: an id and its alias stand for the same distribution
- `SameId.jarPath_eq`: they have the same jar
- `SameId.eq_of_unresolved`: an id that stands for nothing has no other spelling
-/

namespace Suite

namespace Config

variable {c : Config} {root : Path}

/-- The one id is declared and the other one is not, but is spelled like it with the name of the
suite and a colon in front. -/
structure IsAlias (c : Config) (full id : String) : Prop where
  spelling : full = c.name ++ ":" ++ id
  declared : ∃ d, c.distributions.get? id = some d
  undeclared : c.distributions.get? full = none

/-- The ids are the same, or one of them is an alias of the other. -/
def SameId (c : Config) (a b : String) : Prop := a = b ∨ c.IsAlias a b ∨ c.IsAlias b a

/-- Each id leads where it leads. -/
theorem SameId.refl (id : String) : c.SameId id id := .inl rfl

/-- Ids lead to the same place in either order. -/
theorem SameId.symm {a b : String} (h : c.SameId a b) : c.SameId b a := by
  obtain rfl | h | h := h
  · exact .refl a
  · exact .inr (.inr h)
  · exact .inr (.inl h)

/-- An id has one alias at most, is that of one id at most, and no alias has an alias. -/
theorem SameId.trans {a b x : String} (h : c.SameId a b) (k : c.SameId b x) : c.SameId a x := by
  -- No id stands between two others: what an alias stands for is declared, and an alias is not.
  have undeclared {full id longer : String} (h : c.IsAlias full id) (k : c.IsAlias longer full) :
      False := by
    obtain ⟨d, hd⟩ := k.declared
    rw [h.undeclared] at hd
    cases hd
  obtain rfl | h | h := h
  · exact k
  · obtain rfl | k | k := k
    · exact .inr (.inl h)
    · exact (undeclared k h).elim
    · exact .inl (h.spelling.trans k.spelling.symm)
  · obtain rfl | k | k := k
    · exact .inr (.inr h)
    · exact .inl ((String.append_right_inj _).1 (h.spelling.symm.trans k.spelling))
    · exact (undeclared h k).elim

/-- An id that is written in the table stands for the distribution there. -/
theorem distribution?_of_get? {id : String} {d : Distribution}
    (h : c.distributions.get? id = some d) : c.distribution? id = some d := by
  rw [distribution?, h]

/-- An alias stands for what is declared under the id. -/
theorem IsAlias.distribution?_eq {full id : String} (h : c.IsAlias full id) :
    c.distribution? full = c.distribution? id := by
  obtain ⟨hspelling, ⟨d, hd⟩, hnone⟩ := h
  rw [distribution?_of_get? hd, distribution?, hnone, hspelling, Text.withoutFront?_append]
  exact hd

/-- An id and its alias stand for the same distribution. -/
theorem SameId.distribution?_eq {a b : String} (h : c.SameId a b) :
    c.distribution? a = c.distribution? b := by
  obtain rfl | h | h := h
  · rfl
  · exact h.distribution?_eq
  · exact h.distribution?_eq.symm

/-- Ids that lead to the same place need the same. -/
theorem SameId.needs_eq {a b : String} (h : c.SameId a b) : c.needs a = c.needs b := by
  rw [needs, needs, h.distribution?_eq]

/-- An id that stands for nothing has no other spelling. -/
theorem SameId.eq_of_unresolved {a b : String} (h : c.SameId a b)
    (ha : c.distribution? a = none) : a = b := by
  have declared {full id : String} (h : c.IsAlias full id) : c.distribution? id ≠ none := by
    obtain ⟨d, hd⟩ := h.declared
    simp [distribution?_of_get? hd]
  obtain rfl | h | h := h
  · rfl
  · exact absurd (h.distribution?_eq.symm.trans ha) (declared h)
  · exact absurd ha (declared h)

/-- The jar of a distribution does not depend on which of its spellings is used. -/
theorem SameId.jarPath_eq {a b : String} (h : c.SameId a b) (d : Distribution) :
    jarPath root a d = jarPath root b d := by
  have hlast : Text.afterLast ':' a = Text.afterLast ':' b := by
    obtain rfl | h | h := h
    · rfl
    · rw [h.spelling]
      exact Text.afterLast_append ':' c.name b
    · rw [h.spelling]
      exact (Text.afterLast_append ':' c.name a).symm
  rw [jarPath, jarPath, hlast]

end Config

end Suite
