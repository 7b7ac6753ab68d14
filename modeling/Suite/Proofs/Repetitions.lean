import Mathlib.Data.List.Induction
import Mathlib.Data.List.Nodup

/-!
# Lists without their repetitions

`List.eraseDups` keeps the first of equal elements. Read from the end of a list it has one equation,
and its other laws follow from it.
-/

namespace List

variable {α : Type} [BEq α] [LawfulBEq α]

/-- The last element stays if it was not there before. -/
theorem eraseDups_concat (xs : List α) (x : α) :
    (xs ++ [x]).eraseDups = if x ∈ xs then xs.eraseDups else xs.eraseDups ++ [x] := by
  rw [eraseDups_append]
  by_cases h : x ∈ xs <;> simp [removeAll, eraseDups_cons, h]

/-- Repetitions do not count for what is found first. -/
theorem find?_eraseDups (p : α → Bool) (xs : List α) : xs.eraseDups.find? p = xs.find? p := by
  -- By induction from the end: what is erased there stands further in front as well.
  induction xs using reverseRecOn with
  | nil => rfl
  | append_singleton xs x ih =>
    rw [eraseDups_concat, find?_append]
    split
    · rename_i hx
      rw [ih]
      cases hfind : xs.find? p with
      | some y => rfl
      | none =>
        have hp := find?_eq_none.1 hfind x hx
        rw [Option.none_or, find?_cons_of_neg hp, find?_nil]
    · rw [find?_append, ih]

/-- Repetitions can be dropped before or after a selection. -/
theorem eraseDups_filter (p : α → Bool) (xs : List α) :
    (xs.filter p).eraseDups = xs.eraseDups.filter p := by
  induction xs using reverseRecOn with
  | nil => rfl
  | append_singleton xs x ih =>
    rw [filter_append, eraseDups_concat]
    by_cases hp : p x = true
    · rw [filter_cons_of_pos hp, filter_nil, eraseDups_concat, ih]
      by_cases hx : x ∈ xs <;> simp [hx, hp]
    · rw [filter_cons_of_neg hp, filter_nil, append_nil, ih]
      by_cases hx : x ∈ xs <;> simp [hx, hp]

/-- Nothing is repeated once repetitions are dropped. -/
theorem nodup_eraseDups (xs : List α) : xs.eraseDups.Nodup := by
  induction xs using reverseRecOn with
  | nil => exact nodup_nil
  | append_singleton xs x ih =>
    rw [eraseDups_concat]
    split
    · exact ih
    · rename_i hx
      rw [← concat_eq_append]
      exact ih.concat (by simpa using hx)

/-- Where nothing comes twice, nothing is taken away. -/
theorem eraseDups_of_nodup {xs : List α} (h : xs.Nodup) : xs.eraseDups = xs := by
  induction xs using reverseRecOn with
  | nil => rfl
  | append_singleton xs x ih =>
    rw [← concat_eq_append, nodup_concat] at h
    rw [eraseDups_concat, if_neg h.1, ih h.2]

end List
