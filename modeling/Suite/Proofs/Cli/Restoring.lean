import Suite.Proofs.Cli.Commands

/-!
# The separator in front of the arguments

A separator that comes first among the tokens behind the options ends the options and is no operand
(`Level.withoutSeparator`), but it counts for the program that the arguments are for. It is put back
where the arguments stand at the end of the command line with a separator right in front of them
(`restoreSeparator`). `restoreByPlace?` finds that out by counting places, and never looks at a
place that is not there.

## Key results

- `restoreSeparator_withoutSeparator_iff`: when the tokens behind the options come back as they were
- `restoreByPlace?_eq`: counting places comes to the same and stays on the command line
- `restoreSeparator_gives_rest_back`: both, for any two lists
-/

namespace Suite.Cli

open Level (withoutSeparator)

variable {raw parsed front rest : List String}

/-- A separator is put back exactly if the command line ends with it and the arguments. -/
private theorem restoreSeparator_eq_cons_iff :
    restoreSeparator raw parsed = "--" :: parsed ↔ "--" :: parsed <:+ raw := by
  rw [restoreSeparator]
  split
  · next h => simpa using List.isSuffixOf_iff_suffix.1 h
  · next h =>
    have hsuffix : ¬ "--" :: parsed <:+ raw := fun hs => h (List.isSuffixOf_iff_suffix.2 hs)
    simp [hsuffix]

/-- Nothing is put back where no separator stands in front of the arguments. -/
private theorem restoreSeparator_of_not_suffix (h : ¬ "--" :: parsed <:+ raw) :
    restoreSeparator raw parsed = parsed :=
  if_neg fun hs => h (List.isSuffixOf_iff_suffix.1 hs)

/-- What stands right in front of the arguments is the last of the tokens before them. -/
private theorem separator_suffix_append_iff :
    "--" :: parsed <:+ front ++ parsed ↔ front.getLast? = some "--" := by
  rw [List.getLast?_eq_some_iff]
  constructor
  · rintro ⟨before, hbefore⟩
    have hsame : (before ++ ["--"]) ++ parsed = front ++ parsed := by simpa using hbefore
    exact ⟨before, (List.append_cancel_right hsame).symm⟩
  · rintro ⟨before, rfl⟩
    exact ⟨before, by simp⟩

/-- Arguments that lost no separator stay as they are, unless one stands in front of them. -/
private theorem restoreSeparator_append_iff :
    restoreSeparator (front ++ rest) rest = rest ↔ front.getLast? ≠ some "--" := by
  have hsuffix : "--" :: rest <:+ front ++ rest ↔ front.getLast? = some "--" :=
    separator_suffix_append_iff
  rw [ne_eq, ← hsuffix]
  constructor
  · intro h hends
    rw [restoreSeparator_eq_cons_iff.2 hends] at h
    exact List.cons_ne_self "--" rest h
  · exact restoreSeparator_of_not_suffix

/-- The tokens behind the options come back as they were, unless the options end with a separator
that they do not begin with. -/
theorem restoreSeparator_withoutSeparator_iff (front rest : List String) :
    restoreSeparator (front ++ rest) (withoutSeparator rest) = rest ↔
      (front.getLast? = some "--" → rest.head? = some "--") := by
  -- Only a separator at the head of the rest is taken away, so only its head matters.
  cases rest with
  | nil =>
    have hnil : restoreSeparator (front ++ []) [] = [] ↔ front.getLast? ≠ some "--" :=
      restoreSeparator_append_iff
    simpa [withoutSeparator] using hnil
  | cons token rest =>
    rw [withoutSeparator]
    split
    · next hseparator =>
      have hsuffix : "--" :: rest <:+ front ++ token :: rest :=
        ⟨front, by rw [hseparator]⟩
      rw [restoreSeparator_eq_cons_iff.2 hsuffix]
      simp [hseparator]
    · next hne =>
      rw [restoreSeparator_append_iff]
      simp [hne]

/-- The tokens from a place on, which may be the end of the command line but not lie behind it. -/
def tokensFrom? (raw : List String) (place : Nat) : Option (List String) :=
  if place ≤ raw.length then some (raw.drop place) else none

/-- The arguments with the separator in front of them put back, as it is found by their number: they
would be the last tokens of the command line, and the separator would stand one place before. There
is no result if a place is looked at that is not on the command line. -/
def restoreByPlace? (raw parsed : List String) : Option (List String) :=
  if raw.length < parsed.length + 1 then some parsed
  else do
    let place := raw.length - (parsed.length + 1)
    let token ← raw[place]?
    if token ≠ "--" then some parsed
    else do
      let behind ← tokensFrom? raw (place + 1)
      if behind ≠ parsed then some parsed else some ("--" :: parsed)

/-- On a command line that is long enough, only two things are left to look at: the token that
stands as far from the end as the separator would, and the tokens behind it. -/
private theorem separator_suffix_iff {place : Nat} (h : place + (parsed.length + 1) = raw.length) :
    "--" :: parsed <:+ raw ↔ raw[place]? = some "--" ∧ raw.drop (place + 1) = parsed := by
  have hplace : place < raw.length := by omega
  have hlength : raw.length - ("--" :: parsed).length = place := by
    rw [List.length_cons]
    omega
  rw [List.suffix_iff_eq_drop, hlength, List.drop_eq_getElem_cons hplace, List.cons.injEq,
    List.getElem?_eq_getElem hplace, Option.some.injEq]
  exact and_congr eq_comm eq_comm

/-- Counting places comes to the same for all lists, and never leaves the command line. -/
theorem restoreByPlace?_eq (raw parsed : List String) :
    restoreByPlace? raw parsed = some (restoreSeparator raw parsed) := by
  rw [restoreByPlace?]
  split
  · next hshort =>
    have hsuffix : ¬ "--" :: parsed <:+ raw := fun h => by
      have hlength := h.length_le
      rw [List.length_cons] at hlength
      omega
    rw [restoreSeparator_of_not_suffix hsuffix]
  · next hlong =>
    have hlength : raw.length - (parsed.length + 1) + (parsed.length + 1) = raw.length := by omega
    generalize raw.length - (parsed.length + 1) = place at hlength ⊢
    -- Both places that are looked at are on the command line.
    have hplace : place < raw.length := by omega
    obtain ⟨token, htoken⟩ : ∃ token, raw[place]? = some token :=
      ⟨raw[place], List.getElem?_eq_getElem hplace⟩
    have hbehind : tokensFrom? raw (place + 1) = some (raw.drop (place + 1)) := if_pos hplace
    have hsuffix := separator_suffix_iff hlength
    rw [htoken, Option.some.injEq] at hsuffix
    simp only [htoken, hbehind, Option.bind_eq_bind, Option.bind_some]
    -- The rest of the line is compared only where a separator stands in front of it.
    by_cases hseparator : token = "--"
    · rw [if_neg (not_not_intro hseparator)]
      by_cases hsame : raw.drop (place + 1) = parsed
      · rw [if_neg (not_not_intro hsame),
          restoreSeparator_eq_cons_iff.2 (hsuffix.2 ⟨hseparator, hsame⟩)]
      · rw [if_pos hsame, restoreSeparator_of_not_suffix fun h => hsame (hsuffix.1 h).2]
    · rw [if_pos hseparator, restoreSeparator_of_not_suffix fun h => hseparator (hsuffix.1 h).1]

/-! ### Command lines -/

/-- The command starts a program and passes arguments on to it. -/
def Command.launches : Command → Bool
  | embedded | standalone => true
  | _ => false

/-- Whatever tokens stand behind the options, they come back as they were once a separator in front
of them was dropped and put back; only if what is in front of them ends with a separator they must
begin with one, too. For any two lists a separator is put back exactly if the command line ends with
it and the arguments, and otherwise the arguments stay as they are. To find that out by counting, no
place is looked at that is not on the command line. -/
theorem restoreSeparator_gives_rest_back :
    (∀ front rest, restoreSeparator (front ++ rest) (withoutSeparator rest) = rest ↔
      (front.getLast? = some "--" → rest.head? = some "--")) ∧
    (∀ raw parsed, restoreSeparator raw parsed = "--" :: parsed ↔ "--" :: parsed <:+ raw) ∧
    (∀ raw parsed, ¬ "--" :: parsed <:+ raw → restoreSeparator raw parsed = parsed) ∧
    ∀ raw parsed, restoreByPlace? raw parsed = some (restoreSeparator raw parsed) :=
  ⟨restoreSeparator_withoutSeparator_iff, fun _ _ => restoreSeparator_eq_cons_iff,
    fun _ _ => restoreSeparator_of_not_suffix, restoreByPlace?_eq⟩

-- Of several separators only the first one is dropped and put back.
example :
    let rest := ["--", "--", "x"]
    withoutSeparator rest = ["--", "x"] ∧
      restoreSeparator ("bf" :: rest) (withoutSeparator rest) = rest := by
  decide

end Suite.Cli
