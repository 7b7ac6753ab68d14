import Suite.Gate.Written
import Suite.Launch.Command
import Suite.Profile
import Suite.Proofs.Calendar.Timestamps
import Suite.Proofs.Json.Choices
import Suite.Proofs.Json.Members

/-!
# Records that are read back

Profiles, command lines and the results of gates are written by encoders and read by decoders that
are put together from the same parts. Each part reads what it writes, so the records do. A result
holds the time at which its run began, and is read back if that is a time there is.

## Key results

- `Gate.Outcome.recovers_codec`, `Gate.Report.recovers_codec`: outcomes and reports
- `Gate.Result.recovers_codec`: results
- `written_records_are_read`: all records that are written and read
-/

namespace Suite

open Json (Choice Codec Decoder Fields Source Value)

variable {depth room : Nat}

/-! ### Profiles and command lines -/

/-- A written component is read again. -/
theorem Component.recovers_codec {c : Component} : Component.codec.Recovers depth c := by
  intro room
  refine Json.Decoder.accepted_ofValue ?_
  rw [ofId, ofId?_id]
  rfl

/-- A written profile is read again. -/
theorem Profile.recovers_codec {p : Profile} : Profile.codec.Recovers (depth + 2) p :=
  have hcomponents : Component.codec.list.Recovers (depth + 1) p.components :=
    Codec.recovers_list fun _ _ => Component.recovers_codec
  Fields.recovers_via (by decide) ⟨Codec.recovers_text, hcomponents, Codec.recovers_text, trivial⟩
    rfl

/-- Kinds of commands have different names. -/
private theorem CommandKind.distinct_choice : CommandKind.choice.Distinct := by
  intro kind
  cases kind <;> rfl

/-- A written command is read again. -/
theorem CommandLine.recovers_codec {c : CommandLine} :
    CommandLine.codec.Recovers (depth + 2) c :=
  have harguments : Codec.text.list.Recovers (depth + 1) c.arguments :=
    Codec.recovers_list fun _ _ => Codec.recovers_text
  Fields.recovers_via (by decide)
    ⟨Choice.recovers_codec CommandKind.distinct_choice, harguments, trivial⟩ rfl

/-! ### Results of gates -/

namespace Gate

/-- Kinds of outcomes have different names. -/
private theorem Outcome.distinct_choice : Outcome.Kind.choice.Distinct := by
  intro kind
  cases kind <;> rfl

/-- An object that begins with the kind of an outcome is read as that outcome. -/
theorem Outcome.decode_object (kind : Kind) {ms : List (String × Value)}
    (h : ∀ m ∈ ms, m.1 ≠ "status" ∧ Decoder.value room (Source.ofValue m.2) = .ok m.2) :
    Outcome.decode (room + 1)
      (Source.ofValue (.object (("status", .string (Kind.choice.name kind)) :: ms))) =
        ofContent kind (.members ms) := by
  rw [Outcome.decode, Json.Tagged.decode_object distinct_choice kind h]
  rfl

/-- An outcome is read from its kind and, if it is a failure, from the error beside it. -/
theorem Outcome.recovers_codec {outcome : Outcome} :
    Outcome.codec.Recovers (depth + 1) outcome := by
  intro room
  -- Three of the outcomes are written as their kind alone.
  have hplain (kind : Kind) : Outcome.decode (room + depth + 1) (Source.ofValue (plain kind)) =
      ofContent kind (.members []) :=
    decode_object kind fun m hm => absurd hm List.not_mem_nil
  cases outcome with
  | skipped => exact hplain .skipped
  | passed => exact hplain .passed
  | notRun => exact hplain .notRun
  | failed error =>
    have hname : "error" ≠ "status" := by decide
    exact decode_object .failed fun m hm => List.mem_singleton.1 hm ▸ ⟨hname, rfl⟩

/-- A written report is read again. -/
theorem Report.recovers_codec {r : Report} : Report.codec.Recovers (depth + 2) r :=
  Fields.recovers_via (by decide)
    ⟨Codec.recovers_text, Outcome.recovers_codec, Codec.recovers_natural, trivial⟩ rfl

/-- The two statuses have different names. -/
private theorem Status.distinct_choice : Status.choice.Distinct := by
  intro status
  cases status <;> rfl

end Gate

/-- A time there is is read from its text. -/
theorem Timestamp.recovers_codec {t : Timestamp} (h : t.IsValid) :
    Timestamp.codec.Recovers depth t := by
  intro room
  refine Json.Decoder.accepted_ofValue ?_
  rw [parse_text h]
  rfl

/-- A result is read back if its run began at a time there is. -/
theorem Gate.Result.recovers_codec {r : Result} (h : r.startedAt.IsValid) :
    Result.codec.Recovers (depth + 4) r :=
  have htasks : Report.codec.list.Recovers (depth + 3) r.tasks :=
    Codec.recovers_list fun _ _ => Report.recovers_codec
  Fields.recovers_via (by decide)
    ⟨Codec.recovers_text, Timestamp.recovers_codec h, Choice.recovers_codec Status.distinct_choice,
      htasks, Codec.recovers_natural, trivial⟩ rfl

/-- Every result of a gate, whatever its reports tell, every profile and every command line is read
from the JSON it is written as. So all that is asked of a result has the same answer before and
after: if it passed, the counts of its reports, its violations and the outcome under each name. -/
theorem written_records_are_read (r : Gate.Result) (hstarted : r.startedAt.IsValid) (p : Profile)
    (c : CommandLine) :
    (∃ r', Gate.Result.codec.decode.ofValue (Gate.Result.codec.encode r) = .ok r' ∧ r' = r ∧
      r'.passed = r.passed ∧ r'.passedCount = r.passedCount ∧ r'.failedCount = r.failedCount ∧
      r'.skippedCount = r.skippedCount ∧ r'.violations = r.violations ∧
      ∀ name, r'.outcomeOf? name = r.outcomeOf? name) ∧
    Profile.codec.decode.ofValue (Profile.codec.encode p) = .ok p ∧
    CommandLine.codec.decode.ofValue (CommandLine.codec.encode c) = .ok c := by
  -- At most four arrays and objects lie inside each other in a result, and two in the others.
  have hresult : Json.maxNesting = 123 + 4 := rfl
  have hothers : Json.maxNesting = 125 + 2 := rfl
  refine ⟨⟨r, ?_, rfl, rfl, rfl, rfl, rfl, rfl, fun _ => rfl⟩, ?_, ?_⟩
  · rw [Json.Decoder.ofValue_eq, hresult]
    exact Gate.Result.recovers_codec hstarted 123
  · rw [Json.Decoder.ofValue_eq, hothers]
    exact Profile.recovers_codec 125
  · rw [Json.Decoder.ofValue_eq, hothers]
    exact CommandLine.recovers_codec 125

/-- The record of a run with a failure is read again, and so is what is derived of it. -/
theorem written_records_are_read_failed :
    let r : Gate.Result :=
      ⟨"run", ⟨-44, 2, 29, 23, 59, 60, 120000000⟩, .failed,
        [⟨"t", .failed "no \"t\"", 7⟩, ⟨"t", .skipped, 0⟩], 7⟩
    let p : Profile := ⟨"p", [.sdk, .sdk], ""⟩
    let c : CommandLine := ⟨.java, []⟩
    r.startedAt.IsValid ∧
    (∃ r', Gate.Result.codec.decode.ofValue (Gate.Result.codec.encode r) = .ok r' ∧
      r'.violations = [("t", "no \"t\"")] ∧ r'.outcomeOf? "t" = some (.failed "no \"t\"")) ∧
    Profile.codec.decode.ofValue (Profile.codec.encode p) = .ok p ∧
    CommandLine.codec.decode.ofValue (CommandLine.codec.encode c) = .ok c := by
  intro r p c
  have hstarted : r.startedAt.IsValid :=
    ⟨by decide, by decide, by decide, by decide, by decide, by decide, by decide⟩
  obtain ⟨⟨r', hread, -, -, -, -, -, hviolations, houtcome⟩, hp, hc⟩ :=
    written_records_are_read r hstarted p c
  exact ⟨hstarted, ⟨r', hread, hviolations, houtcome "t"⟩, hp, hc⟩

end Suite
