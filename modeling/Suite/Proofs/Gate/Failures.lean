import Suite.Proofs.Text.Lines
import Suite.Stage

/-!
# How stages fail

A stage whose program was started succeeds or says how the program ended, with the last lines of its
standard error, or that its time was over before. The lines that are shown are whole lines, so that
none is lost at the end and more of them show the same ones behind the others.

## Key results

- `attempt_callOfFinished`: what becomes of a stage, for every way its program can end
- `stage_failure_shows_last_lines`: the same, with what the last lines are
-/

namespace Suite.Stage

open Host (Ending Executor Finished Launch)
open Text (IsLines withoutFinalFeed)

/-- The exit code by which a failure names an ending. -/
def shownCode : Ending → Int
  | .exited code => code
  | .signalled _ => -1

variable {σ : Type} {exec : Executor σ} {stage : Stage} {s s' : σ} {f : Finished}

/-- The exit code of a stage is the one that is shown for the ending. -/
private theorem exitCode_ofFinished (name : String) (f : Finished) :
    (ofFinished name f).exitCode = shownCode f.ending := by
  unfold ofFinished
  cases f.ending <;> rfl

/-- A result names its stage. -/
private theorem stageName_ofFinished (name : String) (f : Finished) :
    (ofFinished name f).stageName = name := by
  unfold ofFinished
  cases f.ending <;> rfl

/-- The standard error of a stage is what is read of its bytes. -/
private theorem stderr_ofFinished (name : String) (f : Finished) :
    (ofFinished name f).stderr = Text.decodeLossy f.stderr := by
  unfold ofFinished
  cases f.ending <;> rfl

/-- A stage passed exactly if its program exited with the code 0. -/
private theorem passed_ofFinished_iff (name : String) (f : Finished) :
    (ofFinished name f).passed = true ↔ f.ending = .exited 0 := by
  unfold ofFinished
  cases f.ending <;> simp [Result.passed]

/-- What a stage is whose program is started and ends in some way. -/
def callOfFinished (stage : Stage) (f : Finished) : Gate.Call :=
  callOf <| if stage.endsInTime f then .ok (ofFinished stage.name f)
    else .error (.timedOut stage.name stage.timeout)

/-- The action of a stage whose program is started runs that program, and its call is told by how
the program ends. -/
theorem action_of_started {program : String} {arguments : List String}
    (hcommand : stage.command = program :: arguments)
    (hexec : exec ⟨program, arguments, stage.directory⟩ s = (.ok f, s')) :
    stage.action exec s = (stage.callOfFinished f, s') := by
  rw [action, execute, hcommand, callOfFinished]
  simp only [hexec]
  split <;> rfl

/-- The text of a failure has the name, the code, and the last lines if there are any. -/
private theorem failureText_ofFinished (name : String) (f : Finished) :
    failureText (ofFinished name f) =
      let tail := (ofFinished name f).stderrTail 20
      name ++ " exited with code " ++ toString (shownCode f.ending) ++
        if tail = "" then "" else ":\n" ++ tail := by
  rw [failureText, stageName_ofFinished, exitCode_ofFinished]
  rfl

/-- The call of a stage succeeds exactly if the program ends in time and exits with the code 0. It
fails with a text for the ending, or with one for the time. -/
theorem attempt_callOfFinished (stage : Stage) (f : Finished) :
    let attempt := (stage.callOfFinished f).attempt
    (attempt = .success ↔ stage.endsInTime f = true ∧ f.ending = .exited 0) ∧
    (stage.endsInTime f = true → f.ending ≠ .exited 0 →
      attempt = .failure [failureText (ofFinished stage.name f)]) ∧
    (stage.endsInTime f = false →
      attempt = .failure [(Problem.timedOut stage.name stage.timeout).message]) := by
  intro attempt
  -- The limit is looked at before the exit code is.
  cases htime : stage.endsInTime f with
  | true =>
    have hattempt : attempt =
        if (ofFinished stage.name f).passed then .success
        else .failure [failureText (ofFinished stage.name f)] := by
      simp only [attempt, callOfFinished, if_pos htime]
      rfl
    rw [hattempt, ne_eq, ← passed_ofFinished_iff stage.name f]
    by_cases hpassed : (ofFinished stage.name f).passed = true <;> simp [hpassed]
  | false =>
    have hattempt : attempt = .failure [(Problem.timedOut stage.name stage.timeout).message] := by
      simp only [attempt, callOfFinished, htime, if_neg Bool.false_ne_true]
      rfl
    simp [hattempt]

/-- The end of the standard error that is shown of a stage has the last of the lines that the
standard error is made of, as many as are asked for or all there are, joined by line feeds. With
one line more the same text stands at the end, and without carriage returns it is the end of the
standard error but for one line feed. A stage whose program is started succeeds exactly if the
program ends in time and exits with the code 0. If it ends in time otherwise, the stage fails with
its name and the code, -1 if a signal ended the program, and with the last 20 lines behind that, if
these show anything. A stage whose time is over before fails and says so. -/
theorem stage_failure_shows_last_lines :
    (∀ (r : Result) (n : Nat), ∃ all,
      (∀ ls, IsLines r.stderr ls ↔ ls = all) ∧
      (∃ shown, shown <:+ all ∧ shown.length = min n all.length ∧
        r.stderrTail n = "\n".intercalate shown) ∧
      (∃ front, r.stderrTail (n + 1) = front ++ r.stderrTail n) ∧
      ('\r' ∉ r.stderr.toList → ∃ front, withoutFinalFeed r.stderr = front ++ r.stderrTail n)) ∧
    ∀ (σ : Type) (exec : Executor σ) (stage : Stage) (program : String) (arguments : List String)
      (s s' : σ) (f : Finished),
      stage.command = program :: arguments →
      exec ⟨program, arguments, stage.directory⟩ s = (.ok f, s') →
      let r := ofFinished stage.name f
      let attempt := (stage.action exec s).1.attempt
      r.stderr = Text.decodeLossy f.stderr ∧
      (stage.action exec s).2 = s' ∧
      (attempt = .success ↔ stage.endsInTime f = true ∧ f.ending = .exited 0) ∧
      (stage.endsInTime f = true → f.ending ≠ .exited 0 →
        attempt = .failure [stage.name ++ " exited with code " ++ toString (shownCode f.ending) ++
          if r.stderrTail 20 = "" then "" else ":\n" ++ r.stderrTail 20]) ∧
      (stage.endsInTime f = false →
        attempt = .failure ["Stage " ++ stage.name ++ " timed out after " ++
          toString stage.timeout ++ " seconds"]) := by
  constructor
  · intro r n
    refine ⟨Text.lines r.stderr, fun ls => ?_, Text.lastLines_eq n r.stderr,
      Text.suffix_lastLines_succ n r.stderr, Text.suffix_lastLines_of_noReturn n⟩
    rw [← Text.lines_eq_iff, eq_comm]
  · intro σ exec stage program arguments s s' f hcommand hexec r attempt
    -- The program has started, so the stage ends as the program does.
    have haction := action_of_started hcommand hexec
    have hattempt : attempt = (stage.callOfFinished f).attempt :=
      congrArg (fun result => result.1.attempt) haction
    obtain ⟨hsuccess, hfailure, htimeout⟩ := attempt_callOfFinished stage f
    rw [hattempt]
    refine ⟨stderr_ofFinished stage.name f, congrArg Prod.snd haction, hsuccess,
      fun htime hending => ?_, htimeout⟩
    rw [← failureText_ofFinished stage.name f]
    exact hfailure htime hending

/-- A signal ends a program that wrote three lines, one of them empty. -/
theorem stage_failure_shows_last_lines_signalled :
    let stage : Stage := ⟨"Jackpot", ["jackpot"], ["mx", "jackpot"], 60, none⟩
    let f : Finished := ⟨[], Text.encode "a\n\nb\n", .signalled 9, 0⟩
    let exec : Executor Unit := fun _ s => (.ok f, s)
    let r := ofFinished stage.name f
    stage.command = ["mx", "jackpot"] ∧
    exec ⟨"mx", ["jackpot"], stage.directory⟩ () = (.ok f, ()) ∧
    stage.endsInTime f = true ∧ f.ending ≠ .exited 0 ∧ '\r' ∉ r.stderr.toList ∧
    (stage.action exec ()).1.attempt = .failure ["Jackpot exited with code -1:\na\n\nb"] ∧
    ∃ front, withoutFinalFeed r.stderr = front ++ r.stderrTail 2 := by
  intro stage f exec r
  have hcommand : stage.command = ["mx", "jackpot"] := rfl
  have hexec : exec ⟨"mx", ["jackpot"], stage.directory⟩ () = (.ok f, ()) := rfl
  have htime : stage.endsInTime f = true := rfl
  -- A program that a signal ended has no exit code.
  have hending : f.ending ≠ .exited 0 := by decide
  have hreturn : '\r' ∉ r.stderr.toList := by decide +kernel
  obtain ⟨hlines, hstages⟩ := stage_failure_shows_last_lines
  obtain ⟨_, -, -, -, hsuffix⟩ := hlines r 2
  obtain ⟨-, -, -, hfailure, -⟩ := hstages Unit exec stage _ _ () () f hcommand hexec
  refine ⟨hcommand, hexec, htime, hending, hreturn, (hfailure htime hending).trans ?_,
    hsuffix hreturn⟩
  decide +kernel

end Suite.Stage
