import Suite.Proofs.Ci.Writes

/-!
# Checks after a check

Once a check that may write has succeeded, the copy says what the shared file says, and nothing is
left to do: every later check finds the two the same.

## Key results

- `check_settles`: checks after one that may write
-/

namespace Suite.Ci

open Host (Machine)

variable {m m' : Machine} {own shared : Path}

/-- After the copy was written with the bytes of the shared file, both hold the same. -/
private theorem holds_of_write {bytes : List UInt8} {value : Json.Value} (hstores : m.Stores own)
    (hshared : Holds m shared bytes value) (hwrite : m.write own bytes = .ok m') :
    Holds m' own bytes value ∧ Holds m' shared bytes value := by
  have hread : m'.read shared = .ok bytes := by
    -- The shared file may be the copy itself under another name.
    rcases Machine.read_of_write hwrite hshared.read with h | h
    · exact h
    · exact h
  exact ⟨⟨hstores bytes m' hwrite, hshared.parse⟩, ⟨hread, hshared.parse⟩⟩

/-- Where a write to the copy stores what is written, a check that may write and succeeds leaves
nothing to do: later checks of either kind find the two files the same, with the same digest, and
change nothing. If the copy was replaced, it has the bytes of the shared file, and the digest is
theirs; if not, nothing was changed. -/
theorem check_settles {v : Verification} (hstores : m.Stores own)
    (h : (check m own shared true).1 = .ok v) :
    let after := (check m own shared true).2
    (∀ sync, check after own shared sync = (.ok { v with synced := false }, after)) ∧
    (v.synced = true → ∃ bytes, m.read shared = .ok bytes ∧ after.read shared = .ok bytes ∧
      after.read own = .ok bytes ∧ v.digest = Sha256.hex bytes) ∧
    (v.synced = false → after = m) := by
  intro after
  have hfinds := finds_verdict m own shared true
  generalize hverdict : verdict m own shared true = r at hfinds
  cases hfinds with
  | @same bytes ownBytes value w hshared hown hsame =>
    -- The files are as they were, and so is what is found.
    have hcheck : ∀ sync, check m own shared sync = (.ok ⟨own, shared, _, false⟩, m) := fun _ =>
      check_of_same hshared hown hsame
    have hafter : after = m := congrArg Prod.snd (hcheck true)
    rw [hcheck true] at h
    obtain rfl := Except.ok.inj h
    rw [hafter]
    exact ⟨hcheck, fun hsynced => (nomatch hsynced), fun _ => rfl⟩
  | @outdated bytes value hshared hown _ =>
    have hcheck := check_of_outdated hshared hown
    cases hwrite : m.write own bytes with
    | error e =>
      rw [hcheck, hwrite] at h
      cases h
    | ok m' =>
      rw [hwrite] at hcheck
      have hafter : after = m' := congrArg Prod.snd hcheck
      rw [hcheck] at h
      obtain rfl := Except.ok.inj h
      -- The write went through, so both files hold the bytes of the shared one.
      obtain ⟨hown', hshared'⟩ := holds_of_write hstores hshared hwrite
      rw [hafter]
      exact ⟨fun sync => check_of_same hshared' hown' (Json.Value.equivalent_refl value),
        fun _ => ⟨bytes, hshared.read, hshared'.read, hown'.read, rfl⟩,
        fun hsynced => (nomatch hsynced)⟩
  | _ =>
    rw [check, hverdict] at h
    cases h

/-- A machine where the copy of a shared file is broken off. -/
def brokenCopy : Machine where
  files := { nodes :=
    [(["common.json"], .file (Text.encode "\x7b broken") false),
     (["platform"], .directory),
     (["platform", "common.json"], .file (Text.encode "\x7b\"jdks\": \x7b\x7d\x7d") false)] }
  environment := Keyed.empty
  cwd := ["platform"]

/-- An own copy that is no JSON is replaced, and agrees from then on. -/
theorem check_settles_broken :
    let own : Path := ⟨"../common.json"⟩
    let shared : Path := ⟨"common.json"⟩
    let after := (check brokenCopy own shared true).2
    let digest := "a97766f892818bb1984540f9eac1bf3009eba01905a236c7a312ca070ee53f08"
    brokenCopy.Stores own ∧
    (check brokenCopy own shared true).1 = .ok ⟨own, shared, digest, true⟩ ∧
    check after own shared false = (.ok ⟨own, shared, digest, false⟩, after) ∧
    after.read own = .ok (Text.encode "\x7b\"jdks\": \x7b\x7d\x7d") := by
  intro own shared after digest
  have hlocate : brokenCopy.files.locate brokenCopy.cwd own = .ok ["common.json"] :=
    Except.toOption_eq_some_iff.1 (by decide +kernel)
  -- The path leads to one place only, and a file can be written there.
  have hstores : brokenCopy.Stores own := by
    refine Machine.stores_of_forall_ne_null fun l hl => ?_
    obtain rfl : l = (["common.json"] : Host.Location) := Except.ok.inj (hl.symm.trans hlocate)
    decide +kernel
  have hshared : brokenCopy.read shared = .ok (Text.encode "\x7b\"jdks\": \x7b\x7d\x7d") :=
    Except.toOption_eq_some_iff.1 (by decide +kernel)
  have hcheck : (check brokenCopy own shared true).1 = .ok ⟨own, shared, digest, true⟩ :=
    Except.toOption_eq_some_iff.1 (by decide +kernel)
  -- The copy is broken, so the first check writes; the later one finds it settled.
  obtain ⟨hlater, hcopied, -⟩ := check_settles hstores hcheck
  obtain ⟨bytes, hbytes, -, hown, -⟩ := hcopied rfl
  obtain rfl := Except.ok.inj (hshared.symm.trans hbytes)
  exact ⟨hstores, hcheck, hlater false, hown⟩

end Suite.Ci
