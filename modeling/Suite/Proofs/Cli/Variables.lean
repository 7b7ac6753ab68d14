import Suite.Proofs.Cli.Launching
import Suite.Proofs.Launch.Places

/-!
# Variables that stand in for options

An option that is not given has the value of its variable, if that is set. So a command line is read
with the variable as it is read without, but for one more option of the innermost command. The home
of the toolchain is such an option, and it is used as it is, while a toolchain that is looked for in
the environment must be there: the two ways to read the variable part where it names none.

## Key results

- `Level.finish_of_variable`: what the reading of a level gains from a variable
- `parse_of_toolchainVariable`: what a command line asks for with the variable of the toolchain
- `toolchainVariable_is_taken_unchecked`: what is started then, against a toolchain looked for
- `lost_toolchain_is_launched`: a launch without a toolchain
-/

namespace Suite.Cli

open Host (Executor Launch Machine)

/-! ### Options on record with their values -/

namespace Progress

variable {p q : Progress} {long : String}

/-- The option is on record only with a value. -/
def Valued (p : Progress) (long : String) : Prop :=
  ∀ g ∈ p.given, g.long = long → g.value.isSome = true

/-- The option stays on record only with values if it goes there with one. -/
theorem Valued.record {o : OptionSpec} {value : Option String} (hp : p.Valued long)
    (hvalue : o.long = long → value.isSome = true) (h : p.record o value = .ok q) :
    q.Valued long := by
  unfold Progress.record at h
  split at h
  · cases h
  · obtain rfl := Except.ok.inj h
    intro g hg hlong
    -- What was given before has its value; only the new one is to be looked at.
    rcases List.mem_append.1 hg with hg | hg
    · exact hp g hg hlong
    · obtain rfl := List.mem_singleton.1 hg
      simpa using hvalue hlong

/-- The last option goes on record with the value it holds. -/
theorem Valued.settle (hp : p.Valued long) (h : p.settle = .ok q) : q.Valued long := by
  unfold Progress.settle at h
  split at h
  · obtain rfl := Except.ok.inj h
    exact hp
  · cases h
  · exact hp.record (fun _ => rfl) h

/-- The option stays on record only with values if it is given with one. -/
theorem Valued.give {o : OptionSpec} {value : Option String} (hp : p.Valued long)
    (hvalue : o.long = long → value.isSome = true) (h : p.give o value = .ok q) :
    q.Valued long := by
  unfold Progress.give at h
  obtain ⟨p₁, hsettle, h⟩ := Except.bind_eq_ok_iff.1 h
  split at h
  · cases h
  · cases h
  · exact (hp.settle hsettle).record hvalue h

/-- An option with a value goes on record with the one attached to it, or waits for one. -/
theorem Valued.take {o : OptionSpec} {attached : Option String} (hp : p.Valued long)
    (h : p.take o attached = .ok q) : q.Valued long := by
  cases attached with
  | some value => exact hp.give (fun _ => rfl) h
  | none =>
    obtain ⟨p₁, hsettle, h⟩ := Except.bind_eq_ok_iff.1 h
    have hp₁ : p₁.Valued long := hp.settle hsettle
    obtain rfl := Except.ok.inj h
    exact hp₁

end Progress

namespace Level

variable {l : Level} {p q : Progress} {long : String}

/-- The options with this name take values. -/
def Takes (l : Level) (long : String) : Prop :=
  ∀ o ∈ l.options, o.long = long → o.takesValue = true

/-- Letters in one argument give the option only with values. -/
theorem Takes.cluster (hl : l.Takes long) {letters : List Char} (hp : p.Valued long)
    (h : l.cluster p letters = .ok q) : q.Valued long := by
  -- By induction on the letters: a letter for this option takes a value, and ends the cluster.
  induction letters generalizing p with
  | nil =>
    obtain rfl := Except.ok.inj h
    exact hp
  | cons c rest ih =>
    unfold Level.cluster at h
    cases ho : l.short? c with
    | none => simp [ho] at h
    | some o =>
      have hmem : o ∈ l.options := List.mem_of_find?_eq_some ho
      simp only [ho] at h
      split at h
      · split at h <;> exact hp.take h
      · next htakes =>
        obtain ⟨p₁, hgive, h⟩ := Except.bind_eq_ok_iff.1 h
        exact ih (hp.give (fun hlong => absurd (hl o hmem hlong) htakes) hgive) h

/-- An option that a token is taken for is one of its level. -/
private theorem mem_options_of_kindOf {waiting : Bool} {token : String} {o : OptionSpec}
    {attached : Option String} (h : l.kindOf waiting token = .long o attached) :
    o ∈ l.options := by
  unfold kindOf at h
  -- Of all kinds only a long option with a known name is one of the options.
  split at h
  · cases h
  · split at h
    · cases h
    · split at h
      · split at h
        · next hfound =>
          obtain ⟨rfl, -⟩ := TokenKind.long.inj h
          exact List.mem_of_find?_eq_some hfound
        · split at h <;> cases h
      · split at h <;> cases h
      · cases h

/-- An option that takes a value is on record only with one. -/
theorem Takes.scan (hl : l.Takes long) {tokens : List String}
    {continuation : Option Continuation} (hp : p.Valued long)
    (h : l.scan p tokens = .ok (q, continuation)) : q.Valued long := by
  -- By induction on the tokens: what is given so far has its value, whatever the next token is.
  induction tokens generalizing p with
  | nil =>
    obtain ⟨rfl, -⟩ := Prod.mk.inj (Except.ok.inj h)
    exact hp
  | cons token rest ih =>
    rw [Level.scan] at h
    split at h
    · -- a subcommand
      obtain ⟨rfl, -⟩ := Prod.mk.inj (Except.ok.inj h)
      exact hp
    · -- the separator
      exact ih (p := { p with ended := true }) hp h
    · -- an option that is not known
      cases h
    · -- short options
      obtain ⟨p₁, hcluster, h⟩ := Except.bind_eq_ok_iff.1 h
      exact ih (hl.cluster hp hcluster) h
    · -- a long option, with or without a value
      next o attached hkind =>
      split at h
      · obtain ⟨p₁, htake, h⟩ := Except.bind_eq_ok_iff.1 h
        exact ih (hp.take htake) h
      · next htakes =>
        split at h
        · cases h
        · obtain ⟨p₁, hgive, h⟩ := Except.bind_eq_ok_iff.1 h
          have hmem : o ∈ l.options := by
            split at hkind
            · cases hkind
            · exact mem_options_of_kindOf hkind
          exact ih (hp.give (fun hlong => absurd (hl o hmem hlong) htakes) hgive) h
    · -- a value, or an argument
      split at h
      · next o _ _ => exact ih (p := { p with pending := .holds o token }) hp h
      · obtain ⟨p₁, hsettle, h⟩ := Except.bind_eq_ok_iff.1 h
        have hp₁ : p₁.Valued long := hp.settle hsettle
        split at h
        · cases h
        · split at h
          · exact ih (p := { p₁ with operands := [token] }) hp₁ h
          · cases h
        · obtain ⟨rfl, -⟩ := Prod.mk.inj (Except.ok.inj h)
          exact hp₁

/-- An option that takes values, but has none, is not given. -/
private theorem has_eq_false_of_finish {environment : String → Option OsText} {r : Reading}
    (hp : p.Valued long) (h : l.finish environment p = .ok r) (hnone : r.value? long = none) :
    r.has long = false := by
  unfold finish at h
  obtain ⟨q, hsettle, h⟩ := Except.bind_eq_ok_iff.1 h
  obtain ⟨standIns, -, h⟩ := Except.bind_eq_ok_iff.1 h
  split at h
  · obtain rfl := Except.ok.inj h
    have hq : q.Valued long := hp.settle hsettle
    obtain ⟨hgiven, -⟩ := Option.or_eq_none_iff.1 hnone
    -- An option that was given has a value, so it would have been found by its value.
    cases hfound : q.given.find? (fun g => g.long = long) with
    | none =>
      rw [Reading.has, List.any_eq_false]
      exact List.find?_eq_none.1 hfound
    | some g =>
      have hvalue : g.value.isSome = true :=
        hq g (List.mem_of_find?_eq_some hfound) (by simpa using List.find?_some hfound)
      have hmissing : g.value = none := by simpa [Reading.given?, hfound] using hgiven
      simp [hmissing] at hvalue
  · cases h

end Level

/-! ### Readings that gain an option -/

namespace Reading

variable {r r' : Reading} {long other : String} {value : OsText}

/-- The second reading is the first one with what the environment gives for one more option. -/
structure Gains (r : Reading) (long : String) (value : OsText) (r' : Reading) : Prop where
  given : r'.given = r.given
  operands : r'.operands = r.operands
  others : ∀ other ≠ long, r'.standIn? other = r.standIn? other
  own : r'.standIn? long = some value

/-- A reading gains an option where one is inserted behind others. -/
private theorem gains_insert {given front back : List Given} {operands : List String}
    (h : ∀ g ∈ front, g.long ≠ long) :
    Gains ⟨given, front ++ back, operands⟩ long value
      ⟨given, front ++ [⟨long, some value⟩] ++ back, operands⟩ where
  given := rfl
  operands := rfl
  others other hother := by simp [standIn?, List.find?_append, hother.symm]
  own := by
    have hfront : front.find? (fun g => g.long = long) = none := by simpa using h
    simp [standIn?, List.find?_append, hfront]

/-- The other options are given as before. -/
theorem Gains.given? (h : r.Gains long value r') (other : String) :
    r'.given? other = r.given? other := by
  simp [Reading.given?, h.given]

/-- The paths of other options stay as they are. -/
private theorem Gains.pathOf_of_ne (h : r.Gains long value r') (hother : other ≠ long) :
    pathOf r' other = pathOf r other := by
  simp [pathOf, value?, h.given?, h.others other hother]

/-- The path of the option is the value that was gained. -/
theorem Gains.pathOf (h : r.Gains long value r') (hnone : pathOf r long = none) :
    pathOf r' long = some ⟨value⟩ := by
  have hgiven : r.given? long = none :=
    (Option.or_eq_none_iff.1 (Option.map_eq_none_iff.1 hnone)).1
  simp [Cli.pathOf, value?, h.given?, hgiven, h.own]

/-- The description does not change with another option. -/
theorem Gains.configOf (h : r.Gains long value r') (hlong : configOption.long ≠ long)
    (outer : Readings) (c : Command) :
    configOf (outer ++ [(c, r')]) = configOf (outer ++ [(c, r)]) := by
  simp [Cli.configOf, h.given?, h.others _ hlong, List.findSome?_append]

end Reading

/-! ### Readings without a variable -/

/-- The environment without a variable. -/
def withoutVariable (environment : String → Option OsText) (name : String) :
    String → Option OsText :=
  fun other => if other = name then none else environment other

namespace Level

variable {l : Level} {environment : String → Option OsText} {name : String} {p : Progress}

/-- An option that falls back to another variable, or to none, does not miss this one. -/
private theorem standIn_withoutVariable {o : OptionSpec} (h : o.environment ≠ some name) :
    standIn environment o = standIn (withoutVariable environment name) o := by
  have hvalue : o.environment.bind environment =
      o.environment.bind (withoutVariable environment name) := by
    cases hvariable : o.environment with
    | none => rfl
    | some other =>
      have hother : other ≠ name := fun heq => h (hvariable.trans (congrArg some heq))
      simp [withoutVariable, hother]
  rw [standIn, standIn, hvalue]

/-- Nothing stands in for an option whose variable is not set. -/
private theorem standIn_of_unset {o : OptionSpec} (h : o.environment = some name) :
    standIn (withoutVariable environment name) o = .ok none := by
  simp [standIn, h, withoutVariable]

/-- What the variable gives for the option of a path that falls back to it. -/
private theorem standIn_of_set {o : OptionSpec} {value : OsText} (h : o.environment = some name)
    (hkind : o.kind = .path) (hvalue : environment name = some value) :
    standIn environment o =
      if value = "" then .error .usage else .ok (some ⟨o.long, some value⟩) := by
  simp [standIn, h, hvalue, hkind]

/-- What stands in for an option goes by its name. -/
private theorem long_of_standIn {o : OptionSpec} {g : Given}
    (h : standIn environment o = .ok (some g)) : g.long = o.long := by
  unfold standIn at h
  split at h
  · cases h
  · split at h
    · cases h
    · obtain rfl := Option.some.inj (Except.ok.inj h)
      rfl

/-- A level whose options do not fall back to a variable is read without it. -/
private theorem finish_withoutVariable (h : ∀ o ∈ l.options, o.environment ≠ some name) :
    l.finish environment p = l.finish (withoutVariable environment name) p := by
  have hstandIns : ∀ q : Progress,
      (l.options.filter fun o => !q.has o.long).filterMapM (standIn environment) =
        (l.options.filter fun o => !q.has o.long).filterMapM
          (standIn (withoutVariable environment name)) := fun q =>
    Except.filterMapM_congr fun o ho => standIn_withoutVariable (h o (List.mem_filter.1 ho).1)
  unfold finish
  simp only [hstandIns]

/-- The one option that falls back to a variable, if it is not given: the reading fails where the
variable is no value for it, and else gains what the variable gives. -/
theorem finish_of_variable {o : OptionSpec} {before after : List OptionSpec} {r : Reading}
    (hoptions : l.options = before ++ o :: after) (hvariable : o.environment = some name)
    (hothers : ∀ other ∈ before ++ after, other.environment ≠ some name)
    (hlong : ∀ other ∈ before, other.long ≠ o.long) (hnot : r.has o.long = false)
    (h : l.finish (withoutVariable environment name) p = .ok r) :
    (∀ e, standIn environment o = .error e → l.finish environment p = .error e) ∧
    ∀ value, standIn environment o = .ok (some ⟨o.long, some value⟩) →
      ∃ r', l.finish environment p = .ok r' ∧ r.Gains o.long value r' := by
  unfold finish at h
  obtain ⟨q, hsettle, h⟩ := Except.bind_eq_ok_iff.1 h
  obtain ⟨standIns, hstandIns, h⟩ := Except.bind_eq_ok_iff.1 h
  split at h
  · next hsuffice =>
    obtain rfl := Except.ok.inj h
    -- The option is not given, so it stands among those that the environment may give.
    have hasked : (l.options.filter fun other => !q.has other.long) =
        before.filter (fun other => !q.has other.long) ++
          o :: after.filter fun other => !q.has other.long := by
      have hq : q.has o.long = false := hnot
      rw [hoptions, List.filter_append, List.filter_cons_of_pos (by simp [hq])]
    rw [hasked] at hstandIns
    -- The other options look at other variables.
    have hsame : ∀ other ∈ before.filter (fun other => !q.has other.long) ++
        after.filter (fun other => !q.has other.long),
        standIn environment other = standIn (withoutVariable environment name) other := by
      intro other hother
      rw [← List.filter_append] at hother
      exact standIn_withoutVariable (hothers other (List.mem_filter.1 hother).1)
    obtain ⟨front, back, rfl, hfront, hfound⟩ :=
      Except.exists_filterMapM_insert hsame (standIn_of_unset hvariable) hstandIns
    refine ⟨fun e he => ?_, fun value hvalue => ⟨_, ?_, Reading.gains_insert fun g hg => ?_⟩⟩
    · rw [finish, hsettle, Except.ok_bind, hasked, hfound, he]
      rfl
    · rw [finish, hsettle, Except.ok_bind, hasked, hfound, hvalue, Except.ok_map, Except.ok_bind,
        if_pos hsuffice]
      rfl
    · obtain ⟨other, hother, hgiven⟩ := hfront g hg
      rw [long_of_standIn hgiven]
      exact hlong other (List.mem_filter.1 hother).1
  · cases h

end Level

/-! ### The variable of the toolchain -/

/-- The option of a standalone launch that falls back to the variable of the toolchain, among the
others of that command. -/
private theorem exists_toolchainOption :
    ∃ before o after, Command.standalone.level.options = before ++ o :: after ∧
      o.long = "java-home" ∧ o.kind = .path ∧ o.environment = some toolchainVariable ∧
      (∀ other ∈ before ++ after, other.environment ≠ some toolchainVariable) ∧
      ∀ other ∈ before, other.long ≠ o.long :=
  ⟨Command.standalone.options.take 2, _, commonOptions, rfl, rfl, rfl, rfl, by decide, by decide⟩

/-- The option for the home of the toolchain takes a value. -/
private theorem takes_toolchainOption : Command.standalone.level.Takes "java-home" := by
  unfold Level.Takes
  decide

/-- No other command looks at the variable of the toolchain. -/
private theorem environment_ne_toolchainVariable {c : Command} (hc : c ≠ .standalone) :
    ∀ o ∈ c.level.options, o.environment ≠ some toolchainVariable := by
  cases c <;> first | decide | exact absurd rfl hc

/-- What a standalone request says about the reading that it was made of. -/
private theorem of_requestOf_standalone {raw : List String} {c : Command} {r : Reading}
    {directory root javaHome : Option Path} {arguments : List String}
    (h : requestOf raw c r = .ok (.standalone directory root javaHome arguments)) :
    c = .standalone ∧ pathOf r "cwd" = directory ∧ pathOf r "dist-root" = root ∧
      pathOf r "java-home" = javaHome ∧ restoreSeparator raw r.operands = arguments := by
  cases c with
  | standalone =>
    obtain ⟨rfl, rfl, rfl, rfl⟩ := Request.standalone.inj (Except.ok.inj h)
    exact ⟨rfl, rfl, rfl, rfl, rfl⟩
  | _ => cases h

/-- What a command line asks for that leaves the toolchain open, if the variable of the toolchain is
set: the toolchain is then the one that the variable names, unless it names none at all. -/
theorem parse_of_toolchainVariable {environment : String → Option OsText} {line : List String}
    {config directory root : Option Path} {arguments : List String} {home : OsText}
    (h : parse (withoutVariable environment toolchainVariable) line =
      .ok ⟨config, .standalone directory root none arguments⟩)
    (hset : environment toolchainVariable = some home) :
    parse environment line =
      if home = "" then .error .usage
      else .ok ⟨config, .standalone directory root (some ⟨home⟩) arguments⟩ := by
  obtain ⟨rs, hrs, h⟩ := Except.bind_eq_ok_iff.1 h
  split at h
  · cases h
  next c r hlast =>
  obtain ⟨request, hrequest, h⟩ := Except.bind_eq_ok_iff.1 h
  obtain ⟨rfl, rfl⟩ := Invocation.mk.inj (Except.ok.inj h)
  obtain ⟨rfl, rfl, rfl, hnone, rfl⟩ := of_requestOf_standalone hrequest
  -- Only a standalone launch looks at the variable, and it is the innermost command here.
  have hsame : ∀ c ≠ Command.standalone, ∀ p, c.level.finish environment p =
      c.level.finish (withoutVariable environment toolchainVariable) p := fun c hc p =>
    Level.finish_withoutVariable (environment_ne_toolchainVariable hc)
  obtain ⟨outer, p, own, continuation, rfl, hscan, hfinish, hreadings⟩ :=
    readings_of_innermost rfl hsame hrs hlast
  -- The option is not given: if it were, it would be on record with a value.
  have hvalued : p.Valued "java-home" :=
    takes_toolchainOption.scan (p := {}) (fun g hg => nomatch hg) hscan
  have hhas : r.has "java-home" = false :=
    Level.has_eq_false_of_finish hvalued hfinish (Option.map_eq_none_iff.1 hnone)
  obtain ⟨before, o, after, hoptions, hlong, hkind, hvariable, hothers, hbefore⟩ :=
    exists_toolchainOption
  obtain ⟨hfails, hgains⟩ :=
    Level.finish_of_variable hoptions hvariable hothers hbefore (hlong ▸ hhas) hfinish
  have hstandIn := Level.standIn_of_set hvariable hkind hset
  -- An empty value is refused like an empty path on the line; any other one fills the option.
  split at hstandIn
  · next hempty =>
    rw [parse, hreadings, hfails _ hstandIn, if_pos hempty]
    rfl
  · next hfilled =>
    obtain ⟨r', hr', hgain⟩ := hgains home hstandIn
    rw [hlong] at hgain
    have hreadings' : readings environment maxDepth .tool line =
        .ok (outer ++ [(.standalone, r')]) := by
      rw [hreadings, hr']
      rfl
    rw [parse_of_readings hreadings', if_neg hfilled, requestOf, Except.ok_map,
      hgain.configOf (by decide), hgain.operands, hgain.pathOf hnone,
      hgain.pathOf_of_ne (by decide), hgain.pathOf_of_ne (by decide)]

/-! ### What is started -/

/-- What a standalone launch comes to whose toolchain is looked for in the environment. -/
def standaloneOfEnvironment (exec : Executor Machine) (on : Gate.Occasion) (m : Machine)
    (config directory root : Option Path) (arguments : List String) : Outcome × World :=
  perform exec on m (launchPlan m (loadConfig m config >>= fun c =>
    standaloneLaunch m c directory root none arguments))

/-- A variable that is not set is not missed. -/
private theorem withoutVariable_of_unset {environment : String → Option OsText} {name : String}
    (h : environment name = none) : withoutVariable environment name = environment := by
  funext other
  unfold withoutVariable
  split
  · next heq => rw [heq, h]
  · rfl

section Toolchain

variable {m : Machine} {home : OsText}

/-- There is no toolchain if its variable is not set. -/
private theorem ofEnvironment_of_unset (h : m.setting? toolchainVariable = none) :
    Toolchain.ofEnvironment m = .error (.toolchainNotFound .unset) := by
  simp [Toolchain.ofEnvironment, Machine.filled?, h]

/-- There is no toolchain if its variable is empty. -/
private theorem ofEnvironment_of_empty
    (h : m.setting? toolchainVariable = some (OsText.ofText "")) :
    Toolchain.ofEnvironment m = .error (.toolchainNotFound .unset) := by
  rw [Toolchain.ofEnvironment, Machine.filled?, h, Option.filter_some_neg (by simp)]

/-- The toolchain is that of the home in its variable, if this is a directory. -/
private theorem ofEnvironment_of_filled (h : m.setting? toolchainVariable = some home)
    (hfilled : home ≠ "") :
    Toolchain.ofEnvironment m =
      if m.isDirectory ⟨home⟩ then .ok ⟨⟨home⟩⟩
      else .error (.toolchainNotFound (.notDirectory ⟨home⟩)) := by
  rw [Toolchain.ofEnvironment, Machine.filled?, h, Option.filter_some_pos (by simpa using hfilled)]

/-- A toolchain from the environment has its home from a variable that is not empty. -/
private theorem exists_of_ofEnvironment {t : Toolchain} (h : Toolchain.ofEnvironment m = .ok t) :
    ∃ home, m.setting? toolchainVariable = some home ∧ home ≠ "" ∧ t = ⟨⟨home⟩⟩ := by
  -- The look-up succeeds in one case only: the variable is set, filled and names a directory.
  cases hset : m.setting? toolchainVariable with
  | none =>
    rw [ofEnvironment_of_unset hset] at h
    cases h
  | some home =>
    by_cases hfilled : home = ""
    · rw [ofEnvironment_of_empty (hfilled ▸ hset)] at h
      cases h
    · rw [ofEnvironment_of_filled hset hfilled] at h
      split at h
      · exact ⟨home, rfl, hfilled, (Except.ok.inj h).symm⟩
      · cases h

end Toolchain

variable {exec : Executor Machine} {on : Gate.Occasion} {m : Machine} {line : List String}
  {config directory root javaHome : Option Path} {arguments : List String}

/-- A standalone command line comes to what its launch does. -/
private theorem run_of_standalone
    (h : parse m.setting? line = .ok ⟨config, .standalone directory root javaHome arguments⟩) :
    run exec on m line =
      perform exec on m (launchPlan m (loadConfig m config >>= fun c =>
        standaloneLaunch m c directory root javaHome arguments)) := by
  rw [run, plan_of_parse h]
  cases loadConfig m config <;> rfl

/-- A toolchain that the environment gives is that of the home which its variable names. -/
private theorem standaloneLaunch_of_ofEnvironment {c : Config} {t : Toolchain}
    (h : Toolchain.ofEnvironment m = .ok t) :
    standaloneLaunch m c directory root none arguments =
      standaloneLaunch m c directory root (some t.home) arguments := by
  have htoolchain : standaloneToolchain m none = .ok t := by
    rw [standaloneToolchain, h]
    rfl
  rw [standaloneLaunch_eq, standaloneLaunch_eq, htoolchain]
  rfl

/-- Without a toolchain from the environment, the failure says so. -/
private theorem standaloneOfEnvironment_of_error {e : Error}
    (h : Toolchain.ofEnvironment m = .error e) :
    (standaloneOfEnvironment exec on m config directory root arguments).2 = { machine := m } ∧
    ∀ c, loadConfig m config = .ok c →
      standaloneOfEnvironment exec on m config directory root arguments =
        (failed ("No JDK configured for standalone launch" :: e.causes), { machine := m }) := by
  -- Whatever the description says, the toolchain is looked up before anything else is resolved.
  have hlaunch : ∀ c, standaloneLaunch m c directory root none arguments =
      .error ("No JDK configured for standalone launch" :: e.causes) := by
    intro c
    rw [standaloneLaunch_eq, standaloneToolchain, h]
    rfl
  unfold standaloneOfEnvironment
  cases hload : loadConfig m config with
  | error messages => exact ⟨rfl, fun c hc => nomatch hc⟩
  | ok c =>
    rw [Except.ok_bind, hlaunch c]
    exact ⟨rfl, fun _ _ => rfl⟩

/-- The toolchain of a standalone launch that is given none. Looked for in the environment, it must
be there: otherwise the failure says what is missing, and nothing is started. Where it is there, or
where its variable is not set, the command does the same, and it starts the program of that
toolchain, by the text that is read of its path: this leads to the program exactly if the home is a
text. But a variable that is set stands in for the option, which is not checked: an empty one
makes the command line wrong, and with any other the program below that home is started, whether or
not the home is a directory. -/
theorem toolchainVariable_is_taken_unchecked (exec : Executor Machine) (on : Gate.Occasion)
    (m : Machine) (line : List String) (config directory root : Option Path)
    (arguments : List String)
    (hparse : parse (withoutVariable m.setting? toolchainVariable) line =
      .ok ⟨config, .standalone directory root none arguments⟩) :
    let finished := run exec on m line
    let checked := standaloneOfEnvironment exec on m config directory root arguments
    (∀ e, Toolchain.ofEnvironment m = .error e →
      checked.2 = { machine := m } ∧ ∀ c, loadConfig m config = .ok c →
        checked.1 = failed ("No JDK configured for standalone launch" :: e.causes)) ∧
    (∀ t, Toolchain.ofEnvironment m = .ok t →
      finished = checked ∧
        ∀ l ∈ finished.2.launches, l.program = (t.javaExecutable .unix).text ∧
          ((⟨l.program⟩ : Path) = t.javaExecutable .unix ↔ t.home.IsText)) ∧
    (m.setting? toolchainVariable = none →
      Toolchain.ofEnvironment m = .error (.toolchainNotFound .unset) ∧ finished = checked) ∧
    (m.setting? toolchainVariable = some (OsText.ofText "") →
      Toolchain.ofEnvironment m = .error (.toolchainNotFound .unset) ∧
        finished = (refusalOutcome m .usage, { machine := m })) ∧
    ∀ home, m.setting? toolchainVariable = some home → home ≠ "" →
      (m.isDirectory ⟨home⟩ = false →
        Toolchain.ofEnvironment m = .error (.toolchainNotFound (.notDirectory ⟨home⟩))) ∧
      ∀ l, l ∈ finished.2.launches ↔
        Prepares m config (.standalone directory root (some ⟨home⟩) arguments) l := by
  intro finished checked
  -- A variable that is filled is read as if its value were given for the option.
  have hfilled : ∀ home, m.setting? toolchainVariable = some home → home ≠ "" →
      parse m.setting? line = .ok ⟨config, .standalone directory root (some ⟨home⟩) arguments⟩ := by
    intro home hset hne
    rw [parse_of_toolchainVariable hparse hset, if_neg hne]
  -- The look-up fails or succeeds; then the variable is unset, empty, or filled in any way.
  refine ⟨fun e he => ?_, fun t ht => ?_, fun hunset => ?_, fun hempty => ?_,
    fun home hset hne => ?_⟩
  · obtain ⟨hnothing, hfailed⟩ := standaloneOfEnvironment_of_error he
    exact ⟨hnothing, fun c hload => congrArg Prod.fst (hfailed c hload)⟩
  · obtain ⟨home, hset, hne, rfl⟩ := exists_of_ofEnvironment ht
    have hparse' := hfilled home hset hne
    refine ⟨?_, fun l hl => ?_⟩
    · simp only [finished, checked, run_of_standalone hparse', standaloneOfEnvironment,
        standaloneLaunch_of_ofEnvironment ht]
    · obtain _ | @⟨_, _, _, _, c, toolchain, entries, hload, htoolchain, hentries, _⟩ :=
        (mem_launches_iff hparse' rfl l).1 hl
      obtain rfl := Except.ok.inj htoolchain
      refine ⟨rfl, ?_⟩
      rw [← Toolchain.isText_javaExecutable ⟨⟨home⟩⟩ .unix, Path.isText_iff]
  · refine ⟨ofEnvironment_of_unset hunset, ?_⟩
    rw [withoutVariable_of_unset hunset] at hparse
    exact run_of_standalone hparse
  · refine ⟨ofEnvironment_of_empty hempty, ?_⟩
    have hrefused := parse_of_toolchainVariable hparse hempty
    rw [if_pos rfl] at hrefused
    simp only [finished, run, plan, hrefused]
    rfl
  · refine ⟨fun hno => ?_, mem_launches_iff (hfilled home hset hne) rfl⟩
    rw [ofEnvironment_of_filled hset hne, if_neg (by simp [hno])]

/-- A machine with a home for the toolchain, which the environment names. -/
def homeToolchain : Machine where
  files := { nodes := [(["jdk"], .directory)] }
  environment := .ofList [(toolchainVariable, "/jdk")]
  cwd := []

/-- With a home that is there, the program of the toolchain is started. -/
theorem toolchainVariable_is_taken_unchecked_home :
    let line := ["bf-standalone", "--dist-root", "/d", "p.bf"]
    let exec : Executor Machine := fun _ m => (.error .notFound, m)
    let on : Gate.Occasion := ⟨"run", ⟨1970, 1, 1, 0, 0, 0, 0⟩, 0⟩
    parse (withoutVariable homeToolchain.setting? toolchainVariable) line =
      .ok ⟨none, .standalone none (some ⟨"/d"⟩) none ["p.bf"]⟩ ∧
    Toolchain.ofEnvironment homeToolchain = .ok ⟨⟨"/jdk"⟩⟩ ∧
    run exec on homeToolchain line =
      standaloneOfEnvironment exec on homeToolchain none none (some ⟨"/d"⟩) ["p.bf"] ∧
    ∀ l ∈ (run exec on homeToolchain line).2.launches,
      l.program = "/jdk/bin/java" ∧ (⟨l.program⟩ : Path) = ⟨"/jdk/bin/java"⟩ := by
  intro line exec on
  have hparse : parse (withoutVariable homeToolchain.setting? toolchainVariable) line =
      .ok ⟨none, .standalone none (some ⟨"/d"⟩) none ["p.bf"]⟩ :=
    Except.toOption_eq_some_iff.1 (by decide +kernel)
  have hfound : Toolchain.ofEnvironment homeToolchain = .ok ⟨⟨"/jdk"⟩⟩ :=
    Except.toOption_eq_some_iff.1 (by decide +kernel)
  obtain ⟨-, hagrees, -⟩ :=
    toolchainVariable_is_taken_unchecked exec on homeToolchain line none none (some ⟨"/d"⟩)
      ["p.bf"] hparse
  obtain ⟨hsame, hprograms⟩ := hagrees _ hfound
  have hprogram : Toolchain.javaExecutable ⟨⟨"/jdk"⟩⟩ .unix = ⟨"/jdk/bin/java"⟩ := by
    decide +kernel
  refine ⟨hparse, hfound, hsame, fun l hl => ?_⟩
  -- The home is a text, so the program is the very file that was meant.
  obtain ⟨htext, hplace⟩ := hprograms l hl
  rw [hprogram, Path.text_mk] at htext
  exact ⟨htext, hprogram ▸ hplace.2 (Path.isText_mk "/jdk")⟩

/-- A machine on which there is nothing where the environment says that the toolchain is. -/
def lostToolchain : Machine := { homeToolchain with files := { nodes := [] } }

/-- There is no toolchain, and the command line gives none, but a program of it is started. -/
theorem lost_toolchain_is_launched :
    let line := ["bf-standalone", "--dist-root", "/d", "p.bf"]
    Toolchain.ofEnvironment lostToolchain =
      .error (.toolchainNotFound (.notDirectory ⟨"/jdk"⟩)) ∧
    parse (withoutVariable lostToolchain.setting? toolchainVariable) line =
      .ok ⟨none, .standalone none (some ⟨"/d"⟩) none ["p.bf"]⟩ ∧
    (run (fun _ m => (.error .notFound, m)) ⟨"run", ⟨1970, 1, 1, 0, 0, 0, 0⟩, 0⟩ lostToolchain
      line).2.launches.map (·.program) = ["/jdk/bin/java"] := by
  intro line
  have hset : lostToolchain.setting? toolchainVariable = some (OsText.ofText "/jdk") := by
    decide +kernel
  have hdirectory : lostToolchain.isDirectory ⟨"/jdk"⟩ = false := by decide +kernel
  have hwithout : parse (withoutVariable lostToolchain.setting? toolchainVariable) line =
      .ok ⟨none, .standalone none (some ⟨"/d"⟩) none ["p.bf"]⟩ :=
    Except.toOption_eq_some_iff.1 (by decide +kernel)
  have hparse : parse lostToolchain.setting? line =
      .ok ⟨none, .standalone none (some ⟨"/d"⟩) (some ⟨"/jdk"⟩) ["p.bf"]⟩ := by
    rw [parse_of_toolchainVariable hwithout hset, if_neg (by decide)]
  have hroot : standaloneRoot lostToolchain (some ⟨"/d"⟩) = ⟨"/d"⟩ := by decide +kernel
  -- There is no such directory on the machine, and still the launch is prepared.
  have hprepares : Prepares lostToolchain none
      (.standalone none (some ⟨"/d"⟩) (some ⟨"/jdk"⟩) ["p.bf"]) _ :=
    .standalone rfl rfl (hroot ▸ classpath_default) (List.cons_ne_nil _ _)
  refine ⟨?_, hwithout, ?_⟩
  · rw [ofEnvironment_of_filled hset (by decide), hdirectory]
    rfl
  · rw [run_of_prepares hparse hprepares]
    rfl

end Suite.Cli
