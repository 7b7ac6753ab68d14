import Suite.Proofs.Cli.Standalone

/-!
# Launches and how they end

A request for a launch needs a description, a home and, from loose jars, a classpath. `Prepares`
says what it comes to if all of that is there; then one program is started, and the exit code tells
how it ended. If anything is missing, nothing is started.

## Key results

- `embeddedLaunch_eq_ok_iff`: what an embedded launch is made of
- `mem_launches_iff`: what a request starts, by what it needs
- `exitCodeOf_eq_zero_iff`: only a program that succeeded gives the exit code 0
- `launch_exits_like_program`: the exit code of the tool, for every way a launch can go
-/

namespace Suite.Cli

open Host (Ending Executor Finished IoError Launch Machine)

/-- A launcher is asked for. -/
def Request.isLaunch : Request → Bool
  | .embedded _ _ _ | .standalone _ _ _ _ => true
  | _ => false

/-- The home of the platform, as an embedded launch looks for it. -/
def platformHome (m : Machine) (home : Option Path) : Except Error Path :=
  match home with
  | some h => Locator.fixed h m
  | none => Locator.environment m

/-- All that a request for a launch needs is there, and this is what it starts. -/
inductive Prepares (m : Machine) (config : Option Path) : Request → Launch → Prop
  | embedded {directory home : Option Path} {arguments : List String} {c : Config} {place : Path}
    (hload : loadConfig m config = .ok c) (hhome : platformHome m home = .ok place) :
    Prepares m config (.embedded directory home arguments)
      ⟨(c.executablePath .unix place).text, arguments, directory⟩
  | standalone {directory root javaHome : Option Path} {arguments : List String} {c : Config}
    {toolchain : Toolchain} {entries : List Path} (hload : loadConfig m config = .ok c)
    (htoolchain : standaloneToolchain m javaHome = .ok toolchain)
    (hentries : c.classpath (standaloneRoot m root) c.standaloneArtifacts = .ok entries)
    (hne : entries ≠ []) :
    Prepares m config (.standalone directory root javaHome arguments)
      ⟨(toolchain.javaExecutable .unix).text,
        (c.component.launcher.vmFlags.divide arguments).flags ++
          ["-cp", classpathText entries, c.launcherMainClass] ++
          (c.component.launcher.vmFlags.divide arguments).arguments, directory⟩

variable {exec : Executor Machine} {on : Gate.Occasion} {m : Machine} {line : List String}
  {config : Option Path} {request : Request}

/-! ### Plans -/

/-- An embedded launch is made of the home of the platform and the arguments as they are. -/
theorem embeddedLaunch_eq_ok_iff {c : Config} {directory home : Option Path}
    {arguments : List String} {l : Launch} :
    embeddedLaunch m c directory home arguments = .ok l ↔
      ∃ place, platformHome m home = .ok place ∧
        l = ⟨(c.executablePath .unix place).text, arguments, directory⟩ := by
  have hlaunch : embeddedLaunch m c directory home arguments =
      ((platformHome m home >>= fun place => (.ok
          ⟨.native, (c.executablePath .unix place).text :: arguments⟩ :
            Except Error CommandLine)).mapError fun e =>
        "Failed to resolve embedded launcher" :: e.causes) >>= fun command =>
          launchOf command.arguments directory := by
    -- With and without a home the same steps follow the look-up.
    cases home <;> rfl
  rw [hlaunch]
  simp only [Except.bind_eq_ok_iff, Except.mapError_eq_ok_iff]
  constructor
  · rintro ⟨command, ⟨place, hplace, hcommand⟩, hl⟩
    obtain rfl := Except.ok.inj hcommand
    exact ⟨place, hplace, (Except.ok.inj hl).symm⟩
  · rintro ⟨place, hplace, rfl⟩
    exact ⟨_, ⟨place, hplace, rfl⟩, rfl⟩

/-- The plan for a command line that is read, by what loading the description comes to. -/
theorem plan_of_parse (h : parse m.setting? line = .ok ⟨config, request⟩) :
    plan m line =
      match loadConfig m config with
      | .error messages => .finish (failed messages) m
      | .ok c => requestPlan m c request := by
  cases hload : loadConfig m config with
  | error messages => simp [plan, h, hload]
  | ok c => simp [plan, h, hload]

/-- The plan for a request is the launch that it prepares, or to fail if it prepares none. -/
private theorem exists_prepared (m : Machine) (config : Option Path) (h : request.isLaunch = true) :
    ∃ prepared : Except (List String) Launch,
      (∀ l, prepared = .ok l ↔ Prepares m config request l) ∧
      ∀ line, parse m.setting? line = .ok ⟨config, request⟩ →
        plan m line = launchPlan m prepared := by
  -- Two requests launch something, and each of them loads the description first.
  cases request with
  | embedded directory home arguments =>
    refine ⟨loadConfig m config >>= fun c => embeddedLaunch m c directory home arguments,
      fun l => ?_, fun line hparse => ?_⟩
    · rw [Except.bind_eq_ok_iff]
      simp only [embeddedLaunch_eq_ok_iff]
      constructor
      · rintro ⟨c, hload, place, hplace, rfl⟩
        exact .embedded hload hplace
      · rintro ⟨hload, hplace⟩
        exact ⟨_, hload, _, hplace, rfl⟩
    · rw [plan_of_parse hparse]
      cases loadConfig m config <;> rfl
  | standalone directory root javaHome arguments =>
    refine ⟨loadConfig m config >>= fun c =>
      standaloneLaunch m c directory root javaHome arguments, fun l => ?_, fun line hparse => ?_⟩
    · rw [Except.bind_eq_ok_iff]
      simp only [standaloneLaunch_eq_ok_iff]
      constructor
      · rintro ⟨c, hload, toolchain, entries, htoolchain, hentries, hne, rfl⟩
        exact .standalone hload htoolchain hentries hne
      · rintro (_ | ⟨hload, htoolchain, hentries, hne⟩)
        exact ⟨_, hload, _, _, htoolchain, hentries, hne, rfl⟩
    · rw [plan_of_parse hparse]
      cases loadConfig m config <;> rfl
  | _ => cases h

/-- A request that prepares a launch starts it, and its outcome is that of the launch. -/
theorem run_of_prepares {l : Launch} (hparse : parse m.setting? line = .ok ⟨config, request⟩)
    (hprepares : Prepares m config request l) :
    run exec on m line =
      (launchOutcome l (exec l m).1, { machine := (exec l m).2, launches := [l] }) := by
  have hlaunch : request.isLaunch = true := by cases hprepares <;> rfl
  obtain ⟨prepared, hprepared, hplan⟩ := exists_prepared m config hlaunch
  rw [run, hplan line hparse, (hprepared l).2 hprepares]
  rfl

/-- A request for a launch that prepares none fails, and neither starts nor changes anything. -/
private theorem run_of_forall_not_prepares (hparse : parse m.setting? line = .ok ⟨config, request⟩)
    (hlaunch : request.isLaunch = true) (h : ∀ l, ¬ Prepares m config request l) :
    ∃ messages, run exec on m line = (failed messages, { machine := m }) := by
  obtain ⟨prepared, hprepared, hplan⟩ := exists_prepared m config hlaunch
  cases hcase : prepared with
  | ok l => exact absurd ((hprepared l).1 hcase) (h l)
  | error messages =>
    refine ⟨messages, ?_⟩
    rw [run, hplan line hparse, hcase]
    rfl

/-- A request for a launch starts what it prepares, and nothing else. -/
theorem mem_launches_iff (hparse : parse m.setting? line = .ok ⟨config, request⟩)
    (hlaunch : request.isLaunch = true) (l : Launch) :
    l ∈ (run exec on m line).2.launches ↔ Prepares m config request l := by
  obtain ⟨prepared, hprepared, hplan⟩ := exists_prepared m config hlaunch
  rw [← hprepared, run, hplan line hparse]
  cases prepared with
  | ok k => simp [launchPlan, perform, recording, eq_comm]
  | error messages => simp [launchPlan, perform]

/-! ### Exit codes -/

/-- A code of one byte is passed on. -/
private theorem exitCodeOf_exited {code : Int} (h : 0 ≤ code ∧ code ≤ 255) :
    (exitCodeOf (.exited code) : Int) = code := by
  rw [exitCodeOf, if_pos (by simp [h])]
  omega

/-- Any other code is a failure. -/
private theorem exitCodeOf_exited_of_not {code : Int} (h : ¬ (0 ≤ code ∧ code ≤ 255)) :
    exitCodeOf (.exited code) = 1 := by
  rw [exitCodeOf, if_neg (by simpa using h)]
  rfl

/-- The exit code is 0 only for a program that exits with 0. -/
theorem exitCodeOf_eq_zero_iff (e : Ending) : exitCodeOf e = 0 ↔ e = .exited 0 := by
  cases e with
  | exited code =>
    rw [Ending.exited.injEq]
    by_cases h : 0 ≤ code ∧ code ≤ 255
    · have hcode := exitCodeOf_exited h
      omega
    · have hcode := exitCodeOf_exited_of_not h
      omega
  | signalled signal => simp [exitCodeOf, failureCode]

/-- The exit code is 0 exactly if the program was started and exited with 0. -/
private theorem exit_launchOutcome_eq_zero_iff (l : Launch) (result : Except IoError Finished) :
    (launchOutcome l result).exit = 0 ↔ ∃ f, result = .ok f ∧ f.ending = .exited 0 := by
  cases result with
  | error e => simp [launchOutcome, failed, failureCode]
  | ok f =>
    have hexit : (launchOutcome l (.ok f)).exit = exitCodeOf f.ending := rfl
    rw [hexit, exitCodeOf_eq_zero_iff]
    simp

/-- A request for a launch starts a program exactly if all that it needs is there: the description
is loaded, and the home of the platform, or the toolchain and a classpath, are found. It starts one
program at most. If anything is missing, the tool fails with the code 1 and changes nothing. It
exits with the code of the program if that is one from 0 to 255, and with 1 for any other code, if a
signal ends the program or if it cannot be started. So the exit code 0 says that a program was
started and exited with 0. -/
theorem launch_exits_like_program (exec : Executor Machine) (on : Gate.Occasion) (m : Machine)
    (line : List String) (config : Option Path) (request : Request)
    (hparse : parse m.setting? line = .ok ⟨config, request⟩) (hlaunch : request.isLaunch = true) :
    let finished := run exec on m line
    (∀ l, l ∈ finished.2.launches ↔ Prepares m config request l) ∧
    finished.2.launches.length ≤ 1 ∧
    ((∀ l, ¬ Prepares m config request l) →
      finished.1.exit = 1 ∧ finished.2 = { machine := m, launches := [] }) ∧
    (∀ l, Prepares m config request l →
      (∀ e, (exec l m).1 = .error e → finished.1.exit = 1) ∧
      ∀ f, (exec l m).1 = .ok f →
        (∀ code, f.ending = .exited code → 0 ≤ code ∧ code ≤ 255 →
          (finished.1.exit : Int) = code) ∧
        (∀ code, f.ending = .exited code → ¬ (0 ≤ code ∧ code ≤ 255) → finished.1.exit = 1) ∧
        ∀ signal, f.ending = .signalled signal → finished.1.exit = 1) ∧
    (finished.1.exit = 0 ↔
      ∃ l f, finished.2.launches = [l] ∧ (exec l m).1 = .ok f ∧ f.ending = .exited 0) := by
  intro finished
  have hmem : ∀ l, l ∈ finished.2.launches ↔ Prepares m config request l :=
    mem_launches_iff hparse hlaunch
  -- Either one launch is prepared and the child decides, or nothing is and the tool fails by
  -- itself.
  by_cases hprepared : ∃ l, Prepares m config request l
  · obtain ⟨l, hl⟩ := hprepared
    have hrun : finished =
        (launchOutcome l (exec l m).1, { machine := (exec l m).2, launches := [l] }) :=
      run_of_prepares hparse hl
    rw [hrun] at hmem ⊢
    refine ⟨hmem, Nat.le_refl 1, fun hnone => absurd hl (hnone l), fun k hk => ?_, ?_⟩
    · -- how the launch went
      obtain rfl := List.mem_singleton.1 ((hmem k).2 hk)
      refine ⟨fun e he => ?_, fun f hf => ⟨fun code hcode hrange => ?_, fun code hcode hrange => ?_,
        fun signal hsignal => ?_⟩⟩
      · rw [he]
        rfl
      · rw [hf, launchOutcome, hcode]
        exact exitCodeOf_exited hrange
      · rw [hf, launchOutcome, hcode]
        exact exitCodeOf_exited_of_not hrange
      · rw [hf, launchOutcome, hsignal]
        rfl
    · rw [exit_launchOutcome_eq_zero_iff]
      constructor
      · rintro ⟨f, hf, hending⟩
        exact ⟨l, f, rfl, hf, hending⟩
      · rintro ⟨k, f, hk, hf, hending⟩
        obtain rfl := (List.cons.inj hk).1
        exact ⟨f, hf, hending⟩
  · have hnone : ∀ l, ¬ Prepares m config request l := not_exists.1 hprepared
    obtain ⟨messages, hfinished⟩ : ∃ messages, finished = (failed messages, { machine := m }) :=
      run_of_forall_not_prepares hparse hlaunch hnone
    rw [hfinished] at hmem ⊢
    refine ⟨hmem, Nat.zero_le 1, fun _ => ⟨rfl, rfl⟩,
      fun l hl => absurd hl (hnone l), ?_⟩
    exact iff_of_false (fun h => nomatch h) fun ⟨_, _, h, _⟩ => nomatch h

/-- A program that exits with 7 makes the tool exit with 7. -/
theorem launch_exits_like_program_seven :
    let line := ["bf-standalone", "--java-home=/jdk", "--dist-root", "/d", "x"]
    let request : Request := .standalone none (some ⟨"/d"⟩) (some ⟨"/jdk"⟩) ["x"]
    let finished := run (fun _ m => (.ok ⟨[], [], .exited 7, 0⟩, m))
      ⟨"run", ⟨1970, 1, 1, 0, 0, 0, 0⟩, 0⟩ bareMachine line
    parse bareMachine.setting? line = .ok ⟨none, request⟩ ∧ request.isLaunch = true ∧
      finished.2.launches.length = 1 ∧ finished.1.exit = 7 := by
  intro line request finished
  have hparse : parse bareMachine.setting? line = .ok ⟨none, request⟩ :=
    Except.toOption_eq_some_iff.1 (by decide +kernel)
  have hroot : standaloneRoot bareMachine (some ⟨"/d"⟩) = ⟨"/d"⟩ := by decide +kernel
  have hprepares : Prepares bareMachine none request _ :=
    .standalone rfl rfl (hroot ▸ classpath_default) (List.cons_ne_nil _ _)
  obtain ⟨hlaunches, hlength, -, hends, -⟩ :=
    launch_exits_like_program _ _ bareMachine line none request hparse rfl
  -- What is prepared is launched, so there is a launch, and there is no second one.
  have hmem : _ ∈ finished.2.launches := (hlaunches _).2 hprepares
  have hexit : (finished.1.exit : Int) = 7 :=
    ((hends _ hprepares).2 _ rfl).1 7 rfl (by decide)
  refine ⟨hparse, rfl, Nat.le_antisymm hlength (List.length_pos_of_mem hmem), by omega⟩

end Suite.Cli
