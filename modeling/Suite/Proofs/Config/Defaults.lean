import Suite.Config.Written
import Suite.Proofs.Json.Members
import Suite.Proofs.Text.Utf8

/-!
# Descriptions with members left out

What is read from a written description that has lost some of its members, in the whole and inside
its parts: a member that stays keeps its value, one that is left out has its default, and where it
has none, nothing is read. Each part is read by the law of `Fields.yields_own` for its own fields;
parts that hold others are put together from what is read of these.

## Key results

- `decode_of_keeps`, `yields_of_keeps`: what is read from some members of a part
- `recovers_codec`: what is written is read again
- `Config.decode_fills_defaults`: the same of whole descriptions
-/

namespace Suite

open Json (Codec Fields Readings Source Value Yields table_eq_ok yields_list)

/-- The members that stay in a written description, part by part. -/
structure Selection where
  config : String → Bool
  /-- The members of a distribution, by its id. -/
  distribution : String → String → Bool
  component : String → Bool
  launcher : String → Bool
  naming : String → Bool
  gate : String → Bool
  /-- The members of a gate command, by its position. -/
  command : Nat → String → Bool
  ci : String → Bool

section Stays

variable {α : Type} {stays : Bool} {o : Option α} {x : α}

/-- What is made of a member that stays; one that is left out is as it was. -/
def ifStays (stays : Bool) (o : Option α) (x : α) : Option α := if stays then o else some x

/-- Nothing is left where a member stays that has no meaning. -/
private theorem ifStays_eq_none_iff : ifStays stays o x = none ↔ stays = true ∧ o = none := by
  cases stays <;> simp [ifStays]

/-- A member that stays is read with what it holds, and another one has its default. -/
private theorem yields_ifStays {r : Except Json.Error α} (h : Yields r o) (hstays : stays = true) :
    Yields r (ifStays stays o x) := by
  rwa [ifStays, if_pos hstays]

/-- There is nothing exactly if a name is left out that is required. -/
private theorem ite_all_eq_none_iff {names : List String} {keep : String → Bool} :
    (if names.all keep then some x else none) = none ↔ ∃ name ∈ names, keep name = false := by
  simp

end Stays

section Parts

variable {keep : String → Bool} {v : Value} {room depth : Nat}

/-- A path that is a text is recovered. -/
theorem Path.recovers_codec {p : Path} (h : p.IsText) : Path.codec.Recovers depth p :=
  Codec.recovers_via Codec.recovers_path (congrArg Path.mk h)

/-- A list of texts is recovered. -/
private theorem recovers_texts {ss : List String} : Codec.text.list.Recovers (depth + 1) ss :=
  Codec.recovers_list fun _ _ => Codec.recovers_text

/-! ### Distributions -/

namespace Distribution

/-- The distribution with defaults for the members left out. -/
def restrict (keep : String → Bool) (d : Distribution) : Distribution :=
  let default : Distribution := {}
  { path := if keep "path" then d.path else default.path
    dependencies := if keep "dist_dependencies" then d.dependencies else default.dependencies
    mainClass := if keep "main_class" then d.mainClass else default.mainClass
    native := if keep "native" then d.native else default.native
    testOnly := if keep "test_distribution" then d.testOnly else default.testOnly
    description := if keep "description" then d.description else default.description }

/-- The distributions of a table, each without the members left out under its id. -/
def restrictAll (keep : String → String → Bool) (t : Table Distribution) : Table Distribution where
  toList := t.toList.map fun x => (x.1, x.2.restrict (keep x.1))
  sorted := List.pairwise_map.2 t.sorted

/-- The value holds the distributions of a table in any order, each written with the members that
stay under its id. -/
def AllKept (keep : String → String → Bool) (t : Table Distribution) (v : Value) : Prop :=
  ∃ ms xs, v = .object ms ∧ xs.Perm t.toList ∧
    List.Forall₂ (fun m x => m.1 = x.1 ∧ fields.Keeps (keep x.1) (codec.encode x.2) m.2) ms xs

private theorem nodup_names : fields.names.Nodup := by decide

private theorem recovers_fields {d : Distribution} (hd : d.IsWritable) :
    fields.Recovers (depth + 1)
      (d.path, d.dependencies, d.mainClass, d.native, d.testOnly, d.description, ()) :=
  have hpath : Path.codec.optional.Recovers (depth + 1) d.path :=
    Codec.recovers_optional (fun p hp => Path.recovers_codec (hd p hp)) fun _ h => nomatch h
  have htext (o : Option String) : Codec.text.optional.Recovers (depth + 1) o :=
    Codec.recovers_optional (fun _ _ => Codec.recovers_text) fun _ h => nomatch h
  ⟨hpath, recovers_texts, htext _, Codec.recovers_bool, Codec.recovers_bool, htext _, trivial⟩

/-- A written distribution is read again. -/
theorem recovers_codec {d : Distribution} (hd : d.IsWritable) : codec.Recovers (depth + 2) d :=
  Fields.recovers_via nodup_names (recovers_fields hd) rfl

/-- A distribution that is written with some members is read with the defaults of the others. -/
theorem decode_of_keeps {d : Distribution} (hd : d.IsWritable)
    (h : fields.Keeps keep (codec.encode d) v) :
    codec.decode (room + 2) (Source.ofValue v) = .ok (d.restrict keep) :=
  Fields.yields_own nodup_names (recovers_fields hd) h

/-- Distributions that are written with some members each are read with the defaults of the others.
-/
private theorem decode_of_allKept {keep : String → String → Bool} {t : Table Distribution}
    (ht : ∀ x ∈ t.toList, x.2.IsWritable) (h : AllKept keep t v) :
    codec.decode.table (room + 3) (Source.ofValue v) = .ok (restrictAll keep t) := by
  obtain ⟨ms, xs, rfl, hperm, hms⟩ := h
  have hxs : ∀ x ∈ xs, x.2.IsWritable := fun x hx => ht x (hperm.mem_iff.1 hx)
  -- The members stand in the order of `xs`, which is not that of the table.
  have hread : List.Forall₂
      (fun m x => m.1 = x.1 ∧ codec.decode (room + 2) (Source.ofValue m.2) = .ok x.2) ms
      (xs.map fun x => (x.1, x.2.restrict (keep x.1))) :=
    List.forall₂_map_right_iff.2 (((List.forall₂_and_left _ _).2 ⟨hxs, hms.flip⟩).flip.imp
      fun _ _ hm => ⟨hm.2.1, decode_of_keeps hm.1 hm.2.2⟩)
  exact table_eq_ok hread (hperm.map _)

end Distribution

/-! ### The language and its launcher -/

namespace Launcher

/-- The members that have no default. -/
def requiredMembers : List String :=
  ["destination", "jar_distributions", "main_class", "build_args", "language"]

/-- The launcher with the default for `vm_flags` if it is left out; no other member may be. -/
def restrict? (keep : String → Bool) (l : Launcher) : Option Launcher :=
  if requiredMembers.all keep then
    some { l with vmFlags := if keep "vm_flags" then l.vmFlags else {} }
  else none

private theorem nodup_names : fields.names.Nodup := by decide

private theorem recovers_fields {l : Launcher} :
    fields.Recovers (depth + 2)
      (l.destination, l.jars, l.mainClass, l.buildArgs, l.language, l.vmFlags, ()) :=
  have hflags : VmFlags.codec.Recovers (depth + 2) l.vmFlags :=
    Fields.recovers_via (by decide) ⟨recovers_texts, trivial⟩ rfl
  ⟨Codec.recovers_text, recovers_texts, Codec.recovers_text, recovers_texts, Codec.recovers_text,
    hflags, trivial⟩

/-- A written launcher is read again. -/
theorem recovers_codec {l : Launcher} : codec.Recovers (depth + 3) l :=
  Fields.recovers_via nodup_names recovers_fields rfl

/-- A launcher that is written with some members is read with defaults, unless a required one is
missing. -/
theorem yields_of_keeps {l : Launcher} (h : fields.Keeps keep (codec.encode l) v) :
    Yields (codec.decode (room + 3) (Source.ofValue v)) (l.restrict? keep) :=
  Fields.yields_own nodup_names recovers_fields h

end Launcher

namespace LanguageComponent

variable {keepLauncher : String → Bool}

/-- The members that have no default, which are all of them. -/
def requiredMembers : List String :=
  ["name", "short_name", "dependencies", "truffle_jars", "support_distributions", "launcher"]

/-- The language with the launcher that is left of its own. -/
def restrict? (keep keepLauncher : String → Bool) (c : LanguageComponent) :
    Option LanguageComponent := do
  let launcher ← c.launcher.restrict? keepLauncher
  if requiredMembers.all keep then some { c with launcher } else none

/-- The value is a written language without the members left out, in it a launcher without those
left out there. -/
def Kept (keep keepLauncher : String → Bool) (c : LanguageComponent) (v : Value) : Prop :=
  ∃ launcher, Launcher.fields.Keeps keepLauncher (Launcher.codec.encode c.launcher) launcher ∧
    fields.Keeps keep ((codec.encode c).replace "launcher" launcher) v

/-- A language component is refused exactly if it or its launcher lacks a required member. -/
private theorem restrict?_eq_none_iff {c : LanguageComponent} :
    c.restrict? keep keepLauncher = none ↔
      (∃ name ∈ Launcher.requiredMembers, keepLauncher name = false) ∨
        ∃ name ∈ requiredMembers, keep name = false := by
  have hlauncher : c.launcher.restrict? keepLauncher = none ↔ _ := ite_all_eq_none_iff
  rw [← hlauncher, restrict?]
  cases c.launcher.restrict? keepLauncher with
  | none => simp
  | some l => simp

private theorem nodup_names : fields.names.Nodup := by decide

/-- A written language component is read again. -/
theorem recovers_codec {c : LanguageComponent} : codec.Recovers (depth + 4) c :=
  have hfields : fields.Recovers (depth + 3)
      (c.name, c.shortName, c.dependencies, c.languageJars, c.supportDistributions, c.launcher,
        ()) :=
    ⟨Codec.recovers_text, Codec.recovers_text, recovers_texts, recovers_texts, recovers_texts,
      Launcher.recovers_codec, trivial⟩
  Fields.recovers_via nodup_names hfields rfl

/-- A language component that is written with some members is read with defaults, unless a required
one is missing in it or in its launcher. -/
private theorem yields_of_kept {c : LanguageComponent} (h : c.Kept keep keepLauncher v) :
    Yields (codec.decode (room + 4) (Source.ofValue v)) (c.restrict? keep keepLauncher) := by
  obtain ⟨launcher, hlauncher, hkeeps⟩ := h
  let readings (o : Option Launcher) :
      Readings [String, String, List String, List String, List String, Launcher] :=
    ((.string c.name, some c.name), (.string c.shortName, some c.shortName),
      (Codec.text.list.encode c.dependencies, some c.dependencies),
      (Codec.text.list.encode c.languageJars, some c.languageJars),
      (Codec.text.list.encode c.supportDistributions, some c.supportDistributions),
      (launcher, o), ())
  have hread : fields.Read keep (room + 3) (readings (c.launcher.restrict? keepLauncher)) :=
    ⟨fun _ => rfl, fun _ => rfl, fun _ => recovers_texts room, fun _ => recovers_texts room,
      fun _ => recovers_texts room, fun _ => Launcher.yields_of_keeps hlauncher, trivial⟩
  have hmembers : ∀ o, ((codec.encode c).replace "launcher" launcher).members =
      fields.members (readings o) := fun _ => rfl
  rw [restrict?]
  cases hl : c.launcher.restrict? keepLauncher with
  | some l =>
    rw [hl] at hread
    exact Fields.yields_of_values? nodup_names hread (hmembers _) hkeeps rfl
  | none =>
    rw [hl] at hread
    -- The launcher has no default, so it is missing whether it stays or not.
    have hlacks : fields.Lacks keep (readings none) :=
      .inr (.inr (.inr (.inr (.inr (.inl (ite_self none))))))
    exact Fields.yields_of_lacks nodup_names hread (hmembers _) hkeeps hlacks

end LanguageComponent

/-! ### The gate -/

namespace GateCommand

/-- The members that have no default. -/
def requiredMembers : List String := ["name", "tags", "command"]

/-- The command with the default for `timeout_secs` if it is left out; no other member may be. -/
def restrict? (keep : String → Bool) (t : GateCommand) : Option GateCommand :=
  if requiredMembers.all keep then
    some { t with timeout := if keep "timeout_secs" then t.timeout else 1800 }
  else none

/-- The commands of a list, each without the members left out at its position. -/
def restrictAll? (keep : Nat → String → Bool) (ts : List GateCommand) : Option (List GateCommand) :=
  ts.zipIdx.mapM fun t => restrict? (keep t.2) t.1

/-- The value holds the commands of a list, each written with the members that stay at its
position. -/
def AllKept (keep : Nat → String → Bool) (ts : List GateCommand) (v : Value) : Prop :=
  ∃ vs, v = .array vs ∧
    List.Forall₂ (fun v t => fields.Keeps (keep t.2) (codec.encode t.1) v) vs ts.zipIdx

/-- Commands are refused exactly if one of them lacks a required member. -/
private theorem restrictAll?_eq_none_iff {keep : Nat → String → Bool} {ts : List GateCommand} :
    restrictAll? keep ts = none ↔
      ∃ i < ts.length, ∃ name ∈ requiredMembers, keep i name = false := by
  rw [restrictAll?, Option.mapM_eq_none_iff]
  constructor
  · rintro ⟨⟨t, i⟩, hmem, hnone⟩
    exact ⟨i, List.snd_lt_of_mem_zipIdx hmem, ite_all_eq_none_iff.1 hnone⟩
  · rintro ⟨i, hi, hname⟩
    exact ⟨(ts[i], i), List.mk_mem_zipIdx_iff_getElem?.2 (List.getElem?_eq_getElem hi),
      ite_all_eq_none_iff.2 hname⟩

private theorem nodup_names : fields.names.Nodup := by decide

private theorem recovers_fields {t : GateCommand} :
    fields.Recovers (depth + 1) (t.name, t.tags, t.command, t.timeout, ()) :=
  ⟨Codec.recovers_text, recovers_texts, recovers_texts, Codec.recovers_natural, trivial⟩

/-- A written command is read again. -/
theorem recovers_codec {t : GateCommand} : codec.Recovers (depth + 2) t :=
  Fields.recovers_via nodup_names recovers_fields rfl

/-- A command that is written with some members is read with defaults, unless a required one is
missing. -/
theorem yields_of_keeps {t : GateCommand} (h : fields.Keeps keep (codec.encode t) v) :
    Yields (codec.decode (room + 2) (Source.ofValue v)) (t.restrict? keep) :=
  Fields.yields_own nodup_names recovers_fields h

/-- Commands that are written with some members each are read with defaults, unless a required one
is missing. -/
private theorem yields_of_allKept {keep : Nat → String → Bool} {ts : List GateCommand}
    (h : AllKept keep ts v) :
    Yields (codec.decode.list (room + 3) (Source.ofValue v)) (restrictAll? keep ts) := by
  obtain ⟨vs, rfl, hvs⟩ := h
  exact yields_list (hvs.imp fun _ _ => yields_of_keeps)

end GateCommand

namespace GateCommands

variable {keepCommand : Nat → String → Bool}

/-- The commands, or the default ones if `tasks` is left out. -/
def restrict (keep : String → Bool) (g : GateCommands) : GateCommands :=
  let default : GateCommands := {}
  { tasks := if keep "tasks" then g.tasks else default.tasks }

/-- The same with the commands that are left of its own. -/
def restrict? (keep : String → Bool) (keepCommand : Nat → String → Bool) (g : GateCommands) :
    Option GateCommands := do
  let tasks ← ifStays (keep "tasks") (GateCommand.restrictAll? keepCommand g.tasks) g.tasks
  return restrict keep { tasks }

/-- The value is written commands without the member left out, in it commands without those left
out there. -/
def Kept (keep : String → Bool) (keepCommand : Nat → String → Bool) (g : GateCommands)
    (v : Value) : Prop :=
  ∃ tasks, GateCommand.AllKept keepCommand g.tasks tasks ∧
    fields.Keeps keep ((codec.encode g).replace "tasks" tasks) v

/-- The commands of a gate are refused exactly if they are there and one of them lacks a required
member. -/
private theorem restrict?_eq_none_iff {g : GateCommands} :
    g.restrict? keep keepCommand = none ↔ keep "tasks" = true ∧
      ∃ i < g.tasks.length, ∃ name ∈ GateCommand.requiredMembers, keepCommand i name = false := by
  rw [← GateCommand.restrictAll?_eq_none_iff, ← ifStays_eq_none_iff (x := g.tasks), restrict?]
  cases ifStays (keep "tasks") (GateCommand.restrictAll? keepCommand g.tasks) g.tasks <;> simp

private theorem nodup_names : fields.names.Nodup := by decide

/-- The written commands of a gate are read again. -/
theorem recovers_codec {g : GateCommands} : codec.Recovers (depth + 4) g :=
  have hfields : fields.Recovers (depth + 3) (g.tasks, ()) :=
    ⟨Codec.recovers_list fun _ _ => GateCommand.recovers_codec, trivial⟩
  Fields.recovers_via nodup_names hfields rfl

/-- The commands of a gate are read with defaults, unless a required member is missing. -/
private theorem yields_of_kept {g : GateCommands} (h : g.Kept keep keepCommand v) :
    Yields (codec.decode (room + 4) (Source.ofValue v)) (g.restrict? keep keepCommand) := by
  obtain ⟨tasks, htasks, hkeeps⟩ := h
  let readings (o : Option (List GateCommand)) : Readings [List GateCommand] := ((tasks, o), ())
  -- If `tasks` is left out, it does not matter what the commands in it lack.
  have hread : fields.Read keep (room + 3) (readings
      (ifStays (keep "tasks") (GateCommand.restrictAll? keepCommand g.tasks) g.tasks)) :=
    ⟨yields_ifStays (GateCommand.yields_of_allKept htasks), trivial⟩
  have hmembers : ∀ o, ((codec.encode g).replace "tasks" tasks).members =
      fields.members (readings o) := fun _ => rfl
  rw [restrict?]
  cases hcommands :
      ifStays (keep "tasks") (GateCommand.restrictAll? keepCommand g.tasks) g.tasks with
  | some commands =>
    rw [hcommands] at hread
    exact Fields.yields_of_values? nodup_names hread (hmembers _) hkeeps rfl
  | none =>
    rw [hcommands] at hread
    have hlacks : fields.Lacks keep (readings none) :=
      .inl (if_pos (ifStays_eq_none_iff.1 hcommands).1)
    exact Fields.yields_of_lacks nodup_names hread (hmembers _) hkeeps hlacks

end GateCommands

/-! ### Names and places -/

namespace ExecutableNaming

/-- The naming with defaults for the members left out. -/
def restrict (keep : String → Bool) (n : ExecutableNaming) : ExecutableNaming :=
  let default : ExecutableNaming := {}
  { windowsEnd := if keep "windows_suffix" then n.windowsEnd else default.windowsEnd
    unixEnd := if keep "unix_suffix" then n.unixEnd else default.unixEnd }

private theorem nodup_names : fields.names.Nodup := by decide

private theorem recovers_fields {n : ExecutableNaming} :
    fields.Recovers depth (n.windowsEnd, n.unixEnd, ()) :=
  ⟨Codec.recovers_text, Codec.recovers_text, trivial⟩

/-- Written ends of file names are read again. -/
theorem recovers_codec {n : ExecutableNaming} : codec.Recovers (depth + 1) n :=
  Fields.recovers_via nodup_names recovers_fields rfl

/-- Ends of file names that are written in part are read with the defaults of the others. -/
theorem decode_of_keeps {n : ExecutableNaming} (h : fields.Keeps keep (codec.encode n) v) :
    codec.decode (room + 1) (Source.ofValue v) = .ok (n.restrict keep) :=
  Fields.yields_own nodup_names recovers_fields h

end ExecutableNaming

namespace CiFiles

/-- The places with defaults for the members left out. -/
def restrict (keep : String → Bool) (f : CiFiles) : CiFiles :=
  let default : CiFiles := {}
  { own := if keep "local" then f.own else default.own
    shared := if keep "upstream" then f.shared else default.shared }

private theorem nodup_names : fields.names.Nodup := by decide

private theorem recovers_fields {f : CiFiles} (hf : f.IsWritable) :
    fields.Recovers depth (f.own, f.shared, ()) :=
  ⟨Path.recovers_codec hf.1, Path.recovers_codec hf.2, trivial⟩

/-- The written places of the shared files are read again. -/
theorem recovers_codec {f : CiFiles} (hf : f.IsWritable) : codec.Recovers (depth + 1) f :=
  Fields.recovers_via nodup_names (recovers_fields hf) rfl

/-- Places of the shared files that are written in part are read with the defaults of the others. -/
theorem decode_of_keeps {f : CiFiles} (hf : f.IsWritable)
    (h : fields.Keeps keep (codec.encode f) v) :
    codec.decode (room + 1) (Source.ofValue v) = .ok (f.restrict keep) :=
  Fields.yields_own nodup_names (recovers_fields hf) h

end CiFiles

end Parts

/-! ### Whole descriptions -/

namespace Config

variable {c : Config} {keep : String → Bool} {sel : Selection} {v : Value} {room depth : Nat}

/-- The description with defaults for the members left out. -/
def restrict (keep : String → Bool) (c : Config) : Config :=
  let default : Config := {}
  { name := if keep "name" then c.name else default.name
    distributions := if keep "distributions" then c.distributions else default.distributions
    component := if keep "component" then c.component else default.component
    naming := if keep "executable_naming" then c.naming else default.naming
    gate := if keep "gate" then c.gate else default.gate
    ci := if keep "ci" then c.ci else default.ci }

/-- The same with the parts that are left of its own. -/
def restrict? (sel : Selection) (c : Config) : Option Config := do
  let component ← ifStays (sel.config "component")
    (c.component.restrict? sel.component sel.launcher) c.component
  let gate ← ifStays (sel.config "gate") (c.gate.restrict? sel.gate sel.command) c.gate
  return restrict sel.config
    { name := c.name
      distributions := Distribution.restrictAll sel.distribution c.distributions
      component
      naming := c.naming.restrict sel.naming
      gate
      ci := c.ci.restrict sel.ci }

/-- A member without a default is left out of the language, of its launcher or of a gate command,
and what it is left out of stays. -/
def Omits (sel : Selection) (c : Config) : Prop :=
  (sel.config "component" = true ∧
    ((∃ name ∈ Launcher.requiredMembers, sel.launcher name = false) ∨
      ∃ name ∈ LanguageComponent.requiredMembers, sel.component name = false)) ∨
  (sel.config "gate" = true ∧ sel.gate "tasks" = true ∧
    ∃ i < c.gate.tasks.length, ∃ name ∈ GateCommand.requiredMembers, sel.command i name = false)

/-- The written description with other values for its parts. -/
def encodeWith (c : Config) (distributions component naming gate ci : Value) : Value :=
  codec.encode c
    |>.replace "distributions" distributions
    |>.replace "component" component
    |>.replace "executable_naming" naming
    |>.replace "gate" gate
    |>.replace "ci" ci

/-- The value is a written description without the members left out, in it parts without those left
out there. -/
def Kept (sel : Selection) (c : Config) (v : Value) : Prop :=
  ∃ distributions component naming gate ci,
    Distribution.AllKept sel.distribution c.distributions distributions ∧
    c.component.Kept sel.component sel.launcher component ∧
    ExecutableNaming.fields.Keeps sel.naming (ExecutableNaming.codec.encode c.naming) naming ∧
    c.gate.Kept sel.gate sel.command gate ∧
    CiFiles.fields.Keeps sel.ci (CiFiles.codec.encode c.ci) ci ∧
    fields.Keeps sel.config (c.encodeWith distributions component naming gate ci) v

/-- A description is refused exactly if a required member is left out somewhere. -/
private theorem restrict?_eq_none_iff : c.restrict? sel = none ↔ c.Omits sel := by
  rw [Omits, ← LanguageComponent.restrict?_eq_none_iff (c := c.component),
    ← GateCommands.restrict?_eq_none_iff, ← ifStays_eq_none_iff (x := c.component),
    ← ifStays_eq_none_iff (x := c.gate), restrict?]
  cases ifStays (sel.config "component") (c.component.restrict? sel.component sel.launcher)
    c.component with
  | none => simp
  | some component =>
    cases ifStays (sel.config "gate") (c.gate.restrict? sel.gate sel.command) c.gate <;> simp

private theorem nodup_names : fields.names.Nodup := by decide

private theorem recovers_fields (hc : c.IsWritable) :
    fields.Recovers (depth + 4)
      (c.name, c.distributions, c.component, c.naming, c.gate, c.ci, ()) :=
  ⟨Codec.recovers_text,
    Codec.recovers_table fun x hx => Distribution.recovers_codec (hc.1 x hx),
    LanguageComponent.recovers_codec, ExecutableNaming.recovers_codec, GateCommands.recovers_codec,
    CiFiles.recovers_codec hc.2, trivial⟩

/-- A written description is read again. -/
theorem recovers_codec (hc : c.IsWritable) : codec.Recovers (depth + 5) c :=
  Fields.recovers_via nodup_names (recovers_fields hc) rfl

/-- A description that is written with some members is read with the defaults of the others. -/
theorem decode_of_keeps (hc : c.IsWritable) (h : fields.Keeps keep (codec.encode c) v) :
    codec.decode (room + 5) (Source.ofValue v) = .ok (c.restrict keep) :=
  Fields.yields_own nodup_names (recovers_fields hc) h

/-- A description that is written in part, down to the members of its parts, is read with defaults,
unless a required member is missing. -/
private theorem yields_of_kept (hc : c.IsWritable) (h : c.Kept sel v) :
    Yields (codec.decode (room + 5) (Source.ofValue v)) (c.restrict? sel) := by
  obtain ⟨distributions, component, naming, gate, ci, hdistributions, hcomponent, hnaming, hgate,
    hci, hkeeps⟩ := h
  let readings (component? : Option LanguageComponent) (gate? : Option GateCommands) : Readings
      [String, Table Distribution, LanguageComponent, ExecutableNaming, GateCommands, CiFiles] :=
    ((.string c.name, some c.name),
      (distributions, some (Distribution.restrictAll sel.distribution c.distributions)),
      (component, component?), (naming, some (c.naming.restrict sel.naming)),
      (gate, gate?), (ci, some (c.ci.restrict sel.ci)), ())
  have hmembers : ∀ component? gate?,
      (c.encodeWith distributions component naming gate ci).members =
        fields.members (readings component? gate?) := fun _ _ => rfl
  -- A part that is left out is not read, so it does not matter what it lacks.
  rw [restrict?]
  generalize hcomponent? : ifStays (sel.config "component")
    (c.component.restrict? sel.component sel.launcher) c.component = component?
  generalize hgate? : ifStays (sel.config "gate") (c.gate.restrict? sel.gate sel.command) c.gate =
    gate?
  have hread : fields.Read sel.config (room + 4) (readings component? gate?) :=
    ⟨fun _ => rfl, fun _ => Distribution.decode_of_allKept hc.1 hdistributions,
      hcomponent? ▸ yields_ifStays (LanguageComponent.yields_of_kept hcomponent),
      fun _ => ExecutableNaming.decode_of_keeps hnaming,
      hgate? ▸ yields_ifStays (GateCommands.yields_of_kept hgate),
      fun _ => CiFiles.decode_of_keeps hc.2 hci, trivial⟩
  cases component? with
  | none =>
    have hlacks : fields.Lacks sel.config (readings none gate?) :=
      .inr (.inr (.inl (if_pos (ifStays_eq_none_iff.1 hcomponent?).1)))
    exact Fields.yields_of_lacks nodup_names hread (hmembers _ _) hkeeps hlacks
  | some component =>
    cases gate? with
    | none =>
      have hlacks : fields.Lacks sel.config (readings (some component) none) :=
        .inr (.inr (.inr (.inr (.inl (if_pos (ifStays_eq_none_iff.1 hgate?).1)))))
      exact Fields.yields_of_lacks nodup_names hread (hmembers _ _) hkeeps hlacks
    | some gate => exact Fields.yields_of_values? nodup_names hread (hmembers _ _) hkeeps rfl

/-- A description can be written exactly if all paths in it are texts. -/
private theorem written?_eq_some_iff {w : Value} :
    c.written? = some w ↔ c.IsWritable ∧ codec.encode c = w := by
  rw [written?, Option.ite_none_right_eq_some, Option.some.injEq]

/-- Some members of a written description, in any order and beside members of other names, are read
as the description with defaults for the members left out; all of them are read as the description
itself. The same holds inside the parts, unless a member without a default is left out there: then
the error is that a field is missing. -/
theorem decode_fills_defaults (c : Config) (w : Value) (hwritten : c.written? = some w) :
    (∀ keep v, fields.Keeps keep w v → codec.decode.ofValue v = .ok (c.restrict keep)) ∧
    codec.decode.ofValue w = .ok c ∧
    (∀ sel v, c.Kept sel v → Yields (codec.decode.ofValue v) (c.restrict? sel)) ∧
    (∀ sel, c.restrict? sel = none ↔ c.Omits sel) := by
  obtain ⟨hc, rfl⟩ := written?_eq_some_iff.1 hwritten
  -- A description has at most five arrays and objects inside each other.
  have hroom : Json.maxNesting = 122 + 5 := rfl
  refine ⟨fun keep v h => ?_, ?_, fun sel v h => ?_, fun sel => restrict?_eq_none_iff⟩
  · rw [Json.Decoder.ofValue_eq, hroom]
    exact decode_of_keeps hc h
  · rw [Json.Decoder.ofValue_eq, hroom]
    exact recovers_codec hc 122
  · rw [Json.Decoder.ofValue_eq, hroom]
    exact yields_of_kept hc h

/-- The default description can be written, and an object without members is read as it. -/
theorem decode_fills_defaults_empty :
    let c : Config := {}
    c.written? = some (codec.encode c) ∧ codec.decode.ofValue (codec.encode c) = .ok c ∧
      codec.decode.ofValue (.object []) = .ok c := by
  intro c
  have hwritten : c.written? = some (codec.encode c) := by
    rw [written?_eq_some_iff]
    exact ⟨by decide +kernel, rfl⟩
  -- No path is given, so all of them are texts.
  obtain ⟨hkeeps, hread, -⟩ := decode_fills_defaults c _ hwritten
  -- Nothing is kept of the members, so every one of them is filled in.
  have hempty : fields.Keeps (fun _ => false) (codec.encode c) (.object []) :=
    ⟨[], [], rfl, by simp, fun _ h => nomatch h⟩
  exact ⟨hwritten, hread, hkeeps _ _ hempty⟩

/-- Another gate, and a member that is unknown. -/
example :
    codec.decode.ofValue (.object
      [("version", .null),
       ("gate", .object [("tasks", .array
         [.object [("command", .array [.string "true"]), ("name", .string "Smoke"),
           ("tags", .array [])]])])]) =
      .ok { gate := { tasks := [⟨"Smoke", [], ["true"], 1800⟩] } } := by
  rfl

end Config

end Suite
