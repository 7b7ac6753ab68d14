import Suite.Config.Basic
import Suite.Json.Record

/-!
# Written descriptions

How a `Config` and its parts are written in JSON. A part with a default takes from it every field
that the text leaves out; of the other parts every field must be there, except for the two that have
a default of their own. A description with a path that is no text cannot be written.
-/

namespace Suite

open Json (Codec Field Fields)

/-- A path, written as the text that it is read as. -/
def Path.codec : Codec Path := Codec.path.via Path.text fun s => ⟨s⟩

namespace Distribution

/-- The fields of a written distribution. -/
def fields : Fields [Option Path, List String, Option String, Bool, Bool, Option String] :=
  let d : Distribution := {}
  .cons (.withDefault "path" (.optional Path.codec) d.path) <|
  .cons (.withDefault "dist_dependencies" (.list .text) d.dependencies) <|
  .cons (.withDefault "main_class" (.optional .text) d.mainClass) <|
  .cons (.withDefault "native" .bool d.native) <|
  .cons (.withDefault "test_distribution" .bool d.testOnly) <|
  .cons (.withDefault "description" (.optional .text) d.description) .nil

/-- A written distribution. -/
def codec : Codec Distribution :=
  (fields.codec "DistributionConfig").via
    (fun d => (d.path, d.dependencies, d.mainClass, d.native, d.testOnly, d.description, ()))
    fun (path, dependencies, mainClass, native, testOnly, description, ()) =>
      ⟨path, dependencies, mainClass, native, testOnly, description⟩

/-- The path that is given is a text. -/
def IsWritable (d : Distribution) : Prop := ∀ p ∈ d.path, p.IsText

instance (d : Distribution) : Decidable d.IsWritable :=
  inferInstanceAs (Decidable (∀ p ∈ d.path, p.IsText))

end Distribution

namespace VmFlags

/-- The field of written marks. -/
def fields : Fields [List String] :=
  .cons (.required "recognized_prefixes" (.list .text)) .nil

/-- Written marks. -/
def codec : Codec VmFlags :=
  (fields.codec "VmArgSplitter").via (fun f => (f.marks, ())) fun (marks, ()) => ⟨marks⟩

end VmFlags

namespace Launcher

/-- The fields of a written launcher. -/
def fields : Fields [String, List String, String, List String, String, VmFlags] :=
  .cons (.required "destination" .text) <|
  .cons (.required "jar_distributions" (.list .text)) <|
  .cons (.required "main_class" .text) <|
  .cons (.required "build_args" (.list .text)) <|
  .cons (.required "language" .text) <|
  .cons (.withDefault "vm_flags" VmFlags.codec {}) .nil

/-- A written launcher. -/
def codec : Codec Launcher :=
  (fields.codec "LauncherConfig").via
    (fun l => (l.destination, l.jars, l.mainClass, l.buildArgs, l.language, l.vmFlags, ()))
    fun (destination, jars, mainClass, buildArgs, language, vmFlags, ()) =>
      ⟨destination, jars, mainClass, buildArgs, language, vmFlags⟩

end Launcher

namespace LanguageComponent

/-- The fields of a written language. -/
def fields : Fields [String, String, List String, List String, List String, Launcher] :=
  .cons (.required "name" .text) <|
  .cons (.required "short_name" .text) <|
  .cons (.required "dependencies" (.list .text)) <|
  .cons (.required "truffle_jars" (.list .text)) <|
  .cons (.required "support_distributions" (.list .text)) <|
  .cons (.required "launcher" Launcher.codec) .nil

/-- A written language. -/
def codec : Codec LanguageComponent :=
  (fields.codec "LanguageComponent").via
    (fun c => (c.name, c.shortName, c.dependencies, c.languageJars, c.supportDistributions,
      c.launcher, ()))
    fun (name, shortName, dependencies, languageJars, supportDistributions, launcher, ()) =>
      ⟨name, shortName, dependencies, languageJars, supportDistributions, launcher⟩

end LanguageComponent

namespace ExecutableNaming

/-- The fields of a written naming. -/
def fields : Fields [String, String] :=
  let d : ExecutableNaming := {}
  .cons (.withDefault "windows_suffix" .text d.windowsEnd) <|
  .cons (.withDefault "unix_suffix" .text d.unixEnd) .nil

/-- A written naming. -/
def codec : Codec ExecutableNaming :=
  (fields.codec "ExecutableNaming").via (fun n => (n.windowsEnd, n.unixEnd, ()))
    fun (windowsEnd, unixEnd, ()) => ⟨windowsEnd, unixEnd⟩

end ExecutableNaming

namespace GateCommand

/-- The fields of a written gate command. -/
def fields : Fields [String, List String, List String, Nat] :=
  .cons (.required "name" .text) <|
  .cons (.required "tags" (.list .text)) <|
  .cons (.required "command" (.list .text)) <|
  .cons (.withDefault "timeout_secs" .natural 1800) .nil

/-- A written gate command. -/
def codec : Codec GateCommand :=
  (fields.codec "GateTaskConfig").via (fun t => (t.name, t.tags, t.command, t.timeout, ()))
    fun (name, tags, command, timeout, ()) => ⟨name, tags, command, timeout⟩

end GateCommand

namespace GateCommands

/-- The field of written gate commands. -/
def fields : Fields [List GateCommand] :=
  let d : GateCommands := {}
  .cons (.withDefault "tasks" (.list GateCommand.codec) d.tasks) .nil

/-- Written gate commands. -/
def codec : Codec GateCommands :=
  (fields.codec "GateConfig").via (fun g => (g.tasks, ())) fun (tasks, ()) => ⟨tasks⟩

end GateCommands

namespace CiFiles

/-- The fields of the written places of the files. -/
def fields : Fields [Path, Path] :=
  let d : CiFiles := {}
  .cons (.withDefault "local" Path.codec d.own) <|
  .cons (.withDefault "upstream" Path.codec d.shared) .nil

/-- The written places of the files. -/
def codec : Codec CiFiles :=
  (fields.codec "CiConfig").via (fun f => (f.own, f.shared, ()))
    fun (own, shared, ()) => ⟨own, shared⟩

/-- Both paths are texts. -/
def IsWritable (f : CiFiles) : Prop := f.own.IsText ∧ f.shared.IsText

instance (f : CiFiles) : Decidable f.IsWritable :=
  inferInstanceAs (Decidable (f.own.IsText ∧ f.shared.IsText))

end CiFiles

namespace Config

/-- The fields of a written description. -/
def fields : Fields
    [String, Table Distribution, LanguageComponent, ExecutableNaming, GateCommands, CiFiles] :=
  let d : Config := {}
  .cons (.withDefault "name" .text d.name) <|
  .cons (.withDefault "distributions" (.table Distribution.codec) d.distributions) <|
  .cons (.withDefault "component" LanguageComponent.codec d.component) <|
  .cons (.withDefault "executable_naming" ExecutableNaming.codec d.naming) <|
  .cons (.withDefault "gate" GateCommands.codec d.gate) <|
  .cons (.withDefault "ci" CiFiles.codec d.ci) .nil

/-- A written description. -/
def codec : Codec Config :=
  (fields.codec "SuiteConfig").via
    (fun c => (c.name, c.distributions, c.component, c.naming, c.gate, c.ci, ()))
    fun (name, distributions, component, naming, gate, ci, ()) =>
      ⟨name, distributions, component, naming, gate, ci⟩

/-- All paths in the description are texts. -/
def IsWritable (c : Config) : Prop :=
  (∀ x ∈ c.distributions.toList, x.2.IsWritable) ∧ c.ci.IsWritable

instance (c : Config) : Decidable c.IsWritable :=
  inferInstanceAs (Decidable ((∀ x ∈ c.distributions.toList, x.2.IsWritable) ∧ c.ci.IsWritable))

/-- The written description, if it can be written. -/
def written? (c : Config) : Option Json.Value :=
  if c.IsWritable then some (codec.encode c) else none

end Config

end Suite
