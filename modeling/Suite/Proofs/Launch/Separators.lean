import Suite.Proofs.Launch.Outcomes
import Suite.Proofs.Launch.Places

/-!
# Classpaths in one text

The entries of a classpath are handed over in one text, with a separator between the texts that are
read of them and nothing to mark a separator that is part of an entry. The text can be cut into the
entries again if no entry holds the separator and all of them are texts. Both depend on the root of
the distributions and on the paths that a description gives: an id is a text and is cut at its
colons before it names a jar.

## Key results

- `Path.mem_bytes_join`: the bytes of a joined path
- `colon_mem_jarPath`, `isText_jarPath`: where the colons of an entry come from, and what is no text
- `Config.textsOf_intercalate_iff`, `Config.pathsOf_intercalate_iff`: what is cut out of the text
- `Config.standalone_classpath_splits`: when a classpath can be read off its text
-/

namespace Suite

/-! ### Bytes of paths -/

/-- The byte of the separator between entries. -/
def colon : UInt8 := 0x3a

/-- The separator between entries has a byte of its own. -/
private theorem isByteOf_colon : Text.IsByteOf colon ':' := ⟨by decide, by decide, by decide⟩

/-- A joined path has the bytes of its parts, and a separator between them. -/
theorem Path.mem_bytes_join {p q : Path} {b : UInt8} (h : b ∈ (p.join q).bytes) :
    b ∈ p.bytes ∨ b = slash ∨ b ∈ q.bytes := by
  unfold join at h
  split at h
  · exact .inr (.inr h)
  split at h
  · exact (List.mem_append.1 h).imp_right .inr
  · exact (List.mem_append.1 h).imp_right List.mem_cons.1

/-- A capital letter is followed by a small one, which is no colon. -/
private theorem eq_colon_of_toLower {x : Char} (h : x.toLower = ':') : x = ':' := by
  unfold Char.toLower at h
  split at h
  · next hcapital =>
    have hval : x.val + ('a'.val - 'A'.val) = ':'.val := congrArg Char.val h
    grind
  · exact h

/-- A text with small letters has the colons that it had with capital ones. -/
private theorem colon_mem_lowercase {s : String} (h : ':' ∈ (Text.lowercase s).toList) :
    ':' ∈ s.toList := by
  rw [Text.lowercase, String.toList_ofList, List.mem_map] at h
  obtain ⟨x, hx, hlower⟩ := h
  exact eq_colon_of_toLower hlower ▸ hx

/-- The name of a jar has no colon, however many the id has that it is named for. -/
private theorem colon_notMem_jarName (id : String) :
    ':' ∉ (Text.lowercase (Text.afterLast ':' id) ++ ".jar").toList := by
  intro h
  rw [String.toList_append, List.mem_append] at h
  rcases h with h | h
  · exact Text.notMem_afterLast ':' id (colon_mem_lowercase h)
  · exact absurd h (by decide)

/-- A colon in the path of a jar is one of the root or of the path that is given for the jar. -/
theorem colon_mem_jarPath {root : Path} {id : String} {d : Distribution}
    (h : colon ∈ (jarPath root id d).bytes) :
    colon ∈ root.bytes ∨ ∃ p, d.path = some p ∧ colon ∈ p.bytes := by
  unfold jarPath at h
  -- The path is joined of the root and either a path that is given or a name without colons.
  split at h
  · next p hp =>
    rcases Path.mem_bytes_join h with h | h | h
    · exact .inl h
    · exact absurd h (by decide)
    · exact .inr ⟨p, hp, h⟩
  · rcases Path.mem_bytes_join h with h | h | h
    · exact .inl h
    · exact absurd h (by decide)
    · exact absurd ((Path.mem_bytes_mk isByteOf_colon _).1 h) (colon_notMem_jarName id)

/-- The path of a jar is a text if the root is one, and the path that is given for the jar. -/
theorem isText_jarPath {root : Path} {d : Distribution} (hroot : root.IsText)
    (hpath : ∀ p ∈ d.path, p.IsText) (id : String) : (jarPath root id d).IsText := by
  unfold jarPath
  split
  · next p hp => exact hroot.join (hpath p hp)
  · exact hroot.below _

namespace Config

/-! ### Cutting the text -/

/-- A text as it is cut at its colons. -/
def textsOf (text : String) : List String := (Text.pieces ':' text.toList).map String.ofList

/-- A text as it is cut at its colons into paths. -/
def pathsOf (text : String) : List Path := (textsOf text).map fun s : String => ⟨s⟩

/-- The text of a classpath is cut into the texts of the entries exactly if no entry has a colon. -/
theorem textsOf_intercalate_iff {entries : List Path} (hne : entries ≠ []) :
    textsOf (":".intercalate (entries.map (·.text))) = entries.map (·.text) ↔
      ∀ e ∈ entries, colon ∉ e.bytes := by
  have htext : (":".intercalate (entries.map (·.text))).toList =
      [':'].intercalate (entries.map (·.text.toList)) := by
    rw [String.toList_intercalate, List.map_map]
    rfl
  -- Texts and their characters determine each other.
  have hread (parts : List (List Char)) :
      parts.map String.ofList = entries.map (·.text) ↔ parts = entries.map (·.text.toList) := by
    constructor
    · intro h
      simpa [Function.comp_def] using congrArg (List.map String.toList) h
    · rintro rfl
      simp [Function.comp_def]
  rw [textsOf, htext, hread, Text.pieces_intercalate_iff (by simpa using hne), List.forall_mem_map]
  simp only [Path.mem_text_iff isByteOf_colon]

/-- The text of a classpath is cut into the entries themselves exactly if no entry has a colon and
all of them are texts. -/
theorem pathsOf_intercalate_iff {entries : List Path} (hne : entries ≠ []) :
    pathsOf (":".intercalate (entries.map (·.text))) = entries ↔
      ∀ e ∈ entries, colon ∉ e.bytes ∧ e.IsText := by
  have hsplits := textsOf_intercalate_iff hne
  constructor
  · intro h
    -- What is cut out of a text is a text, and its texts are those of the entries.
    have htexts := congrArg (List.map Path.text) h
    simp only [pathsOf, List.map_map, Function.comp_def, Path.text_mk, List.map_id'] at htexts
    refine fun e he => ⟨hsplits.1 htexts e he, ?_⟩
    obtain ⟨s, -, rfl⟩ := List.mem_map.1 (h ▸ he)
    exact Path.isText_mk s
  · intro h
    rw [pathsOf, hsplits.2 fun e he => (h e he).1, List.map_map]
    exact (List.map_congr_left fun e he => Path.isText_iff.1 (h e he).2).trans (List.map_id _)

/-- Where a standalone launch comes to a command, all entries of its classpath are absolute. The
argument behind the mark for the classpath is cut into the texts of the entries at its colons,
exactly if no entry has a colon, and into the entries themselves, exactly if they are texts as well.
An entry is the jar of something reached, and has a colon only if the root of the distributions or
the path that is given for the jar has one; it is a text if these two are. -/
theorem standalone_classpath_splits (c : Config) (m : Host.Machine) (root : Path)
    (ids raw : List String) (mainClass : String) (command : CommandLine)
    (h : c.standalone .unix (c.classpath (distRoot m root)) ids mainClass raw = .ok command) :
    ∃ entries text, c.classpath (distRoot m root) ids = .ok entries ∧
      command.arguments = (c.component.launcher.vmFlags.divide raw).flags ++
        "-cp" :: text :: mainClass :: (c.component.launcher.vmFlags.divide raw).arguments ∧
      (∀ e ∈ entries, e.isAbsolute = true) ∧
      (textsOf text = entries.map (·.text) ↔ ∀ e ∈ entries, colon ∉ e.bytes) ∧
      (pathsOf text = entries ↔ ∀ e ∈ entries, colon ∉ e.bytes ∧ e.IsText) ∧
      ∀ e ∈ entries, ∃ id d, c.Reached ids id ∧ c.distribution? id = some d ∧
        d.native = false ∧ e = jarPath (distRoot m root) id d ∧
        (colon ∈ e.bytes →
          colon ∈ (distRoot m root).bytes ∨ ∃ p, d.path = some p ∧ colon ∈ p.bytes) ∧
        ((distRoot m root).IsText → (∀ p ∈ d.path, p.IsText) → e.IsText) := by
  cases hclasspath : c.classpath (distRoot m root) ids with
  | error e =>
    rw [standalone_of_error hclasspath] at h
    cases h
  | ok entries =>
    -- Neither an error nor an empty classpath comes to a command.
    by_cases hne : entries = []
    · rw [standalone_of_nil (hne ▸ hclasspath)] at h
      cases h
    · rw [standalone_of_ne_nil hclasspath hne] at h
      obtain rfl := Except.ok.inj h
      refine ⟨entries, _, rfl, by simp [OsFamily.pathSeparator], ?_, textsOf_intercalate_iff hne,
        pathsOf_intercalate_iff hne, fun e he => ?_⟩
      · exact isAbsolute_of_mem_classpath (isAbsolute_distRoot m root) hclasspath
      · obtain ⟨id, d, hreached, hd, hnative, rfl⟩ :=
          exists_jarPath_of_mem_classpath hclasspath he
        exact ⟨id, d, hreached, hd, hnative, rfl, colon_mem_jarPath,
          fun hroot hpath => isText_jarPath hroot hpath id⟩

/-- A jar that is named for an id with two colons, and one that the description gives a path. -/
def twoJars : Config where
  name := "s"
  distributions := Keyed.ofList [("a:b:X", {}), ("Y", { path := some ⟨"lib/y.jar"⟩ })]

/-- Both ids stand for a distribution that needs nothing else. -/
private theorem needs_twoJars :
    twoJars.needs "a:b:X" = [] ∧ twoJars.needs "s:Y" = [] ∧
      ["a:b:X", "s:Y"].find? twoJars.isUnresolved = none := by decide +kernel

/-- A machine with a current directory. -/
def inDirectory : Host.Machine := ⟨{ nodes := [] }, .empty, ["w"]⟩

/-- The text of two jars is cut into the two. -/
theorem standalone_classpath_splits_twoJars :
    let text := "/w/d/x.jar:/w/d/lib/y.jar"
    twoJars.standalone .unix (twoJars.classpath (distRoot inDirectory ⟨"d"⟩)) ["a:b:X", "s:Y"]
        "Main" ["-Xss2m", "p.bf"] = .ok ⟨.java, ["-Xss2m", "-cp", text, "Main", "p.bf"]⟩ ∧
    pathsOf text = [⟨"/w/d/x.jar"⟩, ⟨"/w/d/lib/y.jar"⟩] := by
  intro text
  obtain ⟨hx, hy, hresolved⟩ := needs_twoJars
  have hpreorder : twoJars.preorder ["a:b:X", "s:Y"] [] = ["a:b:X", "s:Y"] := by
    simp [preorder_cons_of_notMem, hx, hy]
  have hclasspath : twoJars.classpath (distRoot inDirectory ⟨"d"⟩) ["a:b:X", "s:Y"] =
      .ok [⟨"/w/d/x.jar"⟩, ⟨"/w/d/lib/y.jar"⟩] := by
    rw [classpath_eq, hpreorder, hresolved]
    exact congrArg Except.ok (by decide +kernel)
  have hok : twoJars.standalone .unix (twoJars.classpath (distRoot inDirectory ⟨"d"⟩))
      ["a:b:X", "s:Y"] "Main" ["-Xss2m", "p.bf"] =
        .ok ⟨.java, ["-Xss2m", "-cp", text, "Main", "p.bf"]⟩ := by
    rw [standalone_of_ne_nil hclasspath (List.cons_ne_nil _ _)]
    exact congrArg Except.ok (by decide +kernel)
  -- The theorem gives the entries and the text again; both are the ones computed.
  obtain ⟨entries, text', hentries, harguments, -, -, hsplits, -⟩ :=
    standalone_classpath_splits twoJars inDirectory ⟨"d"⟩ _ _ "Main" _ hok
  obtain rfl := Except.ok.inj (hentries.symm.trans hclasspath)
  have hflags : (twoJars.component.launcher.vmFlags.divide ["-Xss2m", "p.bf"]).flags =
      ["-Xss2m"] := by decide +kernel
  rw [hflags] at harguments
  obtain rfl : text = text' := (List.cons.inj (List.cons.inj (List.cons.inj harguments).2).2).1
  exact ⟨hok, hsplits.2 (by decide +kernel)⟩

/-- A root that is no text: there is no character for its second byte. -/
def foreignRoot : Path := ⟨⟨[Path.slash, 0xff, 0x64]⟩⟩

/-- The only entry has no colon and is lost in the text of the classpath. -/
theorem foreignRoot_is_lost :
    let entry : Path := ⟨⟨[Path.slash, 0xff, 0x64] ++ Text.encode "/x.jar"⟩⟩
    let text := "/\uFFFDd/x.jar"
    twoJars.classpath (distRoot inDirectory foreignRoot) ["a:b:X"] = .ok [entry] ∧
    twoJars.standalone .unix (twoJars.classpath (distRoot inDirectory foreignRoot)) ["a:b:X"]
      "Main" ["p.bf"] = .ok ⟨.java, ["-cp", text, "Main", "p.bf"]⟩ ∧
    colon ∉ entry.bytes ∧ pathsOf text = [⟨text⟩] ∧ pathsOf text ≠ [entry] := by
  intro entry text
  obtain ⟨hx, -, -⟩ := needs_twoJars
  have hpreorder : twoJars.preorder ["a:b:X"] [] = ["a:b:X"] := by
    simp [preorder_cons_of_notMem, hx]
  have hresolved : ["a:b:X"].find? twoJars.isUnresolved = none := by decide +kernel
  have hclasspath : twoJars.classpath (distRoot inDirectory foreignRoot) ["a:b:X"] =
      .ok [entry] := by
    rw [classpath_eq, hpreorder, hresolved]
    exact congrArg Except.ok (by decide +kernel)
  -- The byte is read as the sign for what cannot be read, which has other bytes.
  refine ⟨hclasspath, ?_, by decide +kernel, by decide +kernel, by decide +kernel⟩
  rw [standalone_of_ne_nil hclasspath (List.cons_ne_nil _ _)]
  exact congrArg Except.ok (by decide +kernel)

end Config

end Suite
