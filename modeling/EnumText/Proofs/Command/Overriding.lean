import EnumText.Proofs.Command.Succeeding
import EnumText.Proofs.Config.Overriding

/-!
# Options that override the configuration

An option of the command line is put in place of a configured value, but only after the configured
one is read and checked. So what is configured makes no difference where an option replaces it, as
long as it could be used; otherwise the run fails for a value that would not have counted.

* `Package.load_sameBut`: packages do not depend on files that are no source files.
* `GenerateOptions.plan_sameBut`: neither does what is planned depend on a value that is replaced.
* `Command.run_overridden`: two runs with different contents of a configuration file.
* `Command.run_kebabCards`: a run that is refused for a casing that it replaces.
-/

namespace EnumText

open FileTree (SameBut)

namespace Package

variable {t t' : FileTree} {place : FileTree.Place}

theorem discover_sameBut (same : SameBut place t t') (directory : Path) :
    discover t' directory = discover t directory := by
  have isFile_eq (here : FileTree.Place) : isFile (t'.node? here) = isFile (t.node? here) := by
    by_cases there : here = place
    · obtain ⟨content, stands⟩ := same.file
      obtain ⟨content', stands'⟩ := same.file'
      rw [there, stands, stands']
      rfl
    · rw [same.elsewhere here there]
  simp only [discover, same.isDirectory?, same.locate, same.names, isFile_eq]

/-- The files of a package have names of source files. -/
theorem exists_name_of_mem_discover {directory : Path} {paths : List Path}
    (discovered : discover t directory = .ok paths) {file : Path} (mem : file ∈ paths) :
    ∃ name, isSourceName name = true ∧ file.parts = directory.parts ++ [name] := by
  obtain ⟨isDirectory, here, located⟩ :=
    isDirectory?_of_discover discovered (List.ne_nil_of_mem mem)
  cases (discover_eq isDirectory located).symm.trans discovered
  obtain ⟨name, kept, rfl⟩ := List.mem_map.1 mem
  have both := (List.mem_filter.1 kept).2
  exact ⟨name, (Bool.and_eq_true_iff.1 both).1, rfl⟩

/-- A file that is no source file by its name does not count for a package. -/
theorem load_sameBut {front : FileTree.Place} {name : Text} (same : SameBut (front ++ [name]) t t')
    (apart : isSourceName name = false) (p : Path) : load t' p = load t p := by
  have chosen : directoryOf t' p = directoryOf t p := by
    rw [directoryOf, directoryOf, same.isDirectory?]
  have read {directory : Path} {paths : List Path}
      (discovered : discover t directory = .ok paths) : readFiles t' paths = readFiles t paths := by
    refine readFiles_congr fun file mem => ?_
    obtain ⟨other, isSource, parts⟩ := exists_name_of_mem_discover discovered mem
    have elsewhere : t.locate file ≠ .ok (front ++ [name]) := by
      intro located
      have down : other ≠ text ".." := by
        rintro rfl
        exact absurd isSource (by decide)
      obtain ⟨here, concat⟩ := FileTree.exists_eq_concat_of_locate located parts down
      obtain ⟨-, rfl⟩ : front = here ∧ name = other := by simpa using concat
      rw [apart] at isSource
      cases isSource
    rw [readFile, readFile, same.read_of_apart elsewhere]
  rw [load, load, chosen]
  refine Report.bind_congr fun directory _ => ?_
  rw [same.exists?, discover_sameBut same]
  refine Report.bind_congr fun standing _ => ?_
  split
  · rw [Report.throw_bind, Report.throw_bind]
  · refine Report.bind_congr fun paths discovered => ?_
    rw [read (mapError_eq_ok_iff.1 discovered)]

end Package

namespace GenerateOptions

variable {o : GenerateOptions}

/-- Options give a value that is put in place of a setting of the configuration. -/
def Give (o : GenerateOptions) : Config.Item → Prop
  | .casing => o.format ≠ none
  | .marshalField => o.marshalField ≠ none
  | .zero => o.zero ≠ none
  | .output => o.output ≠ none

theorem give_overrides {item : Config.Item} {casing : Option Casing} (given : o.Give item)
    (known : o.casing? = .ok casing) : (o.overrides casing).Give item := by
  cases item with
  | casing =>
    rintro rfl
    have named := casing?_eq_ok_iff.1 known
    cases format : o.format with
    | none => exact given format
    | some format' => simp [format] at named
  | marshalField => exact given
  | zero => exact given
  | output =>
    rw [Config.Overrides.Give, overrides, ne_eq, Option.map_eq_none_iff]
    exact given

/-- What is planned does not depend on a valid value that an option replaces. -/
theorem plan_sameBut [SettingReader] {t t' : FileTree} {item : Config.Item} {front : FileTree.Place}
    {name content content' : Text} {a b : Table} (given : o.Give item)
    (same : SameBut (front ++ [name]) t t')
    (stands : t.node? (front ++ [name]) = some (.file content))
    (stands' : t'.node? (front ++ [name]) = some (.file content'))
    (isConfig : name = Config.standaloneName ∨ name = Config.sharedName)
    (known : Config.settingsOf? name content = some a)
    (known' : Config.settingsOf? name content' = some b)
    (alike : ∀ key ∉ item.keys, a.get? key = b.get? key) (first : item.Valid a)
    (second : item.Valid b) : o.plan t' = o.plan t := by
  have apart : Package.isSourceName name = false := by
    rcases isConfig with rfl | rfl <;> decide
  unfold plan
  split
  · rfl
  · simp only [same.exists?, same.outputFile, Package.load_sameBut same apart]
    refine Report.bind_congr fun found _ => ?_
    split
    · rw [Report.throw_bind, Report.throw_bind]
    · refine Report.bind_congr fun pkg _ => ?_
      obtain ⟨notes, outcome⟩ := Config.load_without same stands stands' known known' alike first
        second pkg.directory
      refine Report.bind_congr_of_map (Config.without item) ?_ ?_ fun c c' view => ?_
      · rw [Report.notes_mapError, Report.notes_mapError, notes]
      · rw [Report.outcome_mapError, Report.outcome_mapError, map_mapError, map_mapError, outcome]
      · refine Report.bind_congr fun casing known => ?_
        have given := give_overrides given known
        rw [← Config.merge_without given, view, Config.merge_without given]

/-- There is no plan with a value that is not valid in the file that configures the package. -/
theorem valid_of_plan [SettingReader] {t : FileTree} {item : Config.Item} {front : FileTree.Place}
    {name content : Text} {a : Table} {answer : Path × Text} {pkg : Package} {file : Path}
    (stands : t.node? (front ++ [name]) = some (.file content))
    (known : Config.settingsOf? name content = some a)
    (loaded : (Package.load t (Path.ofText o.path)).outcome = .ok pkg)
    (found : Config.find t pkg.directory = .ok (some file))
    (located : t.locate file = .ok (front ++ [name]))
    (planned : (o.plan t).outcome = .ok (some answer)) : item.Valid a := by
  obtain ⟨_, _, config, _, findings⟩ := plan_eq_some_iff.1 planned
  cases loaded.symm.trans findings.loaded
  have configured := findings.configured
  obtain ⟨other, isConfig, rfl⟩ := Config.name_of_find found
  obtain ⟨here, concat⟩ :=
    FileTree.exists_eq_concat_of_locate located rfl (Config.ne_up_of_isConfig isConfig)
  obtain ⟨rfl, rfl⟩ : front = here ∧ name = other := by simpa using concat
  have own := Config.settingsIn_of_settingsOf? known (FileTree.read_of_locate located stands)
    (List.getLast?_concat : (Config.pathIn pkg.directory name).parts.getLast? = some name)
  rw [Config.load_of_find found, Config.outcome_loadFile own, map_eq_ok_iff] at configured
  obtain ⟨c, meaning, -⟩ := configured
  exact Config.valid_of_ofTable? meaning item

/-- A configuration that cannot be loaded ends the work on a package. -/
theorem plan_of_config_error [SettingReader] {t : FileTree} {pkg : Package} {e : ConfigError}
    (some : o.typeNames ≠ [])
    (standing : t.exists? (Path.ofText o.path) = .ok true)
    (loaded : (Package.load t (Path.ofText o.path)).outcome = .ok pkg)
    (failed : (Config.load t pkg.directory).outcome = .error e) :
    (o.plan t).outcome = .error (Halt.ofConfigError e) := by
  unfold plan
  split
  · next none => exact absurd none some
  · rw [Report.outcome_bind, bind_eq_error_iff]
    refine .inr ⟨true, by rw [standing]; rfl, ?_⟩
    rw [if_neg (by simp), Report.outcome_bind, Report.outcome_mapError, loaded]
    refine bind_eq_error_iff.2 (.inr ⟨pkg, rfl, ?_⟩)
    rw [Report.outcome_bind, Report.outcome_mapError, failed]
    rfl

end GenerateOptions

/-- Two trees after a change that is the same: none, or a file that is given its content. -/
def FileTree.ChangedAlike (before before' after after' : FileTree) : Prop :=
  after = before ∧ after' = before' ∨
    ∃ here content, after = before.put here (.file content) ∧
      after' = before'.put here (.file content)

theorem FileTree.unchanged_alike {t t' : FileTree} : ChangedAlike t t' t t' := .inl ⟨rfl, rfl⟩

theorem FileTree.put_alike {t t' : FileTree} (here : Place) (content : Text) :
    ChangedAlike t t' (t.put here (.file content)) (t'.put here (.file content)) :=
  .inr ⟨here, content, rfl, rfl⟩

/-- Two runs end alike with the same messages, and do the same to the trees that they begin with. -/
structure Run.Alike (t t' : FileTree) (r r' : Run) : Prop where
  ending : r.ending = r'.ending
  output : r.output = r'.output
  errors : r.errors = r'.errors
  trees : FileTree.ChangedAlike t t' r.tree r'.tree

namespace Command

section Running

variable [Platform] {t t' : FileTree} {place : FileTree.Place}

theorem fail_alike {after after' : FileTree} (trees : FileTree.ChangedAlike t t' after after')
    (errors reason : Text) :
    Run.Alike t t' (fail after errors reason) (fail after' errors reason) :=
  ⟨rfl, rfl, rfl, trees⟩

theorem finish_alike {after after' : FileTree} (trees : FileTree.ChangedAlike t t' after after')
    (errors : Text) (outs : List Text) :
    Run.Alike t t' (finish after errors outs) (finish after' errors outs) := by
  induction outs with
  | nil => exact ⟨rfl, rfl, rfl, trees⟩
  | cons out others ih =>
    rw [finish, finish]
    split
    · exact ⟨rfl, rfl, rfl, trees⟩
    · exact ⟨ih.ending, congrArg (_ ++ ·) ih.output, ih.errors, ih.trees⟩

theorem save_sameBut (same : SameBut place t t') (least : Level) (errors : Text) (file : Path)
    (code : Text) :
    Run.Alike t t' (save t least errors file code) (save t' least errors file code) := by
  rw [save, save, same.placeFor]
  split
  · exact ⟨rfl, rfl, rfl, FileTree.unchanged_alike⟩
  · exact fail_alike FileTree.unchanged_alike _ _
  · split
    · exact fail_alike FileTree.unchanged_alike _ _
    · exact ⟨rfl, rfl, rfl, FileTree.put_alike _ _⟩
    · exact fail_alike (FileTree.put_alike _ _) _ _
    · exact finish_alike (FileTree.put_alike _ _) _ _

theorem generate_sameBut {o : GenerateOptions} (same : SameBut place t t')
    (planned : o.plan t' = o.plan t) (level : Option Text) :
    Run.Alike t t' (generate o level t) (generate o level t') := by
  unfold generate
  rw [planned]
  dsimp only
  split
  · exact ⟨rfl, rfl, rfl, FileTree.unchanged_alike⟩
  · exact fail_alike FileTree.unchanged_alike _ _
  · exact ⟨rfl, rfl, rfl, FileTree.unchanged_alike⟩
  · exact finish_alike FileTree.unchanged_alike _ _
  · split
    · exact finish_alike FileTree.unchanged_alike _ _
    · exact save_sameBut same _ _ _ _

theorem run_of_no_plan {arguments : List Text} {level : Option Text} {o : GenerateOptions}
    (parsed : Platform.parse? arguments = some (.generate o))
    (none : ∀ answer, (o.plan t).outcome ≠ .ok (some answer)) :
    (run arguments level t).ending.exitCode ≠ 0 ∧ (run arguments level t).tree = t := by
  rcases run_generate t level parsed with
    failed | ⟨file, code, errors, planned, -⟩
  · exact failed
  · exact absurd planned (none _)

/-- Where an option replaces a setting of the configuration, two contents of a configuration file
that differ in this setting only make no difference, as long as the setting is valid in both. If it
is not valid in the file that configures the package, the run fails nevertheless, and changes no
file. -/
theorem run_overridden {front : FileTree.Place} {name content content' : Text} {item : Config.Item}
    {a b : Table} {arguments : List Text} {level : Option Text} {o : GenerateOptions}
    (parsed : Platform.parse? arguments = some (.generate o)) (given : o.Give item)
    (free : t.node? (front ++ [name]) ≠ some .directory)
    (isConfig : name = Config.standaloneName ∨ name = Config.sharedName)
    (known : Config.settingsOf? name content = some a)
    (known' : Config.settingsOf? name content' = some b)
    (alike : ∀ key ∉ item.keys, a.get? key = b.get? key) :
    let one := t.put (front ++ [name]) (.file content)
    let two := t.put (front ++ [name]) (.file content')
    (item.Valid a → item.Valid b →
      Run.Alike one two (run arguments level one) (run arguments level two)) ∧
    (¬ item.Valid a → ∀ pkg file, (Package.load one (Path.ofText o.path)).outcome = .ok pkg →
      Config.find one pkg.directory = .ok (some file) →
      one.locate file = .ok (front ++ [name]) →
      (run arguments level one).ending.exitCode ≠ 0 ∧ (run arguments level one).tree = one) := by
  intro one two
  have inside := FileTree.ne_nil_of_free free
  have same : SameBut (front ++ [name]) one two := FileTree.sameBut_put free content content'
  have stands : one.node? (front ++ [name]) = some (.file content) := by
    rw [FileTree.node?_put_of_ne_nil inside, if_pos rfl]
  have stands' : two.node? (front ++ [name]) = some (.file content') := by
    rw [FileTree.node?_put_of_ne_nil inside, if_pos rfl]
  constructor
  · intro first second
    have planned : o.plan two = o.plan one :=
      GenerateOptions.plan_sameBut given same stands stands' isConfig known known' alike first
        second
    unfold run
    rw [parsed]
    dsimp only
    split
    · exact ⟨rfl, rfl, rfl, FileTree.unchanged_alike⟩
    · exact generate_sameBut same planned level
  · intro invalid pkg file loaded found located
    refine run_of_no_plan parsed fun answer planned => invalid ?_
    exact GenerateOptions.valid_of_plan stands known loaded found located planned

end Running

/-! ## A casing that is given -/

/-- The entries of a table whose values are texts. -/
def textsOf? (settings : Table) : Option (List (Text × Text)) :=
  settings.mapM fun entry =>
    match entry.2 with
    | .text value => some (entry.1, value)
    | _ => none

theorem eq_of_textsOf? {settings : Table} {entries : List (Text × Text)}
    (h : textsOf? settings = some entries) :
    settings = entries.map fun entry => (entry.1, .text entry.2) := by
  induction settings generalizing entries with
  | nil =>
    cases h
    rfl
  | cons entry rest ih =>
    obtain ⟨key, value⟩ := entry
    cases value with
    | text value =>
      simp only [textsOf?, List.mapM_cons, Option.bind_eq_bind, Option.bind_some,
        Option.bind_eq_some_iff, Option.pure_def] at h
      obtain ⟨others, known, same⟩ := h
      cases same
      rw [ih known]
      rfl
    | _ => simp [textsOf?] at h

/-- The settings of a configuration with a casing and an output. -/
def settings (casing : Text) : Table :=
  [(text "format", .text casing), (text "output", .text (text "gen.go"))]

theorem settingsOf?_configuration {casing : Text}
    (known : (Config.settingsOf? Config.standaloneName (configuration casing)).bind textsOf? =
      some [(text "format", casing), (text "output", text "gen.go")]) :
    Config.settingsOf? Config.standaloneName (configuration casing) = some (settings casing) := by
  obtain ⟨found, parsed, texts⟩ := Option.bind_eq_some_iff.1 known
  rw [parsed, eq_of_textsOf? texts]
  rfl

theorem settingsOf?_camel :
    Config.settingsOf? Config.standaloneName (configuration (text "camelCase")) =
      some (settings (text "camelCase")) := settingsOf?_configuration (by decide +kernel)

theorem settingsOf?_kebab :
    Config.settingsOf? Config.standaloneName (configuration (text "kebab-case")) =
      some (settings (text "kebab-case")) := settingsOf?_configuration (by decide +kernel)

theorem give_snakeOptions : snakeOptions.Give .casing := Option.some_ne_none _

theorem get?_settings {casing casing' key : Text} (apart : key ∉ Config.Item.casing.keys) :
    (settings casing).get? key = (settings casing').get? key := by
  have other : (key == text "format") = false := by
    simpa [Config.Item.keys] using apart
  simp only [settings, Table.get?, List.lookup_cons, other]

/-- The package with the configuration of a casing that does not exist. -/
def kebabCards : FileTree := configuredCards (text "kebab-case")

theorem load_kebabCards :
    (Package.load kebabCards ⟨.relative, [text "p"]⟩).outcome = .ok camelPackage := by
  have same : SameBut ([text "p"] ++ [Config.standaloneName]) camelCards kebabCards :=
    FileTree.sameBut_put (by decide +kernel) _ _
  rw [Package.load_sameBut same (by decide), load_camelCards]

theorem run_overridden_configuredCards :
    Run.Alike camelCards (configuredCards (text "Title Case")) (run snakeArguments none camelCards)
      (run snakeArguments none (configuredCards (text "Title Case"))) ∧
    (run snakeArguments none kebabCards).ending.exitCode ≠ 0 := by
  have free : bareCards.node? ([text "p"] ++ [Config.standaloneName]) ≠ some .directory := by
    decide +kernel
  constructor
  · exact (run_overridden parse?_snakeArguments give_snakeOptions free (.inl rfl)
      settingsOf?_camel (settingsOf?_configuration (by decide +kernel)) fun _ => get?_settings).1
        ⟨.camel, rfl⟩ ⟨.title, rfl⟩
  · refine ((run_overridden parse?_snakeArguments give_snakeOptions free (.inl rfl)
      settingsOf?_kebab settingsOf?_camel fun _ => get?_settings).2 ?_ camelPackage
        ⟨.relative, [text "p", text "enumr.toml"]⟩ load_kebabCards
        (eq_ok_of_toOption (by decide +kernel)) (eq_ok_of_toOption (by decide +kernel))).1
    rintro ⟨casing, valid⟩
    cases valid

/-- A run that is given a casing is refused for the casing that it replaces. -/
theorem run_kebabCards :
    Config.settingsOf? Config.standaloneName (configuration (text "camelCase")) =
      some (settings (text "camelCase")) ∧
    Config.settingsOf? Config.standaloneName (configuration (text "kebab-case")) =
      some (settings (text "kebab-case")) ∧
    snakeOptions.Give .casing ∧
    (run snakeArguments none camelCards).ending = .done ∧
    (run snakeArguments none kebabCards).ending =
      .refused (some (text "unknown casing format 'kebab-case'")) := by
  have failed : (Config.load kebabCards ⟨.relative, [text "p"]⟩).outcome =
      .error (.unknownCasing (text "'kebab-case'")) := by decide +kernel
  have planned : (snakeOptions.plan kebabCards).outcome =
      .error (Halt.ofConfigError (.unknownCasing (text "'kebab-case'"))) :=
    GenerateOptions.plan_of_config_error (by decide +kernel)
      (eq_ok_of_toOption (by decide +kernel)) load_kebabCards failed
  have possible : impossiblePath? snakeOptions = none := by decide +kernel
  refine ⟨settingsOf?_camel, settingsOf?_kebab, give_snakeOptions, ending_camelCards, ?_⟩
  simp only [run, parse?_snakeArguments, possible, generate, planned]
  decide +kernel

end Command

end EnumText
