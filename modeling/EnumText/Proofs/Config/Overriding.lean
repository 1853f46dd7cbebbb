import EnumText.Proofs.Config.Loading
import EnumText.Proofs.FileTree.Rewriting

/-!
# Settings that are overridden

A setting of a configuration does not count where another value is put in its place, but its value
is read and checked with the others before. So two configuration files that differ in that setting
only come to the same if its value is valid in both.

* `Config.Item`: the settings that can be overridden, with `Config.Item.Valid` for their values.
* `Config.without`: a configuration apart from one setting; `Config.merge_without` says that no more
  of it counts where that setting is overridden.
* `Config.ofTable?_without`: tables of settings that differ in one.
* `Config.load_without`: a configuration file with other contents.
-/

namespace EnumText.Config

/-! ## Single settings -/

/-- A setting that can be overridden. -/
inductive Item where
  | casing
  | marshalField
  | zero
  | output
deriving DecidableEq, Inhabited

namespace Item

/-- The keys that a setting can have in a table. -/
def keys : Item → List Text
  | .casing => [text "format"]
  | .marshalField => [text "marshal-field", text "marshal_field"]
  | .zero => [text "zero"]
  | .output => [text "output"]

theorem not_mem_keys {item other : Item} (apart : item ≠ other) :
    ∀ key ∈ other.keys, key ∉ item.keys := by
  cases item <;> cases other <;> first | exact absurd rfl apart | decide

/-- The value of a setting in a table is one that it can have. -/
def Valid [SettingReader] (settings : Table) : Item → Prop
  | .casing => ∃ casing, casingOf ((settings.get? (text "format")).getD .null) = .ok casing
  | .marshalField => ∃ field, fieldOf settings = .ok field
  | .zero => ∃ zero, zeroOf settings = .ok zero
  | .output => ∃ output, outputOf settings = .ok output

end Item

/-- A configuration with one setting taken back to its default. -/
def without (item : Item) (c : Config) : Config :=
  match item with
  | .casing => { c with casing := default.casing }
  | .marshalField => { c with marshalField := default.marshalField }
  | .zero => { c with zero := default.zero }
  | .output => { c with output := default.output }

/-- Overrides have a value for a setting. -/
def Overrides.Give (o : Overrides) : Item → Prop
  | .casing => o.casing ≠ none
  | .marshalField => o.marshalField ≠ none
  | .zero => o.zero ≠ none
  | .output => o.output ≠ none

theorem merge_without {item : Item} {o : Overrides} (given : o.Give item) (c : Config) :
    (c.without item).merge o = c.merge o := by
  obtain ⟨casing, field, zero, output⟩ := o
  cases item with
  | casing => cases casing <;> first | rfl | exact absurd rfl given
  | marshalField => cases field <;> first | rfl | exact absurd rfl given
  | zero => cases zero <;> first | rfl | exact absurd rfl given
  | output => cases output <;> first | rfl | exact absurd rfl given

theorem relativeTo_without (item : Item) (directory : Path) (c : Config) :
    (c.relativeTo directory).without item = (c.without item).relativeTo directory := by
  rw [relativeTo_eq, relativeTo_eq]
  cases item <;> rfl

/-! ## Tables of settings -/

theorem read_congr {α : Type} {a b : Table} {keys : List Text} {missing : α}
    {meaning : Setting → Except SettingFault α} (same : ∀ key ∈ keys, a.get? key = b.get? key) :
    read a keys missing meaning = read b keys missing meaning := by
  have first : (keys.find? fun key => (a.get? key).isSome) =
      keys.find? fun key => (b.get? key).isSome := by
    rw [← List.head?_filter, ← List.head?_filter,
      List.filter_congr fun key mem => by rw [same key mem]]
  rw [read, read, first]
  split
  · rfl
  · next key found => rw [same key (List.mem_of_find?_eq_some found)]

/-- A table that means a configuration has valid settings. -/
theorem valid_of_ofTable? [SettingReader] {t : Table} {c : Config} (h : ofTable? t = .ok c)
    (item : Item) : item.Valid t := by
  obtain ⟨casing, field, zero, output⟩ := ofTable?_eq_ok_iff.1 h
  cases item with
  | casing => exact ⟨_, casing⟩
  | marshalField => exact ⟨_, field⟩
  | zero => exact ⟨_, zero⟩
  | output => exact ⟨_, output⟩

/-- A configuration put together from what is read for its settings. -/
def assemble (casing : Except ConfigError Casing)
    (field : Except (Text × SettingFault) (Option Text)) (zero : Except (Text × SettingFault) Bool)
    (output : Except (Text × SettingFault) (Option Text)) : Except ConfigError Config := do
  let casing ← casing
  match field, zero, output with
  | .ok field, .ok zero, .ok output => return ⟨casing, field, zero, output⟩
  | _, _, _ => throw (.invalid (faultOf field ++ faultOf zero ++ faultOf output))

theorem ofTable?_eq_assemble [SettingReader] (t : Table) :
    ofTable? t = assemble (casingOf ((t.get? (text "format")).getD .null)) (fieldOf t) (zeroOf t)
      (outputOf t) := rfl

/-- Tables that differ in one setting, which is valid in both, mean the same apart from it. -/
theorem ofTable?_without [SettingReader] {item : Item} {a b : Table}
    (same : ∀ key ∉ item.keys, a.get? key = b.get? key) (first : item.Valid a)
    (second : item.Valid b) :
    (ofTable? a).map (without item) = (ofTable? b).map (without item) := by
  have others (other : Item) (apart : item ≠ other) :
      ∀ key ∈ other.keys, a.get? key = b.get? key :=
    fun key mem => same key (Item.not_mem_keys apart key mem)
  have casing (apart : item ≠ .casing) : a.get? (text "format") = b.get? (text "format") :=
    others .casing apart _ List.mem_cons_self
  have field (apart : item ≠ .marshalField) : fieldOf a = fieldOf b :=
    read_congr (others .marshalField apart)
  have zero (apart : item ≠ .zero) : zeroOf a = zeroOf b := read_congr (others .zero apart)
  have output (apart : item ≠ .output) : outputOf a = outputOf b :=
    read_congr (others .output apart)
  rw [ofTable?_eq_assemble, ofTable?_eq_assemble]
  cases item with
  | casing =>
    obtain ⟨_, known⟩ := first
    obtain ⟨_, known'⟩ := second
    rw [known, known', field (by decide), zero (by decide), output (by decide)]
    cases fieldOf b <;> cases zeroOf b <;> cases outputOf b <;> rfl
  | marshalField =>
    obtain ⟨_, known⟩ := first
    obtain ⟨_, known'⟩ := second
    rw [known, known', casing (by decide), zero (by decide), output (by decide)]
    cases casingOf _ <;> cases zeroOf b <;> cases outputOf b <;> rfl
  | zero =>
    obtain ⟨_, known⟩ := first
    obtain ⟨_, known'⟩ := second
    rw [known, known', casing (by decide), field (by decide), output (by decide)]
    cases casingOf _ <;> cases fieldOf b <;> cases outputOf b <;> rfl
  | output =>
    obtain ⟨_, known⟩ := first
    obtain ⟨_, known'⟩ := second
    rw [known, known', casing (by decide), field (by decide), zero (by decide)]
    cases casingOf _ <;> cases fieldOf b <;> cases zeroOf b <;> rfl

/-! ## Configuration files -/

/-- The table of this tool's settings in the content of a configuration file with a name, if it is
well formed. -/
def settingsOf? (name content : Text) : Option Table :=
  if content.isScalar then do
    let table ← Toml.parse? content
    if name = sharedName then
      match table.get? (text "tool") with
      | some (.table tools) =>
        match Table.get? tools toolName with
        | some (.table settings) => some settings
        | _ => none
      | _ => none
    else some table
  else none

/-- The path of a file in a directory. -/
def pathIn (directory : Path) (name : Text) : Path :=
  ⟨directory.start, directory.parts ++ [name]⟩

variable {name content : Text} {settings : Table} {file : Path}

theorem readTable_of_settingsOf? (known : settingsOf? name content = some settings)
    (read : t.read file = .ok content) : ∃ table, readTable t file = .ok table ∧
      (name ≠ sharedName → table = settings) ∧
      (name = sharedName → ∃ tools, toolsOf table = .table tools ∧
        Table.get? tools toolName = some (.table settings)) := by
  unfold settingsOf? at known
  split at known
  case isFalse => cases known
  next scalar =>
  obtain ⟨table, parsed, known⟩ := Option.bind_eq_some_iff.1 known
  refine ⟨table, ?_, ?_, ?_⟩
  · refine bind_eq_ok_iff.2 ⟨content, mapError_eq_ok_iff.2 read, ?_⟩
    rw [if_pos scalar, parsed]
    rfl
  · intro standalone
    rw [if_neg standalone] at known
    exact Option.some.inj known
  · intro shared
    rw [if_pos shared] at known
    split at known
    · next tools found =>
      split at known
      · next own inside =>
        cases known
        exact ⟨tools, by rw [toolsOf, found]; rfl, inside⟩
      · cases known
    · cases known

theorem settingsIn_of_settingsOf? (known : settingsOf? name content = some settings)
    (read : t.read file = .ok content) (last : file.parts.getLast? = some name) :
    settingsIn t file = .ok (.table settings) := by
  obtain ⟨table, parsed, standalone, shared⟩ := readTable_of_settingsOf? known read
  refine bind_eq_ok_iff.2 ⟨table, parsed, ?_⟩
  by_cases isShared : name = sharedName
  · obtain ⟨tools, found, inside⟩ := shared isShared
    rw [last, isShared, if_pos rfl, found]
    simp only [inside]
    rfl
  · rw [last, if_neg (by simpa using isShared), standalone isShared]
    rfl

theorem join_ofText_standaloneName (directory : Path) :
    directory.join (Path.ofText standaloneName) = pathIn directory standaloneName := by
  have alone : Path.ofText standaloneName = ⟨.relative, [standaloneName]⟩ := by decide
  rw [alone]
  rfl

theorem join_ofText_sharedName (directory : Path) :
    directory.join (Path.ofText sharedName) = pathIn directory sharedName := by
  have alone : Path.ofText sharedName = ⟨.relative, [sharedName]⟩ := by decide
  rw [alone]
  rfl

/-- The configuration file of a directory has one of two names. -/
theorem name_of_find (h : find t directory = .ok (some file)) :
    ∃ name, (name = standaloneName ∨ name = sharedName) ∧ file = pathIn directory name := by
  simp only [find, join_ofText_standaloneName, join_ofText_sharedName, bind_eq_ok_iff] at h
  obtain ⟨standalone, -, h⟩ := h
  split at h
  · cases h
    exact ⟨_, .inl rfl, rfl⟩
  · obtain ⟨shared, -, h⟩ := bind_eq_ok_iff.1 h
    split at h
    · obtain ⟨table, -, h⟩ := bind_eq_ok_iff.1 h
      obtain ⟨mentioned, -, h⟩ := bind_eq_ok_iff.1 h
      have known := Except.ok.inj h
      split at known
      · cases known
        exact ⟨_, .inr rfl, rfl⟩
      · cases known
    · cases h

theorem ne_up_of_isConfig (isConfig : name = standaloneName ∨ name = sharedName) :
    name ≠ text ".." := by
  rcases isConfig with rfl | rfl <;> decide

/-- The configuration in a file. -/
def loadFile [SettingReader] (t : FileTree) (file : Path) : Report ConfigError Config := do
  let settings ← Report.ofExcept (settingsIn t file)
  Report.note (.configuration file)
  let config ← Report.ofExcept (ofSetting? settings)
  return config.relativeTo file.parent

theorem load_of_find [SettingReader] (found : find t directory = .ok (some file)) :
    load t directory = loadFile t file := by
  rw [load, found]
  rfl

theorem outcome_loadFile [SettingReader] {own : Setting} (read : settingsIn t file = .ok own) :
    (loadFile t file).outcome = (ofSetting? own).map (relativeTo file.parent) := by
  simp only [loadFile, read, Report.outcome_bind, Report.outcome_ofExcept, Report.outcome_note,
    Report.outcome_pure]
  change (ofSetting? own >>= fun c => .ok (c.relativeTo file.parent)) = _
  cases ofSetting? own <;> rfl

theorem notes_loadFile [SettingReader] {own : Setting} (read : settingsIn t file = .ok own) :
    (loadFile t file).notes = [.configuration file] := by
  rw [loadFile, read, Report.notes_bind_of_ok (Report.outcome_ofExcept _),
    Report.notes_bind_of_ok (Report.outcome_note _), Report.notes_bind_pure]
  rfl

theorem map_relativeTo_without (item : Item) (directory : Path) (x : Except ConfigError Config) :
    (x.map (relativeTo directory)).map (without item) =
      (x.map (without item)).map (relativeTo directory) := by
  cases x with
  | error e => rfl
  | ok c => exact congrArg _ (relativeTo_without item directory c)

section Rewriting

variable {t' : FileTree} {front : FileTree.Place} {content' : Text} {a b : Table} {item : Item}
  (same : FileTree.SameBut (front ++ [name]) t t')
  (stands : t.node? (front ++ [name]) = some (.file content))
  (stands' : t'.node? (front ++ [name]) = some (.file content'))
  (known : settingsOf? name content = some a) (known' : settingsOf? name content' = some b)

include same stands stands' known known'

/-- In both trees the same file is the configuration file of a directory. -/
theorem find_sameBut : find t' directory = find t directory := by
  simp only [find, same.exists?]
  rw [join_ofText_standaloneName, join_ofText_sharedName]
  by_cases there : t.locate (pathIn directory sharedName) = .ok (front ++ [name])
  · obtain ⟨here, concat⟩ :=
      FileTree.exists_eq_concat_of_locate there rfl (ne_up_of_isConfig (.inr rfl))
    obtain ⟨rfl, rfl⟩ : front = here ∧ name = sharedName := by simpa using concat
    have there' := (same.locate (pathIn directory sharedName)).trans there
    obtain ⟨table, read, -, shared⟩ :=
      readTable_of_settingsOf? known (FileTree.read_of_locate there stands)
    obtain ⟨table', read', -, shared'⟩ :=
      readTable_of_settingsOf? known' (FileTree.read_of_locate there' stands')
    obtain ⟨tools, found, inside⟩ := shared rfl
    obtain ⟨tools', found', inside'⟩ := shared' rfl
    simp only [read, read', bind, Except.bind, found, found', mentions, inside, inside',
      Option.isSome_some]
  · simp only [readTable, same.read_of_apart there]

theorem settingsIn_sameBut {other : Text} (isConfig : other = standaloneName ∨ other = sharedName) :
    settingsIn t' (pathIn directory other) = settingsIn t (pathIn directory other) ∨
      settingsIn t (pathIn directory other) = .ok (.table a) ∧
        settingsIn t' (pathIn directory other) = .ok (.table b) := by
  by_cases there : t.locate (pathIn directory other) = .ok (front ++ [name])
  · obtain ⟨here, concat⟩ :=
      FileTree.exists_eq_concat_of_locate there rfl (ne_up_of_isConfig isConfig)
    obtain ⟨rfl, rfl⟩ : front = here ∧ name = other := by simpa using concat
    have there' := (same.locate (pathIn directory name)).trans there
    have last : (pathIn directory name).parts.getLast? = some name := List.getLast?_concat
    exact .inr ⟨settingsIn_of_settingsOf? known (FileTree.read_of_locate there stands) last,
      settingsIn_of_settingsOf? known' (FileTree.read_of_locate there' stands') last⟩
  · left
    simp only [settingsIn, readTable, same.read_of_apart there]

/-- With other settings in its file, a directory has the same configuration apart from the setting
that differs, if it is valid in both. -/
theorem load_without [SettingReader] (alike : ∀ key ∉ item.keys, a.get? key = b.get? key)
    (first : item.Valid a) (second : item.Valid b) (directory : Path) :
    (load t' directory).notes = (load t directory).notes ∧
      (load t' directory).outcome.map (without item) =
        (load t directory).outcome.map (without item) := by
  have chosen : find t' directory = find t directory :=
    find_sameBut same stands stands' known known'
  cases found : find t directory with
  | error e =>
    unfold load
    rw [chosen, found]
    exact ⟨rfl, rfl⟩
  | ok file =>
    cases file with
    | none =>
      unfold load
      rw [chosen, found]
      exact ⟨rfl, rfl⟩
    | some file =>
      rw [load_of_find found, load_of_find (chosen.trans found)]
      obtain ⟨other, isConfig, rfl⟩ := name_of_find found
      rcases settingsIn_sameBut same stands stands' known known' isConfig with
        equal | ⟨own, own'⟩
      · rw [loadFile, loadFile, equal]
        exact ⟨rfl, rfl⟩
      · refine ⟨(notes_loadFile own').trans (notes_loadFile own).symm, ?_⟩
        rw [outcome_loadFile own, outcome_loadFile own', map_relativeTo_without,
          map_relativeTo_without]
        exact congrArg _ (ofTable?_without alike first second).symm

end Rewriting

end EnumText.Config
