import EnumText.Config
import EnumText.Proofs.Report

/-!
# Configurations of directories

The configuration of a directory is the one its file gives, or the default where it has no file. A
relative output is taken from the directory of the file, not from the working directory.

* `Config.placed`: a configured output seen from the directory of its file.
* `Config.Follows`: what a table of settings says of a configuration, whatever their reader is.
* `Config.Holds`: a configuration as the file of a directory gives it.
* `Config.load_eq_ok_iff`: a configuration is loaded if it is the one that holds.
-/

namespace EnumText.Config

variable {t : FileTree} {directory : Path} {c : Config}

/-- An output as it is configured in a file of a directory. It is joined to the directory if it is
relative, and no output if it is empty. -/
def placed (directory : Path) (output : Text) : Text :=
  if output = [] ∨ (Path.ofText output).isAbsolute then output
  else (directory.join (Path.ofText output)).toText

theorem relativeTo_eq (directory : Path) (c : Config) :
    c.relativeTo directory = { c with output := c.output.map (placed directory) } := by
  obtain ⟨casing, field, zero, output⟩ := c
  match output with
  | none => rfl
  | some [] => rfl
  | some (r :: rest) =>
    by_cases absolute : (Path.ofText (r :: rest)).isAbsolute = true
    · simp [relativeTo, placed, absolute]
    · simp [relativeTo, placed, absolute]

/-! ## Tables of settings -/

/-- The value of the first of some keys that a table has. -/
def firstOf (settings : Table) (keys : List Text) : Option Setting := keys.findSome? settings.get?

/-- A configuration follows a table of settings: it has the casing that the table names, the texts
and the truth value that the table has, and the default where the table has nothing. -/
structure Follows (c : Config) (settings : Table) : Prop where
  casing : casingOf ((settings.get? (text "format")).getD .null) = .ok c.casing
  marshalField_text (t : Text) :
    firstOf settings [text "marshal-field", text "marshal_field"] = some (.text t) →
      c.marshalField = some t
  marshalField_missing :
    firstOf settings [text "marshal-field", text "marshal_field"] = none → c.marshalField = none
  zero_bool (b : Bool) : firstOf settings [text "zero"] = some (.bool b) → c.zero = b
  zero_missing : firstOf settings [text "zero"] = none → c.zero = false
  output_text (t : Text) : firstOf settings [text "output"] = some (.text t) → c.output = some t
  output_missing : firstOf settings [text "output"] = none → c.output = none

section Reading

variable {α : Type} {settings : Table} {keys : List Text} {missing value : α}
  {meaning : Setting → Except SettingFault α}

theorem eq_missing_of_read (read : read settings keys missing meaning = .ok value)
    (none : firstOf settings keys = none) : value = missing := by
  have absent : (keys.find? fun key => (settings.get? key).isSome) = .none := by
    simpa [firstOf, List.find?_eq_none] using none
  rw [Config.read, absent] at read
  exact (Except.ok.inj read).symm

/-- A setting that is there is read from its value. -/
theorem meaning_of_read (read : read settings keys missing meaning = .ok value) {s : Setting}
    (first : firstOf settings keys = some s) : meaning s = .ok value := by
  rw [firstOf, List.findSome?_eq_some_iff] at first
  obtain ⟨front, key, back, rfl, known, absent⟩ := first
  have found : ((front ++ key :: back).find? fun key => (settings.get? key).isSome) = some key := by
    refine List.find?_eq_some_iff_append.2 ⟨by rw [known]; rfl, front, back, rfl, ?_⟩
    intro other mem
    rw [absent other mem]
    rfl
  rw [Config.read, found] at read
  have same := mapError_eq_ok_iff.1 read
  rwa [known] at same

end Reading

variable [SettingReader]

/-- A table means a configuration if it names its casing, and all other settings can be read. -/
theorem ofTable?_eq_ok_iff {settings : Table} : ofTable? settings = .ok c ↔
    casingOf ((settings.get? (text "format")).getD .null) = .ok c.casing ∧
    fieldOf settings = .ok c.marshalField ∧ zeroOf settings = .ok c.zero ∧
    outputOf settings = .ok c.output := by
  simp only [ofTable?, bind_eq_ok_iff]
  constructor
  · rintro ⟨casing, known, rest⟩
    split at rest
    · next field zero output first second third =>
      cases rest
      exact ⟨known, first, second, third⟩
    · cases rest
  · rintro ⟨known, first, second, third⟩
    refine ⟨_, known, ?_⟩
    rw [first, second, third]
    rfl

theorem follows_of_ofTable? {settings : Table} (h : ofTable? settings = .ok c) :
    c.Follows settings := by
  obtain ⟨casing, field, zero, output⟩ := ofTable?_eq_ok_iff.1 h
  have isText {keys : List Text} {value : Option Text}
      (read : Config.read settings keys none SettingReader.textOf = .ok value) (t : Text)
      (first : firstOf settings keys = some (.text t)) : value = some t :=
    Except.ok.inj ((meaning_of_read read first).symm.trans (SettingReader.textOf_text t))
  exact {
    casing
    marshalField_text := isText field
    marshalField_missing := eq_missing_of_read field
    zero_bool b first :=
      Except.ok.inj ((meaning_of_read zero first).symm.trans (SettingReader.boolOf_bool b))
    zero_missing := eq_missing_of_read zero
    output_text := isText output
    output_missing := eq_missing_of_read output }

/-! ## Configuration files -/

/-- The configuration that holds in a directory, by its file if it has one. -/
inductive Holds (t : FileTree) (directory : Path) : Config → Prop
  | unset (none : find t directory = .ok none) : Holds t directory default
  | inFile {file : Path} {settings : Table} {own : Config}
      (found : find t directory = .ok (some file))
      (read : settingsIn t file = .ok (.table settings)) (valid : ofTable? settings = .ok own)
      (follows : own.Follows settings) :
      Holds t directory { own with output := own.output.map (placed file.parent) }

theorem load_eq_ok_iff : (load t directory).outcome = .ok c ↔ Holds t directory c := by
  simp only [load, Report.outcome_bind, Report.outcome_ofExcept, bind_eq_ok_iff]
  constructor
  · rintro ⟨file, found, rest⟩
    cases file with
    | none =>
      cases rest
      exact .unset found
    | some file =>
      simp only [Report.outcome_bind, Report.outcome_ofExcept, Report.outcome_note,
        Report.outcome_pure, bind_eq_ok_iff] at rest
      obtain ⟨settings, read, _, -, own, valid, same⟩ := rest
      rw [relativeTo_eq] at same
      cases same
      cases settings with
      | table settings => exact .inFile found read valid (follows_of_ofTable? valid)
      | _ => cases valid
  · rintro (none | ⟨found, read, valid, -⟩)
    · exact ⟨_, none, rfl⟩
    · refine ⟨_, found, ?_⟩
      simp only [Report.outcome_bind, Report.outcome_ofExcept, Report.outcome_note,
        Report.outcome_pure, bind_eq_ok_iff]
      exact ⟨_, read, (), trivial, _, valid, congrArg _ (relativeTo_eq _ _)⟩

end EnumText.Config
