import EnumText.Casing
import EnumText.FileTree
import EnumText.Note
import EnumText.Setting.Reader
import EnumText.Setting.Toml

/-!
Configuration: what is used where the command line says nothing.

- `Config.ofTable?` gives the settings of a table the meaning that a reader finds in them, or tells
  what is wrong with them.
- `Config.merge` puts other values in place of some.
- `Config.find` looks for the file of a directory, and `Config.load` reads it.
-/

namespace EnumText

/-- What is used where the command line says nothing. -/
structure Config where
  casing : Casing
  marshalField : Option Text
  zero : Bool
  output : Option Text
deriving DecidableEq, Inhabited

/-- Why there is no configuration. -/
inductive ConfigError where
  /-- No casing has the name, which is given in its display form. -/
  | unknownCasing (shown : Text)
  /-- The casing has no display form. -/
  | casingNotPlain
  /-- Settings with what is wrong with them. -/
  | invalid (faults : List (Text × SettingFault))
  /-- A file is no TOML. -/
  | malformed
  /-- A file is not UTF-8. -/
  | undecodable
  /-- The tools are given as a number, a truth value, a date or a time. -/
  | toolsNotSearchable
  /-- The tools are a list or a text with the name of this one. -/
  | toolsNotTable
  | fault (f : FileTree.Fault) (p : Path)
deriving DecidableEq, Inhabited

/-- The message of an error. -/
def ConfigError.message : ConfigError → Text
  | .unknownCasing shown => text "unknown casing format " ++ shown
  | .casingNotPlain => text "the casing cannot be shown"
  | .invalid faults =>
    List.intercalate (text "; ") (faults.map fun (place, f) => place ++ text ": " ++ f.word)
  | .malformed => text "the file is no TOML"
  | .undecodable => text "the file is not UTF-8"
  | .toolsNotSearchable | .toolsNotTable => text "the tools are no table"
  | .fault f p => f.message p

namespace Config

/-- The configuration without settings. -/
def default : Config := ⟨.identity, none, false, none⟩

/-! ## Single settings -/

/-- The casing that a setting names; an empty one is no change of the name. -/
def casingOf (s : Setting) : Except ConfigError Casing :=
  if s.isEmpty then .ok .identity
  else
    match s, s.display? with
    | _, none => .error .casingNotPlain
    | .text t, some shown =>
      match Casing.parse? t with
      | some c => .ok c
      | none => .error (.unknownCasing shown)
    | _, some shown => .error (.unknownCasing shown)

/-! ## All settings -/

/-- What a setting means under the first of some keys that a table has, with that key. -/
def read {α : Type} (t : Table) (keys : List Text) (missing : α)
    (meaning : Setting → Except SettingFault α) : Except (Text × SettingFault) α :=
  match keys.find? fun key => (t.get? key).isSome with
  | none => .ok missing
  | some key => (meaning ((t.get? key).getD .null)).mapError (key, ·)

section Reading

variable [SettingReader]

/-- The field that a table names to be written as the text. -/
def fieldOf (t : Table) : Except (Text × SettingFault) (Option Text) :=
  read t [text "marshal-field", text "marshal_field"] none SettingReader.textOf

/-- Whether a table asks for the empty text to be read as the zero value. -/
def zeroOf (t : Table) : Except (Text × SettingFault) Bool :=
  read t [text "zero"] false SettingReader.boolOf

/-- The output that a table names. -/
def outputOf (t : Table) : Except (Text × SettingFault) (Option Text) :=
  read t [text "output"] none SettingReader.textOf

end Reading

/-- The fault of a setting that has one. -/
def faultOf {α : Type} : Except (Text × SettingFault) α → List (Text × SettingFault)
  | .ok _ => []
  | .error fault => [fault]

/-- The configuration of a table. An unknown casing is told at once, and all other faults
together. -/
def ofTable? [SettingReader] (t : Table) : Except ConfigError Config := do
  let casing ← casingOf ((t.get? (text "format")).getD .null)
  let field := fieldOf t
  let zero := zeroOf t
  let output := outputOf t
  match field, zero, output with
  | .ok field, .ok zero, .ok output => return ⟨casing, field, zero, output⟩
  | _, _, _ => throw (.invalid (faultOf field ++ faultOf zero ++ faultOf output))

/-- The configuration of a setting, which has to be a table. -/
def ofSetting? [SettingReader] : Setting → Except ConfigError Config
  | .table t => ofTable? t
  | _ => .error (.invalid [([], .notTable)])

/-- Values to be put in place of those of a configuration. -/
structure Overrides where
  casing : Option Casing
  marshalField : Option Text
  zero : Option Bool
  output : Option Text
deriving DecidableEq, Inhabited

/-- The configuration with other values for some. -/
def merge (c : Config) (o : Overrides) : Config :=
  ⟨o.casing.getD c.casing, o.marshalField <|> c.marshalField, o.zero.getD c.zero,
    o.output <|> c.output⟩

/-! ## Files -/

/-- The name of a file that holds nothing but the configuration. -/
def standaloneName : Text := text "enumr.toml"

/-- The name of a file that holds settings of many tools. -/
def sharedName : Text := text "pyproject.toml"

/-- The key of this tool among others. -/
def toolName : Text := text "enumr"

/-- The table in a file. -/
def readTable (t : FileTree) (file : Path) : Except ConfigError Table := do
  let content ← (t.read file).mapError (.fault · file)
  if content.isScalar then
    match Toml.parse? content with
    | some table => return table
    | none => throw .malformed
  else throw .undecodable

/-- The tools in the table of a shared file. -/
def toolsOf (t : Table) : Setting := (t.get? (text "tool")).getD (.table [])

/-- Whether a text occurs in another. -/
def occursIn (part : Text) : Text → Bool
  | [] => part.isEmpty
  | c :: rest => part.isPrefixOf (c :: rest) || occursIn part rest

/-- Whether tools mention this one. -/
def mentions : Setting → Except ConfigError Bool
  | .table tools => .ok (Table.get? tools toolName).isSome
  | .list items => .ok (items.any (·.isText toolName))
  | .text t => .ok (occursIn toolName t)
  | _ => .error .toolsNotSearchable

/-- The configuration file of a directory: the one of its own, or the shared one if it mentions this
tool. -/
def find (t : FileTree) (directory : Path) : Except ConfigError (Option Path) := do
  let standalone := directory.join (Path.ofText standaloneName)
  let shared := directory.join (Path.ofText sharedName)
  if ← (t.exists? standalone).mapError (.fault · standalone) then return some standalone
  else if ← (t.exists? shared).mapError (.fault · shared) then
    return if ← mentions (toolsOf (← readTable t shared)) then some shared else none
  else return none

/-- The settings of this tool in a file. -/
def settingsIn (t : FileTree) (file : Path) : Except ConfigError Setting := do
  let table ← readTable t file
  if file.parts.getLast? = some sharedName then
    match toolsOf table with
    | .table tools => return (Table.get? tools toolName).getD (.table [])
    | _ => throw .toolsNotTable
  else return .table table

/-- The configuration with its output taken from a directory. An absolute output stays as it is
written. -/
def relativeTo (directory : Path) (c : Config) : Config :=
  match c.output with
  | none | some [] => c
  | some output =>
    let p := Path.ofText output
    if p.isAbsolute then c else { c with output := some (directory.join p).toText }

/-- The configuration of a directory. -/
def load [SettingReader] (t : FileTree) (directory : Path) : Report ConfigError Config := do
  match ← Report.ofExcept (find t directory) with
  | none => return default
  | some file =>
    let settings ← Report.ofExcept (settingsIn t file)
    Report.note (.configuration file)
    let config ← Report.ofExcept (ofSetting? settings)
    return config.relativeTo file.parent

end Config

end EnumText
