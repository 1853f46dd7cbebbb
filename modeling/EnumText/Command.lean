import EnumText.Command.Platform
import EnumText.Config
import EnumText.Generation
import EnumText.OutputFile
import EnumText.Package

/-!
The command line as a function: from a tree of files and the arguments to what is printed, how the
run ends and the tree afterwards, on any platform.

- `GenerateOptions.plan` decides which file is to be written with which code.
- `Command.run` carries out a command line.
- `Command.consulted` lists the paths that a run looks at.
-/

namespace EnumText

/-- Why a run breaks off without a message of its own. -/
inductive Crash where
  | load (e : LoadError)
  | config (e : ConfigError)
  | generation (e : GenerationError)
  /-- A text has a stray byte, which no file in UTF-8 and no standard output can hold. -/
  | unencodable
  | fault (f : FileTree.Fault) (p : Path)
deriving DecidableEq, Inhabited

/-- The message of a crash. -/
def Crash.message : Crash → Text
  | .load e => e.message
  | .config e => e.message
  | .generation e => e.message
  | .unencodable => text "the text is not UTF-8"
  | .fault f p => f.message p

/-- How the generation of code stops before its end. -/
inductive Halt where
  /-- An argument or setting has a value that cannot be used. -/
  | refused (message : Text)
  /-- The work fails, and a message says why. -/
  | reported (message : Text)
  | crashed (crash : Crash)
deriving DecidableEq, Inhabited

namespace Halt

/-- The failure to load a package. -/
def ofLoadError : LoadError → Halt
  | .undecodable file => .crashed (.load (.undecodable file))
  | .fault f p => .crashed (.load (.fault f p))
  | e => .reported (text "Error loading package: " ++ e.message)

/-- The failure to load a configuration. -/
def ofConfigError : ConfigError → Halt
  | .unknownCasing shown => .refused (ConfigError.message (.unknownCasing shown))
  | e => .crashed (.config e)

/-- The failure to generate code. -/
def ofGenerationError : GenerationError → Halt
  | .repeatedField e => .crashed (.generation (.repeatedField e))
  | .encoding (.unset field) => .crashed (.generation (.encoding (.unset field)))
  | e => .reported (text "Error processing package: " ++ e.message)

end Halt

namespace GenerateOptions

/-- The names of the types. -/
def typeNames (o : GenerateOptions) : List Text :=
  ((o.types.splitOn ',').map Text.strip).filter (· ≠ [])

/-- The casing of the command line, if it gives one. -/
def casing? (o : GenerateOptions) : Except Halt (Option Casing) :=
  match o.format with
  | none => .ok none
  | some format =>
    match Casing.parse? format with
    | some casing => .ok (some casing)
    | none => .error (.refused (ConfigError.message (.unknownCasing format.display)))

/-- The values of the command line that are put in place of configured ones. -/
def overrides (o : GenerateOptions) (casing : Option Casing) : Config.Overrides :=
  ⟨casing, o.marshalField, o.zero, o.output.map fun t => (Path.ofText t).toText⟩

/-- The file to write and its code, if there is any. -/
def plan [SettingReader] (o : GenerateOptions) (t : FileTree) :
    Report Halt (Option (Path × Text)) := do
  match o.typeNames with
  | [] => throw (.refused (text "at least one type name is required"))
  | first :: others =>
    let path := Path.ofText o.path
    if !(← Report.ofExcept ((t.exists? path).mapError fun f => .crashed (.fault f path))) then
      throw (.reported (text "Error: " ++ path.toText ++ text " does not exist"))
    let package ← (Package.load t path).mapError Halt.ofLoadError
    let config ← (Config.load t package.directory).mapError Halt.ofConfigError
    let casing ← Report.ofExcept o.casing?
    let config := config.merge (o.overrides casing)
    let form : TextForm := ⟨config.casing, config.marshalField, config.zero⟩
    let code ← (package.source.generate form (first :: others)).mapError Halt.ofGenerationError
    match code with
    | none => return none
    | some code =>
      let file ← Report.ofExcept ((outputFile t package.directory first config.output).mapError
        fun f => .crashed (.fault f package.directory))
      return some (file, code)

end GenerateOptions

/-- How a run ends. -/
inductive Ending where
  | done
  | failed
  /-- The arguments cannot be used, for a reason that is given if it is not their form. -/
  | refused (message : Option Text)
  | crashed (crash : Crash)
deriving DecidableEq, Inhabited

/-- The exit code of a run. -/
def Ending.exitCode : Ending → Nat
  | .done => 0
  | .failed | .crashed _ => 1
  | .refused _ => 2

/-- What a run leaves behind. -/
structure Run where
  ending : Ending
  output : Text
  errors : Text
  tree : FileTree
deriving DecidableEq, Inhabited

namespace Command

/-- The version of the program. -/
def version : Text := text "0.1.0"

/-- The name that the formats are shown with. -/
def exampleName : Text := text "CreditCard"

/-- The line for a format in their list. -/
def formatLine (c : Casing) : Text :=
  let label := if c.name.isEmpty then text "\"\"" else c.name
  text "  " ++ label.padRight 12 ++ text " " ++ c.transform exampleName ++ text "\n"

/-- The level that a name stands for. -/
def level? (name : Text) : Option Level :=
  if name = text "NOTSET" ∨ name = text "DEBUG" then some .debug
  else if name = text "INFO" then some .info
  else if name = text "WARN" ∨ name = text "WARNING" then some .warning
  else if name = text "ERROR" then some .error
  else if name = text "FATAL" ∨ name = text "CRITICAL" then some .critical
  else none

/-- The least level of notes that are shown: all of them on request, and otherwise those of the
level named in the environment, in any case, or else warnings. -/
def threshold (verbose : Bool) (name : Option Text) : Level :=
  if verbose then .debug else (name.bind fun name => level? name.upper).getD .warning

/-- The notes from a level on, in the lines of the log. -/
def log (least : Level) (notes : List Note) : Text :=
  (notes.filter fun n => least.rank ≤ n.level.rank).flatMap Note.line

section Running

variable [Platform]

/-- A message on standard error, on lines of its own. -/
def printed (message : Text) : Text := Platform.message (message ++ text "\n")

/-- The end of a run that prints texts on standard output, after some messages. -/
def finish (t : FileTree) (errors : Text) : List Text → Run
  | [] => ⟨.done, [], errors, t⟩
  | out :: others =>
    match Platform.output? out with
    | none => ⟨.crashed .unencodable, [], errors, t⟩
    | some shown =>
      let rest := finish t errors others
      { rest with output := shown ++ rest.output }

/-- The end of a run that fails for a reason that a message tells. -/
def fail (t : FileTree) (errors reason : Text) : Run := ⟨.failed, [], errors ++ printed reason, t⟩

/-- The line that tells where code is written to. -/
def announcement (file : Path) : Text := text "Generated " ++ file.toText ++ text "\n"

/-- The reason for a failure to write a file. -/
def writeFailure (file : Path) (reason : Text) : Text :=
  text "Error writing " ++ file.toText ++ text ": " ++ reason

/-- Writes the code to its file. Once the file is opened, its former content is lost, even if the
code turns out to have a stray byte or the device breaks off. -/
def save (t : FileTree) (least : Level) (errors : Text) (file : Path) (code : Text) : Run :=
  match t.placeFor file with
  | .error .nullInPath => ⟨.crashed (.fault .nullInPath file), [], errors, t⟩
  | .error fault => fail t errors (writeFailure file (fault.message file))
  | .ok place =>
    match Platform.writing place code, code.isScalar with
    | .refused reason, _ => fail t errors (writeFailure file reason)
    | _, false => ⟨.crashed .unencodable, [], errors, t.put place (.file [])⟩
    | .broken bytes reason, true =>
      fail (t.put place (.file (Utf8.decode (code.encode.take bytes)))) errors
        (writeFailure file reason)
    | .whole, true =>
      finish (t.put place (.file code)) (errors ++ Platform.log (log least [.completed file]))
        [announcement file]

/-- The first path among the options that no file can have. -/
def impossiblePath? (o : GenerateOptions) : Option Path :=
  ((o.path :: o.output.toList).map Path.ofText).find? Path.hasNull

/-- Generates code as the options say. -/
def generate (o : GenerateOptions) (levelName : Option Text) (t : FileTree) : Run :=
  let least := threshold o.verbose levelName
  let report := o.plan t
  let errors := Platform.log (log least report.notes)
  match report.outcome with
  | .error (.refused message) => ⟨.refused (some message), [], errors, t⟩
  | .error (.reported message) => fail t errors message
  | .error (.crashed crash) => ⟨.crashed crash, [], errors, t⟩
  | .ok none => finish t errors [text "No enums found to generate\n"]
  | .ok (some (file, code)) =>
    if o.dryRun then
      let message := text "Dry run enabled, no files written (" ++ file.toText ++ text ")"
      finish t (errors ++ printed message) [code]
    else save t least errors file code

/-- Carries out a command line. The name of a level may come from the environment. -/
def run (arguments : List Text) (levelName : Option Text) (t : FileTree) : Run :=
  match Platform.parse? arguments with
  | none => ⟨.refused none, [], [], t⟩
  | some .version => finish t [] [text "enumr " ++ version ++ text "\n"]
  | some .help => ⟨.done, Platform.help arguments, [], t⟩
  | some .formats => finish t [] (Casing.all.map formatLine)
  | some (.generate o) =>
    match impossiblePath? o with
    | some p => ⟨.crashed (.fault .nullInPath p), [], [], t⟩
    | none => generate o levelName t

/-- The paths that a command line depends on, as far as a partly known tree tells: the package and
its directory, and the places that the output may be written to. -/
def consulted (arguments : List Text) (t : FileTree) : List Path :=
  match Platform.parse? arguments with
  | some (.generate o) =>
    let path := Path.ofText o.path
    let configured := match Package.directoryOf t path with
      | .ok directory =>
        match (Config.load t directory).outcome with
        | .ok config => config.output.toList
        | .error _ => []
      | .error _ => []
    [path, path.parent] ++ (o.output.toList ++ configured).map Path.ofText
  | _ => []

end Running

end Command

end EnumText
