import EnumText.FileTree
import EnumText.Note
import EnumText.Source
import EnumText.SourceFile

/-!
Packages: the Go files of a directory, tests apart.

- `Package.discover` lists the files of a package.
- `Package.load` reads the package of a directory, or of a file in it.
- `Package.source` is what the generator needs of a package.
-/

namespace EnumText

/-- A directory with its Go files in the order of their names. -/
structure Package where
  name : Text
  directory : Path
  files : List SourceFile
deriving DecidableEq, Inhabited

/-- Why a package is not loaded. -/
inductive LoadError where
  | noDirectory (directory : Path)
  | noFiles (directory : Path)
  | manyPackages (names : List Text) (directory : Path)
  | syntaxError (e : SyntaxError)
  /-- A file is not UTF-8. -/
  | undecodable (file : Path)
  | fault (f : FileTree.Fault) (p : Path)
deriving DecidableEq, Inhabited

/-- The message of an error. -/
def LoadError.message : LoadError → Text
  | .noDirectory directory => text "directory " ++ directory.toText ++ text " does not exist"
  | .noFiles directory => text "no Go files found in directory " ++ directory.toText
  | .manyPackages names directory =>
    text "found packages " ++ List.intercalate (text ", ") names ++ text " in " ++ directory.toText
  | .syntaxError e => e.message
  | .undecodable file => text "file " ++ file.toText ++ text " is not UTF-8"
  | .fault f p => f.message p

namespace Package

/-- Whether a file belongs to the package by its name. -/
def isSourceName (name : Text) : Bool :=
  name.endsWith (text ".go") && !name.endsWith (text "_test.go")

/-- Whether a node is a file. -/
def isFile : Option FileTree.Node → Bool
  | some (.file _) => true
  | _ => false

/-- The source files of a directory in the order of their names. -/
def discover (t : FileTree) (directory : Path) : Except FileTree.Fault (List Path) := do
  if ← t.isDirectory? directory then
    let place ← t.locate directory
    let names := (t.namesIn place).filter fun name =>
      isSourceName name && isFile (t.node? (place ++ [name]))
    return names.map fun name => ⟨directory.start, directory.parts ++ [name]⟩
  else return []

/-- The directory of a path: the path itself, or the one that holds it. -/
def directoryOf (t : FileTree) (p : Path) : Except FileTree.Fault Path := do
  return if ← t.isDirectory? p then p else p.parent

/-- The declarations of a file. -/
def readFile (t : FileTree) (file : Path) : Except LoadError SourceFile := do
  let content ← (t.read file).mapError (.fault · file)
  if content.isScalar then
    (SourceFile.ofText? file content.unifyNewlines).mapError .syntaxError
  else throw (.undecodable file)

/-- The declarations of files, up to the first that cannot be read. -/
def readFiles (t : FileTree) : List Path → Report LoadError (List SourceFile)
  | [] => return []
  | file :: rest => do
    Report.note (.parsing file)
    let first ← Report.ofExcept (readFile t file)
    let others ← readFiles t rest
    return first :: others

/-- The different package names among files, in order. -/
def packageNames (files : List SourceFile) : List Text :=
  (files.map (·.package)).eraseDups.mergeSort Text.le

/-- The package that a path leads to. -/
def load (t : FileTree) (p : Path) : Report LoadError Package := do
  let directory ← Report.ofExcept ((directoryOf t p).mapError (.fault · p))
  if !(← Report.ofExcept ((t.exists? directory).mapError (.fault · directory))) then
    throw (.noDirectory directory)
  let paths ← Report.ofExcept ((discover t directory).mapError (.fault · directory))
  if paths.isEmpty then throw (.noFiles directory)
  let files ← readFiles t paths
  match packageNames files with
  | [name] => return ⟨name, directory, files⟩
  | names => throw (.manyPackages names directory)

/-- The declarations of a package. -/
def source (p : Package) : Source :=
  ⟨p.name, p.files.flatMap fun f => f.types.map (·.toTypeInfo), p.files.flatMap (·.bindings)⟩

end Package

end EnumText
