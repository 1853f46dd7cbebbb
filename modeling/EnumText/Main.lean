import EnumText.Command

/-!
The program: it takes a picture of the files that a command line depends on, carries out the command
on the picture, and writes down what has changed.
-/

namespace EnumText.Main

/-- A text as a string. Stray bytes, which a string cannot hold, become replacement characters. -/
def ofText (t : Text) : String :=
  String.ofList (t.map fun | .scalar c => c | .stray _ => '\ufffd')

/-- The path of a place for the operating system. -/
def pathOf (place : FileTree.Place) : String :=
  "/" ++ "/".intercalate (place.map ofText)

/-- Whether the content of a file matters. -/
def isRead (name : Text) : Bool :=
  name.endsWith (text ".go") || name.endsWith (text ".toml")

/-- The tree with what stands at a place. -/
def observe (t : FileTree) (place : FileTree.Place) : IO FileTree := do
  let path := System.mkFilePath [pathOf place]
  if ← path.isDir then return t.put place .directory
  else if ← path.pathExists then
    if isRead (place.getLastD []) then
      let bytes ← IO.FS.readBinFile path
      return t.put place (.file (Utf8.decode bytes.toList))
    else return t.put place (.file [])
  else return t

/-- The tree with what stands on the way from a place along components, and with the files in the
last directory. -/
def observeAlong (t : FileTree) (place : FileTree.Place) : List Text → IO FileTree
  | [] => do
    let path := System.mkFilePath [pathOf place]
    if ← path.isDir then
      (← path.readDir).toList.foldlM
        (fun t entry => observe t (place ++ [text entry.fileName])) t
    else return t
  | part :: rest => do
    if part = text ".." then observeAlong t place.dropLast rest
    else observeAlong (← observe t (place ++ [part])) (place ++ [part]) rest

/-- The tree with all that some paths lead to. -/
def observePaths (t : FileTree) (paths : List Path) : IO FileTree :=
  paths.foldlM (fun t p => observeAlong t (t.startOf p) p.parts) t

/-- The tree that holds the working directory alone. -/
def start : IO FileTree := do
  let here := (Path.ofText (text (← IO.currentDir).toString)).parts
  return FileTree.withDirectories ⟨here, []⟩ [] here

/-- Writes the files of a tree that are not in an earlier one. -/
def commit (before after : FileTree) : IO Unit :=
  after.nodes.forM fun (place, node) => do
    match node with
    | .file content =>
      if before.node? place ≠ some node then
        IO.FS.writeBinFile (System.mkFilePath [pathOf place]) ⟨content.encode.toArray⟩
    | .directory => return ()

/-- The message that follows a run which has not printed its own. -/
def closingMessage : Ending → Text
  | .done | .failed | .refused none => []
  | .refused (some message) => text "Error: " ++ message ++ text "\n"
  | .crashed crash => text "Error: " ++ crash.message ++ text "\n"

end EnumText.Main

open EnumText EnumText.Main in
/-- Carries out the command line of the program. -/
def main (arguments : List String) : IO UInt32 := do
  let arguments := arguments.map text
  let before ← start
  let before ← observePaths before (Command.consulted arguments before)
  let before ← observePaths before (Command.consulted arguments before)
  let level := (← IO.getEnv "LOG_LEVEL").map text
  let run := Command.run arguments level before
  commit before run.tree
  IO.print (ofText run.output)
  IO.eprint (ofText (run.errors ++ closingMessage run.ending))
  if run.ending = .refused none then IO.eprint (ofText Platform.usage)
  return run.ending.exitCode.toUInt32
