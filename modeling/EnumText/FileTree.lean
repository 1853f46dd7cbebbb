import EnumText.Path
import EnumText.Text.Display
import EnumText.Text.Utf8

/-!
Trees of files, as a program in some working directory sees them.

- `FileTree` holds the directories and the files with their contents.
- `FileTree.locate` finds the place that a path leads to; `FileTree.find` what stands there.
- `FileTree.read` and `FileTree.write` work on files.
- `FileTree.Fault` is why an operation is refused, with the message of the operating system.
-/

namespace EnumText

namespace FileTree

/-- A place: the components that lead to it from the root. -/
abbrev Place := List Text

/-- What can stand at a place. A file that is not UTF-8 throughout has stray runes in its
content. -/
inductive Node where
  | file (content : Text)
  | directory
deriving DecidableEq, Inhabited

/-- Why the operating system refuses an operation. -/
inductive Fault where
  | missing
  | notDirectory
  | isDirectory
  | nameTooLong
  /-- The path holds the character that ends a path for the operating system. -/
  | nullInPath
deriving DecidableEq, Inhabited

/-- The words for a fault, after its number if the operating system tells it. -/
def Fault.description : Fault → Text
  | .missing => text "[Errno 2] No such file or directory"
  | .notDirectory => text "[Errno 20] Not a directory"
  | .isDirectory => text "[Errno 21] Is a directory"
  | .nameTooLong => text "[Errno 36] File name too long"
  | .nullInPath => text "embedded null byte"

/-- The message for a fault at a path. A path that the operating system never sees is not shown. -/
def Fault.message (f : Fault) (p : Path) : Text :=
  match f with
  | .nullInPath => f.description
  | _ => f.description ++ text ": " ++ p.toText.display

/-- The greatest number of bytes in a component of a path. -/
def maxNameBytes : Nat := 255

/-- The number of bytes that a whole path stays below. -/
def pathBytesLimit : Nat := 4096

end FileTree

/-- Files and directories by their places, and the working directory. The root is a directory
without being listed. -/
structure FileTree where
  workingDirectory : FileTree.Place
  nodes : List (FileTree.Place × FileTree.Node)
deriving DecidableEq, Inhabited

namespace FileTree

/-- What stands at a place. -/
def node? (t : FileTree) (place : Place) : Option Node :=
  if place.isEmpty then some .directory else t.nodes.lookup place

/-- The tree with something at a place, instead of what stood there. -/
def put (t : FileTree) (place : Place) (node : Node) : FileTree :=
  { t with nodes := (place, node) :: t.nodes.filter (·.1 ≠ place) }

/-- The tree without what stands at a place and below it. -/
def remove (t : FileTree) (place : Place) : FileTree :=
  { t with nodes := t.nodes.filter (!place.isPrefixOf ·.1) }

/-- The tree with directories along components from a place on, where nothing stands yet. -/
def withDirectories (t : FileTree) (here : Place) : List Text → FileTree
  | [] => t
  | part :: rest =>
    let place := here ++ [part]
    let t := if (t.node? place).isSome then t else t.put place .directory
    t.withDirectories place rest

/-- The tree with a file, and the directories on the way to it. -/
def withFile (t : FileTree) (place : Place) (content : Text) : FileTree :=
  (t.withDirectories [] place.dropLast).put place (.file content)

/-- The names in a directory, in order. -/
def namesIn (t : FileTree) (place : Place) : List Text :=
  (t.nodes.filterMap fun (p, _) =>
    if p.dropLast = place then p.getLast? else none).mergeSort Text.le

/-- The place that components lead to from another place. All but the last have to name
directories. -/
def walk (t : FileTree) (here : Place) : List Text → Except Fault Place
  | [] => .ok here
  | part :: rest =>
    match t.node? here with
    | none => .error .missing
    | some (.file _) => .error .notDirectory
    | some .directory =>
      if part = text ".." then t.walk here.dropLast rest
      else if maxNameBytes < part.encode.length then .error .nameTooLong
      else t.walk (here ++ [part]) rest

/-- The place that a path starts from. -/
def startOf (t : FileTree) (p : Path) : Place := if p.isAbsolute then [] else t.workingDirectory

/-- The place that a path leads to, whether or not something stands there. -/
def locate (t : FileTree) (p : Path) : Except Fault Place :=
  if p.hasNull then .error .nullInPath
  else if pathBytesLimit ≤ p.toText.encode.length then .error .nameTooLong
  else t.walk (t.startOf p) p.parts

/-- What stands at the end of a path. -/
def find (t : FileTree) (p : Path) : Except Fault Node := do
  let place ← t.locate p
  match t.node? place with
  | some node => return node
  | none => throw .missing

/-- What stands at the end of a path, if the path leads to something. -/
def find? (t : FileTree) (p : Path) : Except Fault (Option Node) :=
  match t.find p with
  | .ok node => .ok (some node)
  | .error .missing | .error .notDirectory | .error .nullInPath => .ok none
  | .error fault => .error fault

/-- Whether a path leads to something. -/
def exists? (t : FileTree) (p : Path) : Except Fault Bool := (t.find? p).map Option.isSome

/-- Whether a path leads to a directory. -/
def isDirectory? (t : FileTree) (p : Path) : Except Fault Bool :=
  (t.find? p).map (· == some .directory)

/-- The content of a file. -/
def read (t : FileTree) (p : Path) : Except Fault Text := do
  match ← t.find p with
  | .file content => return content
  | .directory => throw .isDirectory

/-- The place of a file that is opened to be written. A new file needs its directory. -/
def placeFor (t : FileTree) (p : Path) : Except Fault Place := do
  let place ← t.locate p
  if t.node? place = some .directory then throw .isDirectory else return place

/-- The tree after giving a file its content. -/
def write (t : FileTree) (p : Path) (content : Text) : Except Fault FileTree := do
  return t.put (← t.placeFor p) (.file content)

end FileTree

end EnumText
