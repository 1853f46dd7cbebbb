import EnumText.Casing
import EnumText.FileTree

/-!
Where generated code is written.
-/

namespace EnumText

/-- The name of the generated file for a type. -/
def outputName (typeName : Text) : Path :=
  Path.ofText (Casing.snake.transform typeName ++ text "_enum.go")

/-- The file for generated code: by default the one named for the type in the directory of the
package. Another output is a directory to put that file into, if there is such a directory, or else
the file itself. -/
def outputFile (t : FileTree) (directory : Path) (typeName : Text) (output : Option Text) :
    Except FileTree.Fault Path :=
  match output with
  | none | some [] => .ok (directory.join (outputName typeName))
  | some output => do
    let target := Path.ofText output
    return if ← t.isDirectory? target then target.join (outputName typeName) else target

end EnumText
