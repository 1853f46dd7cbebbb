import EnumText.Text.Rune

/-!
File paths in a normal form: empty and dot components are dropped, and `..` is kept.
-/

namespace EnumText

/-- What a path starts from. Two slashes at the start are distinct from one; three or more are
one. -/
inductive Path.Start where
  | relative
  | root
  | doubleRoot
deriving DecidableEq, Inhabited

/-- A path: a start and the components after it. -/
structure Path where
  start : Path.Start
  parts : List Text
deriving DecidableEq, Inhabited

namespace Path

/-- The directory that relative paths start from. -/
def here : Path := ⟨.relative, []⟩

/-- What the slashes at the beginning of a text make the path start from. -/
def startOf (t : Text) : Start :=
  match (t.takeWhile (· == .scalar '/')).length with
  | 0 => .relative
  | 2 => .doubleRoot
  | _ => .root

/-- The path that a text writes. -/
def ofText (t : Text) : Path :=
  ⟨startOf t, (t.splitOn '/').filter fun part => part ≠ [] && part ≠ text "."⟩

/-- The text of a path. A path without start and components is written as a dot. -/
def toText (p : Path) : Text :=
  let body := List.intercalate (text "/") p.parts
  match p.start with
  | .relative => if p.parts.isEmpty then text "." else body
  | .root => text "/" ++ body
  | .doubleRoot => text "//" ++ body

/-- Whether a path does not depend on the current directory. -/
def isAbsolute (p : Path) : Bool := p.start ≠ .relative

/-- Whether a path holds the null character, which no path of a file can. -/
def hasNull (p : Path) : Bool := p.parts.any (·.contains '\x00')

/-- A path taken from a directory: an absolute one replaces it. -/
def join (directory p : Path) : Path :=
  if p.isAbsolute then p else ⟨directory.start, directory.parts ++ p.parts⟩

/-- The path without its last component. -/
def parent (p : Path) : Path := ⟨p.start, p.parts.dropLast⟩

end Path

end EnumText
