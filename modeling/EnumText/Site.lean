import EnumText.Path

/-!
Places in source files, as messages show them: the file with line and column, then the line itself
with a marker under the column.
-/

namespace EnumText

/-- A place in a source file. Lines and columns are counted from one. -/
structure Site where
  file : Path
  line : Int
  column : Int
  /-- The line of the file, if the file has it. -/
  snippet : Option Text
deriving DecidableEq, Inhabited

namespace Site

/-- A line of source after its number, and the marker under one of its columns. -/
def excerpt (line column : Int) (snippet : Text) : Text :=
  let margin := Text.padLeft 4 (Text.ofInt line) ++ text " | "
  let marker := Text.spaces (margin.length + column - 1).toNat ++ text "^^^"
  margin ++ snippet ++ text "\n" ++ marker

/-- A place in a form for messages. -/
def format (s : Site) : Text :=
  let place := s.file.toText ++ text ":" ++ Text.ofInt s.line ++ text ":" ++ Text.ofInt s.column
  match s.snippet with
  | none => place
  | some snippet => place ++ text "\n" ++ excerpt s.line s.column snippet

/-- A message about a place. -/
def explain (s : Site) (message : Text) : Text := s.format ++ text "\n" ++ message

end Site

end EnumText
