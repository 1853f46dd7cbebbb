import EnumText.Field
import EnumText.Instance
import EnumText.Literal
import EnumText.Note
import EnumText.Text.Blank

/-!
Directives: comment lines that define instances of the type below them, such as
`// enumr:Card Code:CC Label:"Credit Card"`.

- `splitArguments` splits a line at white space outside of double quotes.
- `readArguments` reads the arguments as keys with values.
- `readDirective` reads one comment line, and `readDirectives` a whole doc comment.
-/

namespace EnumText.Directive

/-- What the key is before the name of an instance. -/
def tag : Text := text "enumr"

/-- Where in an argument the reader is. -/
inductive Mode where
  | plain
  | quoted
  /-- After a backslash between quotes. -/
  | escaped
deriving DecidableEq, Inhabited

/-- The argument read so far, given backwards, unless it is empty. -/
def finishArgument (current : Text) : List Text :=
  if current.isEmpty then [] else [current.reverse]

/-- The arguments of a text that stands after an unfinished argument, which is given backwards. -/
def argumentsAfter (mode : Mode) (current : Text) : Text → List Text
  | [] => finishArgument current
  | c :: rest =>
    match mode with
    | .escaped => argumentsAfter .quoted (c :: current) rest
    | .quoted =>
      if c = '\\' then argumentsAfter .escaped (c :: current) rest
      else if c = '"' then argumentsAfter .plain (c :: current) rest
      else argumentsAfter .quoted (c :: current) rest
    | .plain =>
      if c = '"' then argumentsAfter .quoted (c :: current) rest
      else if c.isBlank then finishArgument current ++ argumentsAfter .plain [] rest
      else argumentsAfter .plain (c :: current) rest

/-- The arguments of a text: the runs between white space, where what stands between double quotes
is kept together. A quote that is not closed reaches to the end. -/
def splitArguments (t : Text) : List Text := argumentsAfter .plain [] t

/-- Records an argument: the text before the first colon is the key, and a value that is a literal
stands for what it denotes. An argument without a colon is passed over. -/
def recordArgument (values : Assignments) (argument : Text) : Noted Assignments :=
  match argument.cut? ':' with
  | none => do
    Noted.note (.skippedArgument argument)
    return values
  | some (key, value) => return values.put key ((Literal.unquote? value).getD value)

/-- The keys of arguments with their values. -/
def readArguments (arguments : List Text) : Noted Assignments :=
  arguments.foldlM recordArgument []

/-- The literal for a value of a field: a string is quoted, and all else is an expression. -/
def fieldLiteral (f : Field) (value : Text) : Text :=
  if f.kind = .string then Literal.quote value else value

/-- The fields that have a value, with literals. -/
def fieldLiterals (fields : List Field) (values : Assignments) : Assignments :=
  .ofList <| fields.filterMap fun f =>
    (values.get? f.name).map fun value => (f.name, fieldLiteral f value)

/-- The content of a comment line that holds a directive. -/
def content? (line : Text) : Option Text :=
  if line.startsWith (text "//") then
    let content := Text.strip (line.drop 2)
    if content.startsWith (tag ++ text ":") then some content else none
  else none

/-- The instance that a comment line defines. -/
def readDirective (fields : List Field) (line : Text) : Noted (Option Instance) :=
  match content? line with
  | none => return none
  | some content =>
    let arguments := splitArguments content
    if arguments.isEmpty then return none
    else do
      let values ← readArguments arguments
      match values.get? tag with
      | none | some [] => do
        Noted.note (.namelessDirective content)
        return none
      | some name => return some ⟨name, fieldLiterals fields (values.erase tag), .directive⟩

/-- The instances that the lines of a doc comment define. -/
def readDirectives (fields : List Field) : List Text → Noted (List Instance)
  | [] => return []
  | line :: rest => do
    let first ← readDirective fields line
    let others ← readDirectives fields rest
    return first.toList ++ others

end EnumText.Directive
