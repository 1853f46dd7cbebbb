import EnumText.Casing
import EnumText.Field
import EnumText.Instance
import EnumText.Literal
import EnumText.Text.Display

/-!
Enumerations: a type with its instances and the way in which they are written as text.

- `Enumeration.text?` is the text that an instance is written as.
- `decodeKey` is what texts are compared by when they are read.
- `Enumeration.check` refuses instances that would be read from the same text.
- `Enumeration.view?` is all that the generated code shows of an enumeration.
-/

namespace EnumText

/-- A type to generate code for. -/
structure Enumeration where
  typeName : Text
  instances : List Instance
  casing : Casing
  /-- Whether to declare a variable for each instance. -/
  generateVars : Bool
  /-- The field whose value is the text of an instance, in place of its name. -/
  marshalField : Option Text
  /-- Whether the empty text is read as the zero value. -/
  allowZero : Bool
  /-- The fields of the type, in the order in which variables set them. -/
  fields : List Field
deriving DecidableEq, Inhabited

/-- Why the texts of an enumeration cannot be used. -/
inductive EncodingError where
  /-- An instance does not set the field that holds its text. -/
  | unset (field : Text)
  /-- Two instances are read from the same text. -/
  | duplicate (typeName first second key : Text)
deriving DecidableEq, Inhabited

/-- The message of an error. -/
def EncodingError.message : EncodingError → Text
  | .unset field => field.display
  | .duplicate typeName first second key =>
    text "instances " ++ first ++ text " and " ++ second ++ text " of " ++ typeName ++
      text " both encode to " ++ key.display

/-- What texts are compared by when they are read: lower case without double quotes. -/
def decodeKey (t : Text) : Text := t.lower.filter (· ≠ '"')

/-- The values that an instance gives to the fields of its type, in their order. -/
def Instance.initializer (i : Instance) (fields : List Field) : Text :=
  List.intercalate (text ", ") <| fields.filterMap fun f =>
    (i.fields.get? f.name).map fun value => f.name ++ text ": " ++ value

namespace Enumeration

/-- The text of an instance: what the marshal field denotes, or the name in the casing. -/
def text? (e : Enumeration) (i : Instance) : Except EncodingError Text :=
  match e.marshalField with
  | none | some [] => .ok (e.casing.transform i.name)
  | some field =>
    match i.fields.get? field with
    | none => .error (.unset field)
    | some literal => .ok ((Literal.unquote? literal).getD literal)

/-- The composite literal of the zero value. -/
def zeroLiteral (e : Enumeration) : Text := e.typeName ++ text "\x7b\x7d"

/-- Refuses an instance whose key one of the earlier owners has. -/
def checkFrom (e : Enumeration) (owners : List (Text × Text)) :
    List Instance → Except EncodingError Unit
  | [] => .ok ()
  | i :: rest => do
    let key := decodeKey (← e.text? i)
    match owners.lookup key with
    | some owner => .error (.duplicate e.typeName owner i.name key)
    | none => e.checkFrom ((key, i.name) :: owners) rest

/-- Refuses instances that are read from the same text. The zero value owns the empty text where it
may be read. -/
def check (e : Enumeration) : Except EncodingError Unit :=
  e.checkFrom (if e.allowZero then [([], e.zeroLiteral)] else []) e.instances

/-- What the generated code shows of an instance. -/
structure Member where
  name : Text
  /-- The name with spaces up to the longest name. -/
  paddedName : Text
  /-- The literal of its text. -/
  encoding : Text
  /-- The literal of the key that its text is read by. -/
  decodeKey : Text
  /-- The composite literal of its value. -/
  initializer : Text
deriving DecidableEq, Inhabited

/-- What the generated code shows of an enumeration. -/
structure View where
  typeName : Text
  generateVars : Bool
  allowZero : Bool
  members : List Member
deriving DecidableEq, Inhabited

/-- The length of the longest name. -/
def nameWidth (e : Enumeration) : Nat := e.instances.foldl (fun n i => max n i.name.length) 0

/-- What the generated code shows of an instance. -/
def member? (e : Enumeration) (i : Instance) : Except EncodingError Member := do
  let t ← e.text? i
  return {
    name := i.name
    paddedName := i.name.padRight e.nameWidth
    encoding := Literal.quote t
    decodeKey := Literal.quote (EnumText.decodeKey t)
    initializer := e.typeName ++ text "\x7b" ++ i.initializer e.fields ++ text "\x7d" }

/-- What the generated code shows of an enumeration. -/
def view? (e : Enumeration) : Except EncodingError View := do
  let members ← e.instances.mapM e.member?
  return ⟨e.typeName, e.generateVars, e.allowZero, members⟩

end Enumeration

end EnumText
