import EnumText.Text.Rune

/-!
Fields of a struct type, and the kind of values that a field holds.
-/

namespace EnumText

/-- What sort of value a field holds, as far as its type expression tells. -/
inductive FieldKind where
  | string
  | bool
  | int
  | float
  | other
deriving DecidableEq, Inhabited

/-- A named field of a struct type. -/
structure Field where
  name : Text
  /-- The type expression as it is written. -/
  type : Text
deriving DecidableEq, Inhabited

namespace Field

/-- The names of the integer types. -/
def intTypes : List Text :=
  ["int", "int8", "int16", "int32", "int64", "uint", "uint8", "uint16", "uint32", "uint64",
    "uintptr", "byte", "rune"].map text

/-- The names of the floating-point types. -/
def floatTypes : List Text := ["float32", "float64"].map text

/-- The kind of a type expression. Only the names of basic types have a kind of their own. -/
def kindOf (type : Text) : FieldKind :=
  if type = text "string" then .string
  else if type = text "bool" then .bool
  else if intTypes.contains type then .int
  else if floatTypes.contains type then .float
  else .other

/-- The kind of a field. -/
def kind (f : Field) : FieldKind := kindOf f.type

end Field

end EnumText
