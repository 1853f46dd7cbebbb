import EnumText.Field

/-!
What is known of a declared type: its name, its doc comment and its fields.
-/

namespace EnumText

/-- A declared type. Only a struct type has fields. -/
structure TypeInfo where
  name : Text
  /-- The comments that document the type, with their markers. -/
  doc : List Text
  fields : List Field
deriving DecidableEq, Inhabited

end EnumText
