import EnumText.Assignments

/-!
Instances: the named members of a type whose values form a closed set.
-/

namespace EnumText

/-- Where an instance is defined. -/
inductive Origin where
  /-- A directive in the doc comment of the type. -/
  | directive
  /-- A variable of the package. -/
  | scan
deriving DecidableEq, Inhabited

/-- A named member of a type, with the literal expressions of the fields that it sets. -/
structure Instance where
  name : Text
  fields : Assignments
  origin : Origin
deriving DecidableEq, Inhabited

end EnumText
