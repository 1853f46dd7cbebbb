import EnumText.Assignments
import EnumText.Field

/-!
Variable declarations and the composite literals on their right-hand sides.

- `Composite` is a literal of a plain type name; its elements have keys or stand at positions.
- `Composite.fieldValues` reads the elements as values of fields.
- `Binding` is one variable declaration.
-/

namespace EnumText

/-- An element of a composite literal. -/
structure Composite.Element where
  /-- The key before the colon, if there is one. -/
  key : Option Text
  /-- The expression as it is written. -/
  value : Text
deriving DecidableEq, Inhabited

/-- A composite literal of a named type. -/
structure Composite where
  typeName : Text
  elements : List Composite.Element
deriving DecidableEq, Inhabited

namespace Composite

/-- Whether an element has a key, which makes the literal one of keyed elements. -/
def isKeyed (c : Composite) : Bool := c.elements.any (·.key.isSome)

/-- The values that a literal gives to fields: by key, where keys that name no field are ignored, or
else by position. -/
def fieldValues (c : Composite) (fields : List Field) : Assignments :=
  if c.isKeyed then
    .ofList <| c.elements.filterMap fun e =>
      e.key.bind fun key => if fields.any (·.name = key) then some (key, e.value) else none
  else .ofList ((fields.zip c.elements).map fun (f, e) => (f.name, e.value))

end Composite

/-- A declaration of variables, with one value for each right-hand expression. An expression other
than a composite literal of a named type has no value here. -/
structure Binding where
  names : List Text
  values : List (Option Composite)
deriving DecidableEq, Inhabited

end EnumText
