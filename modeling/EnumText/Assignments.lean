import EnumText.Text.Rune

/-!
Values given to keys. A key has one value: a later value replaces an earlier one in its place.
-/

namespace EnumText

/-- Keys with their values, in the order in which the keys were first given one. -/
abbrev Assignments := List (Text × Text)

namespace Assignments

/-- The value of a key. -/
def get? (values : Assignments) (key : Text) : Option Text := values.lookup key

/-- Whether a key has a value. -/
def has (values : Assignments) (key : Text) : Bool := (values.get? key).isSome

/-- Gives a key a value, in place of the one it had. -/
def put (key value : Text) : Assignments → Assignments
  | [] => [(key, value)]
  | (k, v) :: rest => if k = key then (k, value) :: rest else (k, v) :: put key value rest

/-- The values after giving each of a list of keys its value in turn. -/
def ofList (pairs : List (Text × Text)) : Assignments :=
  pairs.foldl (fun values (key, value) => put key value values) []

/-- The values of the other keys. -/
def erase (values : Assignments) (key : Text) : Assignments := values.filter (·.1 ≠ key)

end Assignments

end EnumText
