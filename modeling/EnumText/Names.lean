import EnumText.Text.Rune

/-!
Lists of names that should be different.
-/

namespace EnumText

/-- The first name that is among those seen or repeats an earlier one. -/
def firstRepeatedAfter (seen : List Text) : List Text → Option Text
  | [] => none
  | name :: rest =>
    if seen.contains name then some name else firstRepeatedAfter (name :: seen) rest

/-- The first name that repeats an earlier one. -/
def firstRepeated? (names : List Text) : Option Text := firstRepeatedAfter [] names

end EnumText
