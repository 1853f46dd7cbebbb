/-!
Case mappings as a list of shifts: runs of evenly spaced code points whose images lie at one
distance.
-/

namespace EnumText.Text.Case

/-- Every `step`-th code point from `first` to `last` is mapped by adding `distance`. -/
structure Shift where
  first : Nat
  last : Nat
  step : Nat
  distance : Int

/-- The image of a code point under the first shift that applies to it. -/
def Shift.find? : List Shift → Nat → Option Nat
  | [], _ => none
  | s :: rest, n =>
    if n < s.first then none
    else if n ≤ s.last ∧ (n - s.first) % s.step = 0 then some (n + s.distance).toNat
    else find? rest n

end EnumText.Text.Case
