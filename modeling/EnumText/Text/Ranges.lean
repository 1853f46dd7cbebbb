/-!
Sets of code points as ascending lists of closed ranges, for the character classes that Unicode
defines by a table.
-/

namespace EnumText

/-- A set of code points: disjoint closed ranges in ascending order. -/
abbrev Ranges := List (Nat × Nat)

namespace Ranges

/-- Whether a code point lies in one of the ranges. The search ends at the first range that starts
above the code point. -/
def contains : Ranges → Nat → Bool
  | [], _ => false
  | (first, last) :: rest, n =>
    if n < first then false else if n ≤ last then true else contains rest n

end Ranges

end EnumText
