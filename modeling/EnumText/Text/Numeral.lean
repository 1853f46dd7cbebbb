import EnumText.Text.Rune

/-!
Reading of digits in a base up to sixteen.
-/

namespace EnumText

/-- The value of a hexadecimal digit. -/
def Rune.hexDigit? : Rune → Option Nat
  | .scalar c =>
    if '0' ≤ c ∧ c ≤ '9' then some (c.toNat - '0'.toNat)
    else if 'a' ≤ c ∧ c ≤ 'f' then some (c.toNat - 'a'.toNat + 10)
    else if 'A' ≤ c ∧ c ≤ 'F' then some (c.toNat - 'A'.toNat + 10)
    else none
  | .stray _ => none

/-- The value of a digit, if it is below a base. -/
def Rune.digitOf? (base : Nat) (c : Rune) : Option Nat := c.hexDigit?.filter (· < base)

namespace Text

/-- The value of digits, all of which have to be below the base. -/
def number? (base : Nat) (digits : Text) : Option Nat :=
  digits.foldlM (fun value c => (c.digitOf? base).map (value * base + ·)) 0

/-- The number that the first `width` runes of a text write in a base. -/
def numberOf? (base width : Nat) (t : Text) : Option Nat :=
  let digits := t.take width
  if digits.length = width then number? base digits else none

end Text

end EnumText
