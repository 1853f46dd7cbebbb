import EnumText.Text.Rune

/-!
The shortest decimal of a binary floating-point number: the fewest digits that read back to it, and
of the decimals with so few digits the nearest.

- `Decimal` is a number of digits times a power of ten.
- `Rounding` is the interval of the numbers that round to a given one, over a common denominator.
- `Decimal.shortest` searches the grids of one digit, two digits and so on.
- `Decimal.toText` lays a decimal out.
-/

namespace EnumText

/-- The number `digits * 10 ^ exponent`. -/
structure Decimal where
  digits : Nat
  exponent : Int
deriving DecidableEq, Inhabited

/-- A positive number `value / den` with the ends of the interval of the numbers that round to it,
and whether the ends belong to it. -/
structure Rounding where
  low : Nat
  value : Nat
  high : Nat
  den : Nat
  closed : Bool
deriving DecidableEq, Inhabited

namespace Rounding

/-- The interval of a positive finite number with the given exponent and fraction bits. Below a
power of two the numbers lie twice as close. -/
def ofBits (exponent fraction : Nat) : Rounding :=
  let m := if exponent = 0 then fraction else Nat.pow 2 52 + fraction
  let below := if fraction = 0 ∧ 1 < exponent then 1 else 2
  let q := max exponent 1
  let scale := Nat.pow 2 (q - 1077)
  ⟨(4 * m - below) * scale, 4 * m * scale, (4 * m + 2) * scale, Nat.pow 2 (1077 - q), m % 2 = 0⟩

/-- Whether a decimal lies in the interval. -/
def contains (r : Rounding) (d : Decimal) : Bool :=
  let n := d.digits * Nat.pow 10 d.exponent.toNat * r.den
  let unit := Nat.pow 10 (-d.exponent).toNat
  if r.closed then r.low * unit ≤ n && n ≤ r.high * unit
  else r.low * unit < n && n < r.high * unit

/-- The least exponent of a power of ten above the number. -/
def magnitude (r : Rounding) : Int :=
  if r.den ≤ r.value then (Nat.toDigits 10 (r.value / r.den)).length
  else 1 - (Nat.toDigits 10 (r.den / r.value)).length

/-- The decimal nearest to the number among its neighbours on a grid that lie in the interval; of
two equally near ones the even. -/
def nearest? (r : Rounding) (exponent : Int) : Option Decimal :=
  let n := r.value * Nat.pow 10 (-exponent).toNat
  let unit := r.den * Nat.pow 10 exponent.toNat
  let lower : Decimal := ⟨n / unit, exponent⟩
  let upper : Decimal := ⟨n / unit + 1, exponent⟩
  let twice := 2 * (n % unit)
  match r.contains lower, r.contains upper with
  | true, true =>
    if twice < unit ∨ (twice = unit ∧ lower.digits % 2 = 0) then some lower else some upper
  | true, false => some lower
  | false, true => some upper
  | false, false => none

end Rounding

namespace Decimal

/-- The decimal without the zeros at the end of its digits. -/
def strip : Nat → Decimal → Decimal
  | 0, d => d
  | fuel + 1, d =>
    if d.digits ≠ 0 ∧ d.digits % 10 = 0 then strip fuel ⟨d.digits / 10, d.exponent + 1⟩ else d

/-- The shortest decimal that reads back to a positive finite number. Seventeen digits always
suffice. -/
def shortest (r : Rounding) : Decimal :=
  let grids := (List.range 17).map fun n => r.magnitude - (n + 1 : Nat)
  match grids.findSome? r.nearest? with
  | some d => d.strip 20
  | none => ⟨r.value / r.den, 0⟩

/-- A decimal in positional notation where the leading digit stands for a power of ten from the
fourth after the point to the fifteenth before it, with at least one digit on both sides of the
point, and otherwise with an exponent of at least two digits and a sign. -/
def toText (d : Decimal) : Text :=
  let digits := Text.ofNat d.digits
  let point : Int := digits.length + d.exponent
  if -4 < point ∧ point ≤ 16 then
    if point ≤ 0 then
      text "0." ++ List.replicate (-point).toNat (.scalar '0') ++ digits
    else
      let whole := digits.take point.toNat ++
        List.replicate (point.toNat - digits.length) (.scalar '0')
      let places := digits.drop point.toNat
      whole ++ text "." ++ (if places.isEmpty then text "0" else places)
  else
    let exponent := point - 1
    let places := digits.drop 1
    digits.take 1 ++ (if places.isEmpty then [] else text "." ++ places) ++
      (if exponent < 0 then text "e-" else text "e+") ++
      (if exponent.natAbs < 10 then text "0" else []) ++ Text.ofNat exponent.natAbs

end Decimal

/-- A floating-point number by its shortest decimal. -/
def Text.ofFloat (x : Float) : Text :=
  let bits := x.toBits.toNat
  let sign := if Nat.pow 2 63 ≤ bits then text "-" else []
  let exponent := bits / Nat.pow 2 52 % Nat.pow 2 11
  let fraction := bits % Nat.pow 2 52
  if exponent = Nat.pow 2 11 - 1 then
    if fraction = 0 then sign ++ text "inf" else text "nan"
  else if exponent = 0 ∧ fraction = 0 then sign ++ text "0.0"
  else sign ++ (Decimal.shortest (.ofBits exponent fraction)).toText

end EnumText
