import EnumText.Casing

/-!
# Small letters and capitals

The tables of small letters and of capitals have no code point in common, which one pass along both
finds out (`Ranges.apart`). So no rune is a small letter and a capital
(`Rune.isUpper_eq_false_of_isLower`).
-/

namespace EnumText

namespace Ranges

/-- Whether two sets of code points have none in common, found by one pass along both. -/
def apart : Ranges → Ranges → Bool
  | [], _ => true
  | (first, last) :: rest, others =>
    match others.dropWhile (·.2 < first) with
    | [] => true
    | other :: more => last < other.1 && apart rest (other :: more)

/-- The ranges that end below a code point do not count for it. -/
theorem contains_dropWhile {r : Ranges} {first n : Nat} (le : first ≤ n)
    (here : r.contains n = true) : contains (r.dropWhile (·.2 < first)) n = true := by
  induction r with
  | nil => cases here
  | cons range r ih =>
    rw [List.dropWhile_cons]
    split
    · next below =>
      have below : range.2 < first := by simpa using below
      rw [contains] at here
      split at here
      · cases here
      rw [if_neg (by omega)] at here
      exact ih here
    · exact here

theorem le_of_contains {first last n : Nat} {r : Ranges}
    (here : contains ((first, last) :: r) n = true) : first ≤ n := by
  rw [contains] at here
  split at here
  · cases here
  · omega

theorem contains_eq_false_of_apart {r s : Ranges} {n : Nat} (apart : r.apart s = true)
    (here : r.contains n = true) : s.contains n = false := by
  induction r generalizing s with
  | nil => cases here
  | cons range r ih =>
    rw [Bool.eq_false_iff]
    intro there
    have there := contains_dropWhile (le_of_contains here) there
    rw [Ranges.apart] at apart
    cases left : s.dropWhile (·.2 < range.1) with
    | nil =>
      rw [left] at there
      cases there
    | cons other more =>
      rw [left] at apart there
      obtain ⟨before, apart⟩ := Bool.and_eq_true_iff.1 apart
      have before : range.2 < other.1 := of_decide_eq_true before
      have behind := le_of_contains there
      rw [contains, if_neg (by have := le_of_contains here; omega), if_neg (by omega)] at here
      exact Bool.eq_false_iff.1 (ih apart here) there

end Ranges

namespace Rune

variable {c : Rune}

/-- No rune is both a small letter and a capital. -/
theorem isUpper_eq_false_of_isLower (small : c.isLower = true) : c.isUpper = false := by
  have apart : Text.Case.lowers.apart Text.Case.uppers = true := by decide +kernel
  cases c with
  | scalar c => exact Ranges.contains_eq_false_of_apart apart small
  | stray b => rfl

theorem isLower_eq_false_of_isUpper (capital : c.isUpper = true) : c.isLower = false := by
  rw [Bool.eq_false_iff]
  intro small
  rw [isUpper_eq_false_of_isLower small] at capital
  cases capital

theorem isLower_eq_false_of_isDelimiter (delimiter : c.isDelimiter = true) : c.isLower = false := by
  have either : c = '_' ∨ c = ' ' := by simpa [isDelimiter] using delimiter
  rcases either with rfl | rfl <;> decide

end Rune

end EnumText
