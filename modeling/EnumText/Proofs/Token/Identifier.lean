import EnumText.Text.Blank
import EnumText.Token.Lexeme

/-!
# Identifiers

`Text.isIdentifier` says what can be read as one word: a letter or underscore, then letters, digits
and underscores; `Text.isName` leaves out the keywords. The runes of a word are no white space, and
none of the marks around it.
-/

namespace EnumText

open Lexeme (isIdentifierPart)

/-- Whether a text is one word of Go source: an identifier or a keyword. -/
def Text.isIdentifier : Text → Bool
  | [] => false
  | c :: rest => (c.isLetter || c == .scalar '_') && rest.all isIdentifierPart

theorem Ranges.exists_of_contains {ranges : Ranges} {n : Nat} (h : ranges.contains n = true) :
    ∃ r ∈ ranges, r.1 ≤ n ∧ n ≤ r.2 := by
  induction ranges with
  | nil => cases h
  | cons r rest ih =>
    obtain ⟨first, last⟩ := r
    simp only [Ranges.contains] at h
    split at h
    · cases h
    · next above =>
      split at h
      · next below => exact ⟨_, List.mem_cons_self, by omega, below⟩
      · rcases ih h with ⟨r, mem, inside⟩
        exact ⟨r, List.mem_cons_of_mem _ mem, inside⟩

/-- A code point is in no range if the first range that does not end below it starts above it. -/
theorem Ranges.contains_eq_false {ranges : Ranges} {low high n : Nat} (inside : low ≤ n ∧ n ≤ high)
    (gap : (ranges.dropWhile fun r => r.2 < low).head?.all fun r => high < r.1) :
    ranges.contains n = false := by
  induction ranges with
  | nil => rfl
  | cons r rest ih =>
    obtain ⟨first, last⟩ := r
    rw [Ranges.contains]
    by_cases below : last < low
    · rw [List.dropWhile_cons_of_pos (by simpa using below)] at gap
      rw [if_neg (by omega : ¬ n ≤ last), ih gap, ite_self]
    · rw [List.dropWhile_cons_of_neg (by simpa using below)] at gap
      have above : high < first := by simpa using gap
      rw [if_pos (by omega)]

/-- A code point is in the first range that does not end below it if that begins below it. -/
theorem Ranges.contains_of_covered {ranges : Ranges} (formed : ∀ r ∈ ranges, r.1 ≤ r.2)
    {low high n : Nat} (inside : low ≤ n ∧ n ≤ high)
    (cover : (ranges.dropWhile fun r => r.2 < low).head?.any fun r => r.1 ≤ low ∧ high ≤ r.2) :
    ranges.contains n = true := by
  induction ranges with
  | nil => cases cover
  | cons r rest ih =>
    obtain ⟨first, last⟩ := r
    obtain ⟨here, formed⟩ := List.forall_mem_cons.1 formed
    rw [Ranges.contains]
    by_cases below : last < low
    · rw [List.dropWhile_cons_of_pos (by simpa using below)] at cover
      rw [if_neg (by simp only at here; omega), if_neg (by omega), ih formed cover]
    · rw [List.dropWhile_cons_of_neg (by simpa using below)] at cover
      have around : first ≤ low ∧ high ≤ last := by simpa using cover
      rw [if_neg (by omega), if_pos (by omega)]

namespace Rune

/-- No letter is a digit. -/
theorem isDigit_of_isLetter {c : Rune} (h : c.isLetter = true) : c.isDigit = false := by
  have apart : ∀ d ∈ Text.Letter.digits,
      (Text.Letter.letters.dropWhile fun r => r.2 < d.1).head?.all fun r => d.2 < r.1 := by
    decide +kernel
  cases c with
  | stray b => rfl
  | scalar c =>
    cases digit : isDigit (.scalar c) with
    | false => rfl
    | true =>
      rcases Ranges.exists_of_contains digit with ⟨d, mem, inside⟩
      rw [isLetter, Ranges.contains_eq_false inside (apart d mem)] at h
      cases h

/-- Every digit has a numeric value. -/
theorem isAlphanumeric_of_isDigit {c : Rune} (h : c.isDigit = true) : c.isAlphanumeric = true := by
  have formed : ∀ r ∈ Text.Letter.numerals, r.1 ≤ r.2 := by decide +kernel
  have cover : ∀ d ∈ Text.Letter.digits,
      (Text.Letter.numerals.dropWhile fun r => r.2 < d.1).head?.any
        fun r => r.1 ≤ d.1 ∧ d.2 ≤ r.2 := by
    decide +kernel
  cases c with
  | stray b => cases h
  | scalar c =>
    obtain ⟨d, mem, inside⟩ := Ranges.exists_of_contains h
    rw [isAlphanumeric, Ranges.contains_of_covered formed inside (cover d mem), Bool.or_true]

theorem isIdentifierPart_of_isLetter {c : Rune} (h : c.isLetter = true) :
    isIdentifierPart c = true := by
  cases c with
  | stray b => cases h
  | scalar c =>
    simp only [isLetter] at h
    simp only [isIdentifierPart, isAlphanumeric, h, Bool.true_or]

/-- No white space stands in words. -/
theorem isBlank_of_isIdentifierPart {c : Rune} (h : isIdentifierPart c = true) :
    c.isBlank = false := by
  -- There are few white space code points, so each of them is looked up in the other tables.
  have apart : ∀ r ∈ Text.Blank.blanks, ∀ k ≤ r.2 - r.1, (r.1 + k ≠ '_'.toNat ∧
      Text.Letter.letters.contains (r.1 + k) = false) ∧
      Text.Letter.numerals.contains (r.1 + k) = false := by decide +kernel
  cases c with
  | stray b => rfl
  | scalar c =>
    cases blank : isBlank (.scalar c) with
    | false => rfl
    | true =>
    exfalso
    rcases Ranges.exists_of_contains blank with ⟨r, mem, low, high⟩
    rcases apart r mem (c.toNat - r.1) (by omega) with ⟨⟨underscore, letter⟩, numeral⟩
    rw [Nat.add_sub_cancel' low] at underscore letter numeral
    simp only [isIdentifierPart, isAlphanumeric, letter, numeral, Bool.or_self, Bool.false_or,
      beq_iff_eq, scalar.injEq] at h
    exact underscore (congrArg Char.toNat h)

end Rune

namespace Text

theorem isIdentifierPart_of_mem {t : Text} (h : isIdentifier t = true) :
    ∀ c ∈ t, isIdentifierPart c = true := by
  cases t with
  | nil => cases h
  | cons first rest =>
    simp only [isIdentifier, Bool.and_eq_true, Bool.or_eq_true, List.all_eq_true] at h
    intro c mem
    rcases List.mem_cons.1 mem with rfl | mem
    · rcases h.1 with letter | underscore
      · exact Rune.isIdentifierPart_of_isLetter letter
      · simp only [isIdentifierPart, underscore, Bool.or_true]
    · exact h.2 c mem

/-- A rune that cannot stand in words does not occur in an identifier. -/
theorem not_mem_of_isIdentifier {t : Text} (h : isIdentifier t = true) {c : Rune}
    (mark : isIdentifierPart c = false) : c ∉ t := by
  intro mem
  rw [isIdentifierPart_of_mem h c mem] at mark
  cases mark

/-- Whether a text is an identifier other than a keyword. -/
def isName (t : Text) : Bool := t.isIdentifier && !Token.keywords.contains t

theorem isName_iff {t : Text} :
    t.isName = true ↔ t.isIdentifier = true ∧ Lexeme.wordKind t = .identifier := by
  rw [isName, Bool.and_eq_true, Lexeme.wordKind]
  cases Token.keywords.contains t <;> simp

end Text

end EnumText
