import EnumText.Enumeration
import Mathlib.Data.List.TakeWhile

/-!
# Keys of joined texts

Lower case looks at neighbours in one place only: a capital sigma becomes the final small sigma
where a word ends with it. So the key of two joined texts is that of the first followed by that of
the second, unless such a sigma stands at the seam.

* `Text.lowerAfter_append`: the lower case of joined texts, each next to the other.
* `unquoted_lowerBetween_eq_iff`: what stands around a text does not change its key, as long as the
  same sigmas end words.
* `decodeKey_append_iff`: the seams that change no key.
-/

namespace EnumText

namespace Text

variable {before after s t b : Text}

/-! ## Ends of words -/

/-- Case rules look through all of a text. -/
def IsIgnorable (t : Text) : Prop := ∀ c ∈ t, c.isCaseIgnorable = true

/-- Whether a capital sigma between two texts ends a word. The first text is given backwards. -/
def endsWord (before after : Text) : Bool := meetsCased before && !meetsCased after

theorem isIgnorable_reverse : IsIgnorable t.reverse ↔ IsIgnorable t := by
  simp [IsIgnorable]

theorem meetsCased_of_isIgnorable (h : IsIgnorable s) : meetsCased (s ++ t) = meetsCased t := by
  have through : s.dropWhile Rune.isCaseIgnorable = [] := List.dropWhile_eq_nil_iff.2 h
  rw [meetsCased, List.dropWhile_append, through]
  rfl

theorem meetsCased_of_not_isIgnorable (h : ¬ IsIgnorable s) :
    meetsCased (s ++ t) = meetsCased s := by
  have stops : s.dropWhile Rune.isCaseIgnorable ≠ [] := fun all =>
    h (List.dropWhile_eq_nil_iff.1 all)
  obtain ⟨c, rest, same⟩ := List.exists_cons_of_ne_nil stops
  rw [meetsCased, meetsCased, List.dropWhile_append, same]
  rfl

/-- Further text takes a sigma into a word if nothing but what case rules look through stands
between them. -/
theorem endsWord_append_right_iff : endsWord before (t ++ b) = endsWord before t ↔
    ¬ (IsIgnorable t ∧ meetsCased before = true ∧ meetsCased b = true) := by
  unfold endsWord
  by_cases ignorable : IsIgnorable t
  · have none_after := meetsCased_of_isIgnorable (t := []) ignorable
    rw [List.append_nil] at none_after
    rw [meetsCased_of_isIgnorable ignorable, none_after]
    cases meetsCased before <;> cases meetsCased b <;> simp [ignorable, meetsCased]
  · rw [meetsCased_of_not_isIgnorable ignorable]
    simp [ignorable]

/-- Earlier text makes a sigma the end of a word in the same way. -/
theorem endsWord_append_left_iff : endsWord (t ++ b) after = endsWord t after ↔
    ¬ (IsIgnorable t ∧ meetsCased after = false ∧ meetsCased b = true) := by
  unfold endsWord
  by_cases ignorable : IsIgnorable t
  · have none_before := meetsCased_of_isIgnorable (t := []) ignorable
    rw [List.append_nil] at none_before
    rw [meetsCased_of_isIgnorable ignorable, none_before]
    cases meetsCased after <;> cases meetsCased b <;> simp [ignorable, meetsCased]
  · rw [meetsCased_of_not_isIgnorable ignorable]
    simp [ignorable]

/-! ## Lower case next to other text -/

/-- Lower case of a rune between two texts, the first of which is given backwards. -/
def lowerAt (before : Text) (c : Rune) (after : Text) : Text :=
  if c = 'Σ' then if endsWord before after then text "ς" else text "σ" else c.lower

/-- Lower case of a text between two others, the first of which is given backwards. -/
def lowerBetween (before : Text) : Text → Text → Text
  | [], _ => []
  | c :: t, after => lowerAt before c (t ++ after) ++ lowerBetween (c :: before) t after

theorem lowerAfter_cons (before : Text) (c : Rune) (t : Text) :
    lowerAfter before (c :: t) = lowerAt before c t ++ lowerAfter (c :: before) t := rfl

theorem lowerAfter_eq (before t : Text) : lowerAfter before t = lowerBetween before t [] := by
  induction t generalizing before with
  | nil => rfl
  | cons c t ih => rw [lowerBetween, lowerAfter_cons, List.append_nil, ih]

theorem lowerAfter_append (before a b : Text) : lowerAfter before (a ++ b) =
    lowerBetween before a b ++ lowerAfter (a.reverse ++ before) b := by
  induction a generalizing before with
  | nil => rfl
  | cons c a ih =>
    rw [List.cons_append, lowerAfter_cons, ih, lowerBetween, List.reverse_cons, List.append_assoc,
      List.append_assoc]
    rfl

end Text

open Text

variable {before before' after after' t : Text} {c : Rune}

/-! ## Keys -/

/-- A text as it counts for a key. -/
def unquoted (t : Text) : Text := t.filter (· ≠ '"')

theorem unquoted_append (a b : Text) : unquoted (a ++ b) = unquoted a ++ unquoted b :=
  List.filter_append ..

/-- The small sigmas count as one rune each, and they differ. -/
theorem unquoted_lowerAt (before before' : Text) (c : Rune) (after after' : Text) :
    (unquoted (lowerAt before c after)).length = (unquoted (lowerAt before' c after')).length ∧
    (unquoted (lowerAt before c after) = unquoted (lowerAt before' c after') ↔
      (c = 'Σ' → endsWord before after = endsWord before' after')) := by
  unfold lowerAt
  by_cases sigma : c = 'Σ'
  · rw [if_pos sigma, if_pos sigma]
    simp only [sigma, forall_const]
    cases endsWord before after <;> cases endsWord before' after' <;> decide
  · rw [if_neg sigma, if_neg sigma]
    simp [sigma]

theorem length_unquoted_lowerBetween : (unquoted (lowerBetween before t after)).length =
    (unquoted (lowerBetween before' t after')).length := by
  induction t generalizing before before' with
  | nil => rfl
  | cons c t ih =>
    rw [lowerBetween, lowerBetween, unquoted_append, unquoted_append, List.length_append,
      List.length_append, ih, (unquoted_lowerAt before before' c _ _).1]

/-- What stands around a text does not change its key, as long as the same sigmas end words. -/
theorem unquoted_lowerBetween_eq_iff :
    unquoted (lowerBetween before t after) = unquoted (lowerBetween before' t after') ↔
      ∀ word rest, t = word ++ .scalar 'Σ' :: rest →
        endsWord (word.reverse ++ before) (rest ++ after) =
          endsWord (word.reverse ++ before') (rest ++ after') := by
  induction t generalizing before before' with
  | nil => simp [lowerBetween]
  | cons c t ih =>
    obtain ⟨length, first⟩ := unquoted_lowerAt before before' c (t ++ after) (t ++ after')
    have parts : unquoted (lowerBetween before (c :: t) after) =
        unquoted (lowerBetween before' (c :: t) after') ↔
          unquoted (lowerAt before c (t ++ after)) = unquoted (lowerAt before' c (t ++ after')) ∧
          unquoted (lowerBetween (c :: before) t after) =
            unquoted (lowerBetween (c :: before') t after') := by
      rw [lowerBetween, lowerBetween, unquoted_append, unquoted_append]
      exact ⟨fun same => List.append_inj same length, fun same => congrArg₂ _ same.1 same.2⟩
    rw [parts, first, ih]
    constructor
    · rintro ⟨here, later⟩ word rest same
      cases word with
      | nil =>
        obtain ⟨rfl, rfl⟩ := List.cons.inj same
        exact here rfl
      | cons d word =>
        obtain ⟨rfl, rfl⟩ := List.cons.inj same
        rw [List.reverse_cons, List.append_assoc, List.append_assoc]
        exact later word rest rfl
    · intro all
      refine ⟨fun sigma => all [] t (by rw [sigma]; rfl), fun word rest same => ?_⟩
      have here := all (c :: word) rest (by rw [same]; rfl)
      rwa [List.reverse_cons, List.append_assoc, List.append_assoc] at here

/-- A text ends with a word whose last letter is a capital sigma. -/
def EndsWithSigma (t : Text) : Prop :=
  ∃ word through, t = word ++ .scalar 'Σ' :: through ∧ IsIgnorable through ∧
    meetsCased word.reverse = true

/-- A text begins with a capital sigma that no further letter of a word follows. -/
def BeginsWithSigma (t : Text) : Prop :=
  ∃ through rest, t = through ++ .scalar 'Σ' :: rest ∧ IsIgnorable through ∧ meetsCased rest = false

/-- The key of two joined texts is that of the first followed by that of the second, exactly if the
second does not go on with a word that ends in a capital sigma in the first, and does not begin with
a capital sigma that ends a word of the first. -/
theorem decodeKey_append_iff (a b : Text) :
    decodeKey (a ++ b) = decodeKey a ++ decodeKey b ↔
      ¬ (EndsWithSigma a ∧ meetsCased b = true) ∧
        ¬ (BeginsWithSigma b ∧ meetsCased a.reverse = true) := by
  have own (t : Text) : decodeKey t = unquoted (lowerBetween [] t []) :=
    congrArg unquoted (lowerAfter_eq [] t)
  have joined : decodeKey (a ++ b) =
      unquoted (lowerBetween [] a b) ++ unquoted (lowerBetween a.reverse b []) := by
    have parts := lowerAfter_append [] a b
    rw [List.append_nil, lowerAfter_eq a.reverse] at parts
    exact (congrArg unquoted parts).trans (unquoted_append _ _)
  have apart : decodeKey (a ++ b) = decodeKey a ++ decodeKey b ↔
      unquoted (lowerBetween [] a b) = unquoted (lowerBetween [] a []) ∧
        unquoted (lowerBetween a.reverse b []) = unquoted (lowerBetween [] b []) := by
    rw [joined, own, own]
    exact ⟨fun same => List.append_inj same length_unquoted_lowerBetween,
      fun same => congrArg₂ _ same.1 same.2⟩
  rw [apart, unquoted_lowerBetween_eq_iff, unquoted_lowerBetween_eq_iff]
  simp only [List.append_nil, endsWord_append_right_iff, endsWord_append_left_iff,
    isIgnorable_reverse]
  refine and_congr ⟨?_, ?_⟩ ⟨?_, ?_⟩
  · rintro all ⟨⟨word, through, same, ignorable, cased⟩, further⟩
    exact all word through same ⟨ignorable, cased, further⟩
  · rintro seam word through same ⟨ignorable, cased, further⟩
    exact seam ⟨⟨word, through, same, ignorable, cased⟩, further⟩
  · rintro all ⟨⟨through, rest, same, ignorable, ends⟩, earlier⟩
    exact all through rest same ⟨ignorable, ends, earlier⟩
  · rintro seam through rest same ⟨ignorable, ends, earlier⟩
    exact seam ⟨⟨through, rest, same, ignorable, ends⟩, earlier⟩

/-- The last letter of a word has another key than the same letter by itself. -/
theorem decodeKey_sigma : decodeKey (text "A") = text "a" ∧ decodeKey (text "Σ") = text "σ" ∧
    decodeKey (text "A" ++ text "Σ") = text "aς" := by decide

end EnumText
