import EnumText.Casing
import EnumText.Text.Letter

/-!
# The case of ASCII texts

Every rune of ASCII has one small and one capital form, which both have the same forms again
(`Rune.IsAscii.forms`). So the case mappings go rune by rune.

* `Text.lower_of_isAscii`, `Text.upper_of_isAscii`, `Text.capitalize_of_isAscii`: the mappings.
* `Text.lower_lower`, `Text.lower_upper`, `Text.lower_capitalize`: a text in another case has the
  same lower case.
* `Text.upper_lower`, `Text.capitalize_lower`: the other mappings look at the lower case alone.
-/

namespace EnumText

namespace Rune

/-- A rune is one of the first 128 code points. -/
def IsAscii (c : Rune) : Prop := c.rank < 128

instance (c : Rune) : Decidable c.IsAscii := inferInstanceAs (Decidable (c.rank < 128))

/-- The first rune of the lower case. -/
def small (c : Rune) : Rune := c.lower.headD c

/-- The first rune of the upper case. -/
def capital (c : Rune) : Rune := c.upper.headD c

/-- A rune has one small form and one capital form. They have the same forms, and a letter is in
lower case in the one and in upper case in the other. -/
structure HasForms (c : Rune) : Prop where
  lower : c.lower = [c.small]
  upper : c.upper = [c.capital]
  small_small : c.small.small = c.small
  small_capital : c.capital.small = c.small
  capital_small : c.small.capital = c.capital
  isUpper_small : c.small.isUpper = false
  isLower_capital : c.capital.isLower = false
  isLower_small : c.isLetter = true → c.small.isLower = true
  isUpper_capital : c.isLetter = true → c.capital.isUpper = true
  isDelimiter_small : c.small.isDelimiter = c.isDelimiter
  isDelimiter_capital : c.capital.isDelimiter = c.isDelimiter

variable {c : Rune}

/-- What holds of each of the first 128 code points holds of ASCII. -/
theorem IsAscii.of_all {p : Rune → Prop} (h : c.IsAscii) (all : ∀ n < 128, p (ofCode n)) : p c := by
  cases c with
  | scalar c =>
    have code := all c.toNat h
    rwa [ofCode, Char.ofNat_toNat] at code
  | stray b =>
    have far : 0xDC80 + b.val < 128 := h
    omega

theorem IsAscii.forms (h : c.IsAscii) : c.HasForms := by
  obtain ⟨h₁, h₂, h₃, h₄, h₅, h₆, h₇, h₈, h₉, h₁₀, h₁₁⟩ := h.of_all (p := fun c =>
    c.lower = [c.small] ∧ c.upper = [c.capital] ∧ c.small.small = c.small ∧
    c.capital.small = c.small ∧ c.small.capital = c.capital ∧
    c.small.isUpper = false ∧ c.capital.isLower = false ∧
    (c.isLetter = true → c.small.isLower = true) ∧ (c.isLetter = true → c.capital.isUpper = true) ∧
    c.small.isDelimiter = c.isDelimiter ∧ c.capital.isDelimiter = c.isDelimiter)
    (by decide +kernel)
  exact ⟨h₁, h₂, h₃, h₄, h₅, h₆, h₇, h₈, h₉, h₁₀, h₁₁⟩

theorem IsAscii.small (h : c.IsAscii) : c.small.IsAscii :=
  h.of_all (p := fun c => c.small.IsAscii) (by decide)

theorem IsAscii.capital (h : c.IsAscii) : c.capital.IsAscii :=
  h.of_all (p := fun c => c.capital.IsAscii) (by decide +kernel)

end Rune

namespace Text

/-- A text of ASCII. -/
def IsAscii (t : Text) : Prop := ∀ c ∈ t, c.IsAscii

instance (t : Text) : Decidable t.IsAscii := inferInstanceAs (Decidable (∀ c ∈ t, c.IsAscii))

variable {c : Rune} {s t : Text}

theorem isAscii_cons : IsAscii (c :: t) ↔ c.IsAscii ∧ t.IsAscii := List.forall_mem_cons

theorem IsAscii.map_small (h : t.IsAscii) : IsAscii (t.map Rune.small) :=
  List.forall_mem_map.2 fun c mem => (h c mem).small

theorem IsAscii.map_capital (h : t.IsAscii) : IsAscii (t.map Rune.capital) :=
  List.forall_mem_map.2 fun c mem => (h c mem).capital

/-! ## The mappings -/

theorem lowerAfter_of_isAscii (h : t.IsAscii) (before : Text) :
    lowerAfter before t = t.map Rune.small := by
  induction t generalizing before with
  | nil => rfl
  | cons c t ih =>
    obtain ⟨first, others⟩ := isAscii_cons.1 h
    have other : c ≠ .scalar 'Σ' := by
      intro same
      exact absurd (same ▸ first) (by decide)
    rw [lowerAfter, if_neg other, first.forms.lower, ih others]
    rfl

theorem lower_of_isAscii (h : t.IsAscii) : lower t = t.map Rune.small :=
  lowerAfter_of_isAscii h []

theorem upper_of_isAscii (h : t.IsAscii) : upper t = t.map Rune.capital := by
  induction t with
  | nil => rfl
  | cons c t ih =>
    obtain ⟨first, others⟩ := isAscii_cons.1 h
    have later : t.flatMap Rune.upper = t.map Rune.capital := ih others
    rw [upper, List.flatMap_cons, first.forms.upper, later]
    rfl

theorem capitalize_of_isAscii (h : IsAscii (c :: t)) :
    capitalize (c :: t) = c.capital :: t.map Rune.small := by
  obtain ⟨first, others⟩ := isAscii_cons.1 h
  rw [capitalize, first.forms.upper, lower_of_isAscii others]
  rfl

theorem IsAscii.lower (h : t.IsAscii) : t.lower.IsAscii := lower_of_isAscii h ▸ h.map_small

theorem IsAscii.upper (h : t.IsAscii) : t.upper.IsAscii := upper_of_isAscii h ▸ h.map_capital

theorem IsAscii.capitalize (h : t.IsAscii) : IsAscii (capitalize t) := by
  cases t with
  | nil => exact h
  | cons c t =>
    obtain ⟨first, others⟩ := isAscii_cons.1 h
    rw [capitalize_of_isAscii h]
    exact isAscii_cons.2 ⟨first.capital, others.map_small⟩

/-! ## One mapping after the other -/

/-- Forms of a rune with the same small form are forms of a text with the same lower case. -/
theorem map_map_of_isAscii (h : t.IsAscii) {f g k : Rune → Rune}
    (each : ∀ c : Rune, c.HasForms → g (f c) = k c) : (t.map f).map g = t.map k := by
  rw [List.map_map]
  exact List.map_congr_left fun c mem => each c (h c mem).forms

theorem lower_lower (h : t.IsAscii) : lower (lower t) = lower t := by
  rw [lower_of_isAscii h, lower_of_isAscii h.map_small]
  exact map_map_of_isAscii h fun _ forms => forms.small_small

theorem lower_upper (h : t.IsAscii) : lower (upper t) = lower t := by
  rw [upper_of_isAscii h, lower_of_isAscii h, lower_of_isAscii h.map_capital]
  exact map_map_of_isAscii h fun _ forms => forms.small_capital

theorem lower_capitalize (h : t.IsAscii) : lower (capitalize t) = lower t := by
  cases t with
  | nil => rfl
  | cons c t =>
    obtain ⟨first, others⟩ := isAscii_cons.1 h
    rw [capitalize_of_isAscii h, lower_of_isAscii h,
      lower_of_isAscii (isAscii_cons.2 ⟨first.capital, others.map_small⟩), List.map_cons,
      first.forms.small_capital, map_map_of_isAscii others fun _ forms => forms.small_small]
    rfl

theorem upper_lower (h : t.IsAscii) : upper (lower t) = upper t := by
  rw [lower_of_isAscii h, upper_of_isAscii h, upper_of_isAscii h.map_small]
  exact map_map_of_isAscii h fun _ forms => forms.capital_small

theorem capitalize_lower (h : t.IsAscii) : capitalize (lower t) = capitalize t := by
  rw [lower_of_isAscii h]
  cases t with
  | nil => rfl
  | cons c t =>
    obtain ⟨first, others⟩ := isAscii_cons.1 h
    rw [List.map_cons, capitalize_of_isAscii h, capitalize_of_isAscii h.map_small,
      first.forms.capital_small, map_map_of_isAscii others fun _ forms => forms.small_small]

end Text

end EnumText
