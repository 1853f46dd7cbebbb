import Mathlib.Algebra.Group.Nat.Defs
import Mathlib.Data.List.Induction
import EnumText.Text.Numeral

/-!
# Digits and the number that they write

`Text.Writes` says what number the digits of a base write. Digits above nine are letters, of either
case.

* `Text.numberOf?_eq_some_iff`: a number is read exactly where digits write it.
* `Text.writes_hex`: the digits that `Text.hex` writes in a sufficient width write the number, and
  `Text.exists_digitChar_of_mem_hex` says which runes they are.
-/

namespace EnumText

/-- A lower-case hexadecimal digit is read back. -/
theorem Rune.digitOf?_digitChar {d : Nat} (h : d < 16) :
    (Rune.scalar d.digitChar).digitOf? 16 = some d := by
  have all : ∀ d < 16, (Rune.scalar d.digitChar).digitOf? 16 = some d := by decide
  exact all d h

namespace Text

/-- One more digit multiplies by the base and adds. -/
theorem number?_concat (base : Nat) (digits : Text) (c : Rune) :
    number? base (digits ++ [c]) =
      (number? base digits).bind fun value => (c.digitOf? base).map (value * base + ·) := by
  rw [number?, List.foldlM_append]
  simp only [List.foldlM_cons, List.foldlM_nil, bind_pure]
  rfl

theorem number?_toDigits (n : Nat) :
    number? 16 ((Nat.toDigits 16 n).map Rune.scalar) = some n := by
  induction n using Nat.strongRecOn with
  | ind n ih =>
    rcases Nat.lt_or_ge n 16 with small | large
    · rw [Nat.toDigits_of_lt_base small, List.map_singleton, ← List.nil_append [Rune.scalar _],
        number?_concat, Rune.digitOf?_digitChar small]
      simp [number?]
    · rw [Nat.toDigits_of_base_le (by decide) large, List.map_append, List.map_singleton,
        number?_concat, ih (n / 16) (by omega), Rune.digitOf?_digitChar (Nat.mod_lt n (by decide))]
      simp only [Option.bind_some, Option.map_some, Option.some.injEq]
      omega

/-- Zeros in front do not change a number. -/
theorem number?_zeros (k : Nat) (digits : Text) :
    number? 16 (List.replicate k (.scalar '0') ++ digits) = number? 16 digits := by
  induction k with
  | zero => rfl
  | succ k ih =>
    rw [List.replicate_succ, List.cons_append, ← ih]
    rfl

theorem exists_digitChar_of_mem_toDigits (n : Nat) {c : Char} (h : c ∈ Nat.toDigits 16 n) :
    ∃ d < 16, c = d.digitChar := by
  induction n using Nat.strongRecOn with
  | ind n ih =>
    rcases Nat.lt_or_ge n 16 with small | large
    · rw [Nat.toDigits_of_lt_base small, List.mem_singleton] at h
      exact ⟨n, small, h⟩
    · rw [Nat.toDigits_of_base_le (by decide) large, List.mem_append, List.mem_singleton] at h
      rcases h with earlier | last
      · exact ih (n / 16) (by omega) earlier
      · exact ⟨n % 16, Nat.mod_lt n (by decide), last⟩

/-- What `hex` writes are hexadecimal digits. -/
theorem exists_digitChar_of_mem_hex {width n : Nat} {c : Rune} (h : c ∈ hex width n) :
    ∃ d < 16, c = .scalar d.digitChar := by
  rcases List.mem_append.1 h with zero | digit
  · exact ⟨0, by decide, List.eq_of_mem_replicate zero⟩
  · rcases List.mem_map.1 digit with ⟨c, mem, rfl⟩
    rcases exists_digitChar_of_mem_toDigits n mem with ⟨d, small, rfl⟩
    exact ⟨d, small, rfl⟩

theorem length_hex {width n : Nat} (positive : 0 < width) (h : n < 16 ^ width) :
    (hex width n).length = width := by
  have short := (Nat.length_toDigits_le_iff (by decide : 1 < 16) positive).2 h
  simp only [hex, List.length_append, List.length_replicate, List.length_map]
  omega

end Text

/-! ## Which digits are read -/

/-- A rune is the digit of a value. The letters that stand for ten and above may be capitals. -/
def Rune.IsDigit (base : Nat) (c : Rune) (value : Nat) : Prop :=
  value < base ∧ (c = .scalar value.digitChar ∨ c = .scalar value.digitChar.toUpper)

theorem Rune.hexDigit?_eq_some_iff {c : Rune} {value : Nat} :
    c.hexDigit? = some value ↔ c.IsDigit 16 value := by
  constructor
  · intro h
    cases c with
    | stray b => cases h
    | scalar c =>
      have decimal : ∀ k < 10, Char.ofNat (48 + k) = k.digitChar := by decide
      have letter : ∀ k < 6, Char.ofNat (97 + k) = (k + 10).digitChar := by decide
      have capital : ∀ k < 6, Char.ofNat (65 + k) = (k + 10).digitChar.toUpper := by decide
      -- Each of the three ranges of digits starts at its own code.
      have place {base : Nat} (above : base ≤ c.toNat) :
          c = Char.ofNat (base + (c.toNat - base)) := by
        rw [Nat.add_sub_cancel' above, Char.ofNat_toNat]
      simp only [hexDigit?] at h
      split at h
      · next range =>
        obtain rfl := Option.some.inj h
        have low : 48 ≤ c.toNat := range.1
        have high : c.toNat ≤ 57 := range.2
        have few : c.toNat - 48 < 10 := by omega
        exact ⟨Nat.lt_trans few (by decide),
          .inl (congrArg _ ((place low).trans (decimal _ few)))⟩
      split at h
      · next range =>
        obtain rfl := Option.some.inj h
        have low : 97 ≤ c.toNat := range.1
        have high : c.toNat ≤ 102 := range.2
        have few : c.toNat - 97 < 6 := by omega
        exact ⟨Nat.add_lt_add_right few 10, .inl (congrArg _ ((place low).trans (letter _ few)))⟩
      split at h
      · next range =>
        obtain rfl := Option.some.inj h
        have low : 65 ≤ c.toNat := range.1
        have high : c.toNat ≤ 70 := range.2
        have few : c.toNat - 65 < 6 := by omega
        exact ⟨Nat.add_lt_add_right few 10, .inr (congrArg _ ((place low).trans (capital _ few)))⟩
      · cases h
  · intro ⟨small, form⟩
    have read : ∀ k < 16, (Rune.scalar k.digitChar).hexDigit? = some k ∧
        (Rune.scalar k.digitChar.toUpper).hexDigit? = some k := by decide
    obtain rfl | rfl := form
    · exact (read value small).1
    · exact (read value small).2

theorem Rune.digitOf?_eq_some_iff {base : Nat} {c : Rune} {value : Nat} (most : base ≤ 16) :
    c.digitOf? base = some value ↔ c.IsDigit base value := by
  rw [digitOf?, Option.filter_eq_some_iff, hexDigit?_eq_some_iff, decide_eq_true_iff]
  constructor
  · intro ⟨digit, small⟩
    exact ⟨small, digit.2⟩
  · intro ⟨small, form⟩
    exact ⟨⟨Nat.lt_of_lt_of_le small most, form⟩, small⟩

namespace Text

/-- Digits write a number in a base, the most significant one first. -/
inductive Writes (base : Nat) : Text → Nat → Prop
  | nil : Writes base [] 0
  | digit {digits : Text} {c : Rune} {high low : Nat} : Writes base digits high →
    c.IsDigit base low → Writes base (digits ++ [c]) (high * base + low)

variable {base width n : Nat} {digits t : Text}

theorem number?_eq_some_iff (most : base ≤ 16) :
    number? base digits = some n ↔ Writes base digits n := by
  constructor
  · intro h
    induction digits using List.reverseRecOn generalizing n with
    | nil =>
      cases h
      exact .nil
    | append_singleton digits c ih =>
      rw [number?_concat] at h
      obtain ⟨high, front, last⟩ := Option.bind_eq_some_iff.1 h
      obtain ⟨low, digit, rfl⟩ := Option.map_eq_some_iff.1 last
      exact .digit (ih front) ((Rune.digitOf?_eq_some_iff most).1 digit)
  · intro h
    induction h with
    | nil => rfl
    | digit _ digit ih =>
      rw [number?_concat, ih, Option.bind_some, (Rune.digitOf?_eq_some_iff most).2 digit]
      rfl

theorem Writes.isDigit_of_mem (h : Writes base digits n) :
    ∀ c ∈ digits, ∃ value, c.IsDigit base value := by
  induction h with
  | nil => exact fun _ mem => nomatch mem
  | digit _ digit ih =>
    intro c mem
    obtain front | last := List.mem_append.1 mem
    · exact ih c front
    · exact ⟨_, List.mem_singleton.1 last ▸ digit⟩

theorem Writes.lt (h : Writes base digits n) : n < base ^ digits.length := by
  induction h with
  | nil => exact Nat.one_pos
  | @digit digits c high low _ digit ih =>
    have carry : high * base + low < (high + 1) * base := by
      rw [Nat.succ_mul]
      exact Nat.add_lt_add_left digit.1 _
    rw [List.length_append, List.length_singleton, Nat.pow_succ]
    exact Nat.lt_of_lt_of_le carry (Nat.mul_le_mul_right base ih)

theorem writes_hex (width n : Nat) : Writes 16 (hex width n) n := by
  rw [← number?_eq_some_iff (Nat.le_refl 16), hex, number?_zeros, number?_toDigits]

/-- A number of some width is read exactly where digits of that width stand. -/
theorem numberOf?_eq_some_iff (most : base ≤ 16) :
    numberOf? base width t = some n ↔
      ∃ digits rest, t = digits ++ rest ∧ digits.length = width ∧ Writes base digits n := by
  constructor
  · intro h
    unfold numberOf? at h
    dsimp only at h
    split at h
    · next wide =>
      exact ⟨t.take width, t.drop width, (List.take_append_drop width t).symm, wide,
        (number?_eq_some_iff most).1 h⟩
    · cases h
  · intro ⟨digits, rest, split, wide, writes⟩
    have front : t.take width = digits := by
      rw [split]
      exact List.take_left' wide
    unfold numberOf?
    rw [front, if_pos wide, (number?_eq_some_iff most).2 writes]

end Text

end EnumText
