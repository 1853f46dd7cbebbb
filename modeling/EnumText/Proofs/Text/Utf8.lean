import EnumText.Text.Utf8

/-!
# UTF-8 sequences are read back

`Utf8.scalarAt?_encode` says how a sequence is laid out: the bytes of a scalar value are read as
that scalar value, whatever follows them. From it, `Utf8.decode_scalar_append` decodes one scalar
value at a time, and `Text.decode_encode` a whole text without stray bytes.

The other way round, `Utf8.encode_of_scalarAt?` says that only the bytes of a scalar value are read
as one. So `Utf8.encode_decode` finds any bytes again in what they decode to.
-/

namespace EnumText

namespace Utf8

theorem toNat_ofNat {n : Nat} (h : n < 0x100) : (UInt8.ofNat n).toNat = n := by
  rw [UInt8.toNat_ofNat']
  omega

/-- The bytes from 0x80 to 0xBF carry six bits each. -/
theorem payload?_ofNat (count high : Nat) {low : Nat} (h : low < 0x40) (rest : List UInt8) :
    payload? (count + 1) high (.ofNat (0x80 + low) :: rest) =
      payload? count (high * 0x40 + low) rest := by
  have byte : (UInt8.ofNat (0x80 + low)).toNat = 0x80 + low := toNat_ofNat (by omega)
  have six : continuation? (.ofNat (0x80 + low)) = some low := by
    unfold continuation?
    rw [byte, if_pos (by omega), Nat.add_sub_cancel_left]
  rw [payload?, six, Option.bind_some]

theorem scalarAt?_of {first : UInt8} {rest : List UInt8} {count n : Nat} (high : Nat)
    (lead : lead? first = some (count, high)) (payload : payload? count high rest = some n)
    (fit : fits count n = true) : scalarAt? first rest = some (Char.ofNat n, count) := by
  simp only [scalarAt?, lead, payload, bind, Option.bind_some, if_pos fit]

theorem scalar_bounds (c : Char) :
    c.toNat < 0x110000 ∧ ¬ (0xD800 ≤ c.toNat ∧ c.toNat < 0xE000) := by
  have h : c.toNat < 0xD800 ∨ 0xDFFF < c.toNat ∧ c.toNat < 0x110000 := c.valid
  omega

/-- The sequence of a scalar value is read back, whatever follows it. -/
theorem scalarAt?_encode (c : Char) : ∃ first more count, Rune.encode (.scalar c) = first :: more ∧
    more.length = count ∧ ∀ rest, scalarAt? first (more ++ rest) = some (c, count) := by
  have bounds := scalar_bounds c
  have back := Char.ofNat_toNat c
  simp only [Rune.encode]
  generalize c.toNat = n at bounds back
  subst back
  by_cases one : n < 0x80
  · refine ⟨_, _, 0, if_pos one, rfl, fun rest => scalarAt?_of n ?_ rfl ?_⟩
    · rw [lead?, toNat_ofNat (by omega)]
      exact if_pos one
    · simpa only [fits, decide_eq_true_eq] using one
  rw [if_neg one]
  by_cases two : n < 0x800
  · refine ⟨_, _, 1, if_pos two, rfl, fun rest => scalarAt?_of (n / 0x40) ?_ ?_ ?_⟩
    · rw [lead?, toNat_ofNat (by omega), if_neg (by omega), if_neg (by omega), if_pos (by omega),
        Nat.add_sub_cancel_left]
    · rw [List.cons_append, payload?_ofNat 0 _ (Nat.mod_lt n (by decide)), payload?]
      congr 1
      omega
    · simp only [fits, Bool.and_eq_true, decide_eq_true_eq]
      omega
  rw [if_neg two]
  by_cases three : n < 0x10000
  · refine ⟨_, _, 2, if_pos three, rfl, fun rest => scalarAt?_of (n / 0x1000) ?_ ?_ ?_⟩
    · rw [lead?, toNat_ofNat (by omega), if_neg (by omega), if_neg (by omega), if_neg (by omega),
        if_pos (by omega), Nat.add_sub_cancel_left]
    · rw [List.cons_append, payload?_ofNat 1 _ (Nat.mod_lt _ (by decide)), List.cons_append,
        payload?_ofNat 0 _ (Nat.mod_lt n (by decide)), payload?]
      congr 1
      omega
    · simp only [fits, Bool.and_eq_true, Bool.not_eq_true', Bool.and_eq_false_iff,
        decide_eq_true_eq, decide_eq_false_iff_not]
      omega
  · refine ⟨_, _, 3, if_neg three, rfl, fun rest => scalarAt?_of (n / 0x40000) ?_ ?_ ?_⟩
    · rw [lead?, toNat_ofNat (by omega), if_neg (by omega), if_neg (by omega), if_neg (by omega),
        if_neg (by omega), if_pos (by omega), Nat.add_sub_cancel_left]
    · rw [List.cons_append, payload?_ofNat 2 _ (Nat.mod_lt _ (by decide)), List.cons_append,
        payload?_ofNat 1 _ (Nat.mod_lt _ (by decide)), List.cons_append,
        payload?_ofNat 0 _ (Nat.mod_lt n (by decide)), payload?]
      congr 1
      omega
    · simp only [fits, Bool.and_eq_true, decide_eq_true_eq]
      omega

theorem decodeAfter_append (read rest : List UInt8) :
    decodeAfter read.length (read ++ rest) = decodeAfter 0 rest := by
  induction read with
  | nil => rfl
  | cons b read ih => exact ih

/-- Decoding takes a scalar value's bytes for that scalar value. -/
theorem decode_scalar_append (c : Char) (rest : List UInt8) :
    decode (Rune.encode (.scalar c) ++ rest) = .scalar c :: decode rest := by
  rcases scalarAt?_encode c with ⟨first, more, count, bytes, rfl, read⟩
  rw [bytes, List.cons_append, decode, decodeAfter, read]
  exact congrArg _ (decodeAfter_append more rest)

end Utf8

/-- Text without stray bytes survives being written as bytes. -/
theorem Text.decode_encode {t : Text} (h : Text.isScalar t) : Utf8.decode (Text.encode t) = t := by
  induction t with
  | nil => rfl
  | cons c t ih =>
    obtain ⟨hc, ht⟩ : c.isScalar ∧ Text.isScalar t := by simpa [Text.isScalar] using h
    cases c with
    | scalar c =>
      rw [Text.encode, List.flatMap_cons, Utf8.decode_scalar_append, ← Text.encode, ih ht]
    | stray b => cases hc

namespace Utf8

/-! ## Bytes are found again -/

theorem exists_of_payload? {count high n : Nat} {bytes : List UInt8}
    (h : payload? (count + 1) high bytes = some n) :
    ∃ low rest, low < 0x40 ∧ bytes = .ofNat (0x80 + low) :: rest ∧
      payload? count (high * 0x40 + low) rest = some n := by
  cases bytes with
  | nil => cases h
  | cons b rest =>
    rcases Option.bind_eq_some_iff.1 h with ⟨low, six, more⟩
    unfold continuation? at six
    split at six
    · next inside =>
      obtain rfl := Option.some.inj six
      refine ⟨b.toNat - 0x80, rest, by omega, ?_, more⟩
      rw [Nat.add_sub_cancel' inside.1, UInt8.ofNat_toNat]
    · cases six

/-- The first byte of a sequence says how many follow it, and carries the bits that are left. -/
theorem eq_ofNat_of_lead? {b : UInt8} {count high : Nat} (h : lead? b = some (count, high)) :
    count = 0 ∧ b = .ofNat high ∧ high < 0x80 ∨
      count = 1 ∧ b = .ofNat (0xC0 + high) ∧ high < 0x20 ∨
      count = 2 ∧ b = .ofNat (0xE0 + high) ∧ high < 0x10 ∨
      count = 3 ∧ b = .ofNat (0xF0 + high) ∧ high < 0x08 := by
  have back (base : Nat) (above : base ≤ b.toNat) : b = .ofNat (base + (b.toNat - base)) := by
    rw [Nat.add_sub_cancel' above, UInt8.ofNat_toNat]
  unfold lead? at h
  dsimp only at h
  split at h
  · next small =>
    cases h
    exact .inl ⟨rfl, UInt8.ofNat_toNat.symm, small⟩
  split at h
  · cases h
  split at h
  · cases h
    exact .inr (.inl ⟨rfl, back 0xC0 (by omega), by omega⟩)
  split at h
  · cases h
    exact .inr (.inr (.inl ⟨rfl, back 0xE0 (by omega), by omega⟩))
  split at h
  · cases h
    exact .inr (.inr (.inr ⟨rfl, back 0xF0 (by omega), by omega⟩))
  · cases h

theorem toNat_of_fits {count n : Nat} (fit : fits count n = true) : (Char.ofNat n).toNat = n := by
  have valid : n.isValidChar := by
    unfold fits at fit
    split at fit <;> simp at fit <;> unfold Nat.isValidChar <;> omega
  rw [Char.ofNat, dif_pos valid]
  rfl

/-- Only the bytes of a scalar value are read as one. -/
theorem encode_of_scalarAt? {first : UInt8} {rest : List UInt8} {c : Char} {count : Nat}
    (h : scalarAt? first rest = some (c, count)) :
    Rune.encode (.scalar c) = first :: rest.take count := by
  rcases Option.bind_eq_some_iff.1 h with ⟨⟨count', high⟩, lead, body⟩
  rcases Option.bind_eq_some_iff.1 body with ⟨n, payload, read⟩
  split at read
  case isFalse => cases read
  case isTrue fit =>
    cases read
    have value := toNat_of_fits fit
    simp only [Rune.encode, value]
    rcases eq_ofNat_of_lead? lead with ⟨rfl, rfl, small⟩ | ⟨rfl, rfl, small⟩ | ⟨rfl, rfl, small⟩ |
      ⟨rfl, rfl, small⟩
    · cases payload
      rw [if_pos small, List.take_zero]
    · obtain ⟨low, tail, bits, rfl, done⟩ := exists_of_payload? payload
      cases done
      simp only [fits, Bool.and_eq_true, decide_eq_true_eq] at fit
      rw [if_neg (by omega), if_pos fit.2, List.take_succ_cons, List.take_zero,
        show (high * 0x40 + low) / 0x40 = high by omega,
        show (high * 0x40 + low) % 0x40 = low by omega]
    · obtain ⟨low, _, bits, rfl, payload₁⟩ := exists_of_payload? payload
      obtain ⟨low', tail, bits', rfl, done⟩ := exists_of_payload? payload₁
      cases done
      simp only [fits, Bool.and_eq_true, decide_eq_true_eq] at fit
      rw [if_neg (by omega), if_neg (by omega), if_pos fit.1.2, List.take_succ_cons,
        List.take_succ_cons, List.take_zero,
        show ((high * 0x40 + low) * 0x40 + low') / 0x1000 = high by omega,
        show ((high * 0x40 + low) * 0x40 + low') / 0x40 % 0x40 = low by omega,
        show ((high * 0x40 + low) * 0x40 + low') % 0x40 = low' by omega]
    · obtain ⟨low, _, bits, rfl, payload₁⟩ := exists_of_payload? payload
      obtain ⟨low', _, bits', rfl, payload₂⟩ := exists_of_payload? payload₁
      obtain ⟨low'', tail, bits'', rfl, done⟩ := exists_of_payload? payload₂
      cases done
      simp only [fits, Bool.and_eq_true, decide_eq_true_eq] at fit
      rw [if_neg (by omega), if_neg (by omega), if_neg (by omega), List.take_succ_cons,
        List.take_succ_cons, List.take_succ_cons, List.take_zero,
        show (((high * 0x40 + low) * 0x40 + low') * 0x40 + low'') / 0x40000 = high by omega,
        show (((high * 0x40 + low) * 0x40 + low') * 0x40 + low'') / 0x1000 % 0x40 = low by omega,
        show (((high * 0x40 + low) * 0x40 + low') * 0x40 + low'') / 0x40 % 0x40 = low' by omega,
        show (((high * 0x40 + low) * 0x40 + low') * 0x40 + low'') % 0x40 = low'' by omega]

/-- A byte below 0x80 is a sequence of its own. -/
theorem le_of_scalarAt?_eq_none {b : UInt8} {rest : List UInt8} (h : scalarAt? b rest = none) :
    0x80 ≤ b.toNat := by
  apply Nat.not_lt.1
  intro small
  have lead : lead? b = some (0, b.toNat) := if_pos small
  have fit : fits 0 b.toNat = true := decide_eq_true small
  rw [scalarAt?_of b.toNat lead rfl fit] at h
  cases h

theorem encode_decodeAfter (skip : Nat) (bytes : List UInt8) :
    Text.encode (decodeAfter skip bytes) = bytes.drop skip := by
  induction bytes generalizing skip with
  | nil => cases skip <;> rfl
  | cons b rest ih =>
    cases skip with
    | succ skip => exact ih skip
    | zero =>
      unfold decodeAfter
      split
      · next c count read =>
        rw [Text.encode, List.flatMap_cons, ← Text.encode, ih, encode_of_scalarAt? read,
          List.cons_append, List.take_append_drop, List.drop_zero]
      · next stray =>
        have high := le_of_scalarAt?_eq_none stray
        have low := b.toNat_lt
        have byte : Rune.encode (.stray (Fin.ofNat 128 b.toNat)) = [b] := by
          simp only [Rune.encode, Rune.strayByte, Fin.ofNat]
          rw [show 0x80 + b.toNat % 128 = b.toNat by omega, UInt8.ofNat_toNat]
        rw [Text.encode, List.flatMap_cons, ← Text.encode, ih, byte]
        rfl

/-- Any bytes are the bytes of what they decode to. -/
theorem encode_decode (bytes : List UInt8) : Text.encode (decode bytes) = bytes :=
  encode_decodeAfter 0 bytes

end Utf8

end EnumText
