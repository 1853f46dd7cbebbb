import EnumText.Text.Rune

/-!
# Parts of a text

A part of a text is given by two offsets. Parts that stand side by side make up one
(`Text.slice_append_slice`), and a part grows by the rune behind it (`Text.slice_succ`).
-/

namespace EnumText

/-- A part of a source, by the offsets of its first rune and of the rune after its last. -/
structure Span where
  start : Nat
  stop : Nat

/-- An offset is one of a span. -/
def Span.Holds (s : Span) (n : Nat) : Prop := s.start ≤ n ∧ n < s.stop

namespace Text

theorem slice_self (t : Text) (n : Nat) : t.slice n n = [] := by
  rw [slice, Nat.sub_self, List.take_zero]

theorem slice_append_length (before a after : Text) :
    (before ++ (a ++ after)).slice before.length (before.length + a.length) = a := by
  rw [slice, List.drop_left, Nat.add_sub_cancel_left, List.take_left]

/-- What stands between two offsets stands before or after one between them. -/
theorem slice_append_slice (t : Text) {i j k : Nat} (first : i ≤ j) (last : j ≤ k) :
    t.slice i j ++ t.slice j k = t.slice i k := by
  obtain ⟨a, rfl⟩ := Nat.exists_eq_add_of_le first
  obtain ⟨b, rfl⟩ := Nat.exists_eq_add_of_le last
  rw [slice, slice, slice, Nat.add_sub_cancel_left, Nat.add_sub_cancel_left, Nat.add_assoc,
    Nat.add_sub_cancel_left, List.take_add, List.drop_drop]

theorem slice_succ {t : Text} {start stop : Nat} {c : Rune} (le : start ≤ stop)
    (here : t[stop]? = some c) : t.slice start (stop + 1) = t.slice start stop ++ [c] := by
  have length : stop + 1 - start = stop - start + 1 := by omega
  have offset : start + (stop - start) = stop := by omega
  rw [slice, length, List.take_add_one, List.getElem?_drop, offset, here]
  rfl

theorem slice_ne_nil {t : Text} {start stop : Nat} (lt : start < stop) (inside : start < t.length) :
    t.slice start stop ≠ [] := by
  rw [slice, Ne, List.take_eq_nil_iff, List.drop_eq_nil_iff]
  omega

end Text

end EnumText
