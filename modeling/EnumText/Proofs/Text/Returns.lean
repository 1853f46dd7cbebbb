import Mathlib.Data.List.TakeWhile
import EnumText.Text.Rune

/-!
# Line feeds with and without carriage returns

`withReturns` puts a carriage return before each line feed of a text, and `withoutReturns` takes all
carriage returns out of it.

* `withoutReturns_withReturns`: a text without carriage returns is found again.
* `takeWhile_withReturns`, `isPrefixOf_withReturns`: where neither a line feed nor a carriage return
  is looked for, the text looks the same.
* `slice_offsetUnder`: a part of a text that is rewritten piece by piece.
-/

namespace EnumText.Text

/-- The text with a carriage return before each line feed. -/
def withReturns (t : Text) : Text :=
  t.flatMap fun c => if c = .scalar '\n' then text "\r\n" else [c]

/-- The text without its carriage returns. -/
def withoutReturns (t : Text) : Text := t.filter (· ≠ .scalar '\r')

/-! ## Carriage returns that are put in -/

theorem withReturns_newline (t : Text) :
    withReturns (.scalar '\n' :: t) = .scalar '\r' :: .scalar '\n' :: t.withReturns := rfl

theorem withReturns_cons {c : Rune} (other : c ≠ .scalar '\n') (t : Text) :
    withReturns (c :: t) = c :: t.withReturns := by
  rw [withReturns, List.flatMap_cons, if_neg other]
  rfl

theorem withReturns_append (a b : Text) : (a ++ b).withReturns = a.withReturns ++ b.withReturns :=
  List.flatMap_append

theorem withReturns_of_not_mem {t : Text} (inline : .scalar '\n' ∉ t) : t.withReturns = t := by
  induction t with
  | nil => rfl
  | cons c t ih =>
    rw [List.mem_cons, not_or] at inline
    rw [withReturns_cons (Ne.symm inline.1), ih inline.2]

theorem mem_withReturns_iff {c : Rune} (ret : c ≠ .scalar '\r') {t : Text} :
    c ∈ t.withReturns ↔ c ∈ t := by
  induction t with
  | nil => rfl
  | cons d t ih =>
    by_cases newline : d = .scalar '\n'
    · subst newline
      rw [withReturns_newline, List.mem_cons, or_iff_right ret, List.mem_cons, List.mem_cons, ih]
    · rw [withReturns_cons newline, List.mem_cons, List.mem_cons, ih]

theorem count_withReturns (t : Text) :
    t.withReturns.count (.scalar '\n') = t.count (.scalar '\n') := by
  induction t with
  | nil => rfl
  | cons c t ih =>
    by_cases newline : c = .scalar '\n'
    · subst newline
      rw [withReturns_newline, List.count_cons_of_ne (by decide), List.count_cons_self,
        List.count_cons_self, ih]
    · rw [withReturns_cons newline, List.count_cons, List.count_cons, ih]

section Looking

variable {p : Rune → Bool} (newline : p (.scalar '\n') = false) (ret : p (.scalar '\r') = false)

include newline ret

theorem any_head?_withReturns (t : Text) : t.withReturns.head?.any p = t.head?.any p := by
  cases t with
  | nil => rfl
  | cons c t =>
    by_cases same : c = .scalar '\n'
    · subst same
      rw [withReturns_newline, List.head?_cons, List.head?_cons, Option.any_some, Option.any_some,
        newline, ret]
    · rw [withReturns_cons same, List.head?_cons, List.head?_cons]

theorem takeWhile_withReturns (t : Text) : t.withReturns.takeWhile p = t.takeWhile p := by
  induction t with
  | nil => rfl
  | cons c t ih =>
    by_cases same : c = .scalar '\n'
    · subst same
      rw [withReturns_newline, List.takeWhile_cons_of_neg (by simp [ret]),
        List.takeWhile_cons_of_neg (by simp [newline])]
    · rw [withReturns_cons same, List.takeWhile_cons, List.takeWhile_cons, ih]

end Looking

theorem isPrefixOf_withReturns {start : Text} (newline : .scalar '\n' ∉ start)
    (ret : .scalar '\r' ∉ start) (t : Text) :
    start.isPrefixOf t.withReturns = start.isPrefixOf t := by
  induction start generalizing t with
  | nil => rfl
  | cons d start ih =>
    rw [List.mem_cons, not_or] at newline ret
    cases t with
    | nil => rfl
    | cons c t =>
      by_cases same : c = .scalar '\n'
      · subst same
        rw [withReturns_newline, List.isPrefixOf_cons_cons, List.isPrefixOf_cons_cons,
          beq_false_of_ne (Ne.symm ret.1), beq_false_of_ne (Ne.symm newline.1)]
        rfl
      · rw [withReturns_cons same, List.isPrefixOf_cons_cons, List.isPrefixOf_cons_cons,
          ih newline.2 ret.2]

/-! ## Carriage returns that are taken out -/

theorem withoutReturns_append (a b : Text) :
    (a ++ b).withoutReturns = a.withoutReturns ++ b.withoutReturns := List.filter_append _ _

theorem withoutReturns_of_not_mem {t : Text} (none : .scalar '\r' ∉ t) : t.withoutReturns = t := by
  rw [withoutReturns, List.filter_eq_self]
  intro c mem
  exact decide_eq_true fun same => none (same ▸ mem)

theorem withoutReturns_withReturns {t : Text} (none : .scalar '\r' ∉ t) :
    t.withReturns.withoutReturns = t := by
  induction t with
  | nil => rfl
  | cons c t ih =>
    rw [List.mem_cons, not_or] at none
    by_cases newline : c = .scalar '\n'
    · subst newline
      exact congrArg (Rune.scalar '\n' :: ·) (ih none.2)
    · have kept : decide (c ≠ .scalar '\r') = true := decide_eq_true (Ne.symm none.1)
      rw [withReturns_cons newline, withoutReturns, List.filter_cons, if_pos kept]
      exact congrArg (c :: ·) (ih none.2)

theorem trimRight_of_not_mem {t : Text} (none : .scalar '\r' ∉ t) :
    t.trimRight (· == .scalar '\r') = t := by
  rw [trimRight, List.reverse_eq_iff, List.dropWhile_eq_self_iff]
  intro some last
  have mem : (t.reverse)[0] ∈ t := List.mem_reverse.1 (List.getElem_mem _)
  rw [beq_iff_eq] at last
  exact none (last ▸ mem)

theorem trimRight_return (t : Text) :
    (t ++ text "\r").trimRight (· == .scalar '\r') = t.trimRight (· == .scalar '\r') := by
  rw [trimRight, List.reverse_append]
  exact congrArg List.reverse (List.dropWhile_cons_of_pos (by decide))

/-! ## Parts of a text -/

/-- The offset in a rewritten text that an offset in the text comes to. -/
def offsetUnder (g : Text → Text) (t : Text) (n : Nat) : Nat := (g (t.take n)).length

section Pieces

variable {g : Text → Text} (append : ∀ a b, g (a ++ b) = g a ++ g b)

include append

theorem offsetUnder_mono (t : Text) {a b : Nat} (le : a ≤ b) :
    offsetUnder g t a ≤ offsetUnder g t b := by
  obtain ⟨more, longer⟩ := List.take_prefix_take_left (l := t) le
  rw [offsetUnder, offsetUnder, ← longer, append, List.length_append]
  exact Nat.le_add_right _ _

/-- A part of a text that is rewritten piece by piece is the part rewritten. -/
theorem slice_offsetUnder (t : Text) (a b : Nat) :
    (g t).slice (offsetUnder g t a) (offsetUnder g t b) = g (t.slice a b) := by
  by_cases le : a ≤ b
  · have front : t.take b = t.take a ++ t.slice a b := by
      rw [slice, ← List.take_add, Nat.add_sub_cancel' le]
    have whole : g t = g (t.take a) ++ (g (t.slice a b) ++ g (t.drop b)) := by
      rw [← append, ← append, ← List.append_assoc, ← front, List.take_append_drop]
    have stop : offsetUnder g t b = offsetUnder g t a + (g (t.slice a b)).length := by
      rw [offsetUnder, front, append, List.length_append, offsetUnder]
    rw [slice, stop, Nat.add_sub_cancel_left, whole, offsetUnder, List.drop_left, List.take_left]
  · have empty : g [] = [] := by simpa using append [] []
    have back := offsetUnder_mono append t (Nat.le_of_not_le le)
    rw [slice, slice, Nat.sub_eq_zero_of_le back, Nat.sub_eq_zero_of_le (Nat.le_of_not_le le),
      List.take_zero, List.take_zero, empty]

end Pieces

end EnumText.Text
