import EnumText.Text.Rune

/-!
# The order of texts is total

Different runes have different ranks: stray bytes are ranked among the surrogates, which are no
scalar values. So one of two texts always comes first, and sorted names stay in their order when a
name is added.

* `le_trans`, `le_total`: what sorting asks of the order.
* `le_antisymm`: sorted names without repetitions stand in one order only.
-/

namespace EnumText

theorem Rune.rank_injective {a b : Rune} (h : a.rank = b.rank) : a = b := by
  have apart (c : Char) (s : Fin 128) : c.toNat ≠ 0xDC80 + s.val := by
    intro same
    have valid : c.toNat.isValidChar := c.valid
    have small := s.isLt
    unfold Nat.isValidChar at valid
    omega
  cases a with
  | scalar c =>
    cases b with
    | scalar d => exact congrArg _ (Char.toNat_inj.1 h)
    | stray s => exact absurd h (apart c s)
  | stray s =>
    cases b with
    | scalar d => exact absurd h.symm (apart d s)
    | stray r => exact congrArg _ (Fin.ext (Nat.add_left_cancel h))

namespace Text

theorem le_cons {a b : Rune} {s t : Text} :
    le (a :: s) (b :: t) = true ↔ a.rank < b.rank ∨ a = b ∧ le s t = true := by
  rw [le]
  split
  · next same =>
    subst same
    simp
  · next other => simp [other]

theorem le_trans (s t u : Text) (first : le s t = true) (second : le t u = true) :
    le s u = true := by
  induction s generalizing t u with
  | nil => rfl
  | cons a s ih =>
    cases t with
    | nil => cases first
    | cons b t =>
      cases u with
      | nil => cases second
      | cons c u =>
        rw [le_cons] at first second ⊢
        rcases first with below | ⟨rfl, first⟩
        · rcases second with below' | ⟨rfl, -⟩
          · exact .inl (Nat.lt_trans below below')
          · exact .inl below
        · exact second.imp_right fun ⟨same, second⟩ => ⟨same, ih t u first second⟩

theorem le_total (s t : Text) : (le s t || le t s) = true := by
  rw [Bool.or_eq_true]
  induction s generalizing t with
  | nil => exact .inl rfl
  | cons a s ih =>
    cases t with
    | nil => exact .inr rfl
    | cons b t =>
      rw [le_cons, le_cons]
      rcases Nat.lt_trichotomy a.rank b.rank with below | same | above
      · exact .inl (.inl below)
      · obtain rfl := Rune.rank_injective same
        exact (ih t).imp (fun h => .inr ⟨rfl, h⟩) (fun h => .inr ⟨rfl, h⟩)
      · exact .inr (.inl above)

theorem le_antisymm {s t : Text} (first : le s t = true) (second : le t s = true) : s = t := by
  induction s generalizing t with
  | nil =>
    cases t with
    | nil => rfl
    | cons b t => cases second
  | cons a s ih =>
    cases t with
    | nil => cases first
    | cons b t =>
      rw [le_cons] at first second
      rcases first with below | ⟨rfl, first⟩
      · rcases second with above | ⟨rfl, -⟩
        · omega
        · omega
      · rcases second with above | ⟨-, second⟩
        · omega
        · rw [ih first second]

end Text

end EnumText
