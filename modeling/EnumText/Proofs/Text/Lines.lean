import EnumText.Enumeration.Code

/-!
# Lines that are put together

`unlines` is a homomorphism from lists of lines to texts, so a text is taken apart where its lines
are. Cutting at line feeds gives the lines back.
-/

namespace EnumText

theorem unlines_cons (line : Text) (lines : List Text) :
    unlines (line :: lines) = line ++ (text "\n" ++ unlines lines) := by
  rw [unlines, List.flatMap_cons, List.append_assoc]
  rfl

theorem unlines_append (a b : List Text) : unlines (a ++ b) = unlines a ++ unlines b :=
  List.flatMap_append

theorem unlines_flatMap {α : Type} (f : α → List Text) (xs : List α) :
    unlines (xs.flatMap f) = xs.flatMap fun x => unlines (f x) := by
  rw [unlines, List.flatMap_assoc]
  rfl

theorem getLast?_unlines {lines : List Text} (nonempty : lines ≠ []) :
    (unlines lines).getLast? = some (.scalar '\n') := by
  rcases List.eq_nil_or_concat lines |>.resolve_left nonempty with ⟨init, last, rfl⟩
  rw [List.concat_eq_append, unlines_append, unlines_cons, ← List.append_assoc]
  exact List.getLast?_concat

/-- Lines without line feeds have as many line feeds as there are lines. -/
theorem count_unlines {lines : List Text} (inline : ∀ line ∈ lines, .scalar '\n' ∉ line) :
    (unlines lines).count (.scalar '\n') = lines.length := by
  induction lines with
  | nil => rfl
  | cons line lines ih =>
    obtain ⟨first, others⟩ := List.forall_mem_cons.1 inline
    rw [unlines_cons, List.count_append, List.count_append, List.count_eq_zero.2 first, ih others,
      List.length_cons, Nat.zero_add, Nat.add_comm]
    rfl

theorem Text.splitOn_append_cons {separator : Rune} {a : Text} (apart : separator ∉ a) (b : Text) :
    splitOn separator (a ++ separator :: b) = a :: splitOn separator b := by
  induction a with
  | nil => simp [splitOn]
  | cons c a ih =>
    rw [List.mem_cons, not_or] at apart
    rw [List.cons_append, splitOn, ih apart.2, if_neg (Ne.symm apart.1)]
    rfl

/-- Lines that are put together are the pieces between the line feeds, and nothing stands behind the
last. -/
theorem splitOn_unlines {lines : List Text} (inline : ∀ line ∈ lines, .scalar '\n' ∉ line) :
    (unlines lines).splitOn '\n' = lines ++ [[]] := by
  induction lines with
  | nil => rfl
  | cons line lines ih =>
    obtain ⟨first, others⟩ := List.forall_mem_cons.1 inline
    rw [unlines_cons]
    exact (Text.splitOn_append_cons first _).trans (congrArg _ (ih others))

end EnumText
