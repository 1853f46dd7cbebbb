import EnumText.Note
import EnumText.Proofs.Outcome

/-!
# What reports come to

The notes of a report do not count for its outcome: the outcome of a chain of steps is the chain of
their outcomes. The notes of a chain are those of its steps up to the first that fails.

* `outcome_bind`: a step and what follows it.
* `outcome_lift`, `outcome_note`: steps that cannot fail.
* `outcome_check_eq_ok_iff`: checks.
* `bind_congr`, `bind_congr_of_map`: steps that are followed by the same.
* `notes_bind_of_ok`, `notes_bind_of_error`: the notes of a step and of what follows it.
* `Note.warnings_append`, `Note.warnings_flatMap`: the warnings among the notes on several things.
-/

namespace EnumText.Report

variable {ε ε' α β : Type}

theorem outcome_bind (x : Report ε α) (f : α → Report ε β) :
    (x >>= f).outcome = x.outcome >>= fun a => (f a).outcome := by
  obtain ⟨notes, result⟩ := x
  cases result <;> rfl

theorem outcome_pure (a : α) : outcome (pure a : Report ε α) = .ok a := rfl

theorem outcome_ofExcept (x : Except ε α) : (ofExcept x).outcome = x := rfl

theorem outcome_note (n : Note) : outcome (note n : Report ε Unit) = .ok () := rfl

theorem outcome_lift (x : Noted α) : outcome (ExceptT.lift x : Report ε α) = .ok x.value := rfl

theorem outcome_mapError (f : ε → ε') (r : Report ε α) :
    (r.mapError f).outcome = r.outcome.mapError f := by
  obtain ⟨notes, result⟩ := r
  cases result <;> rfl

theorem notes_mapError (f : ε → ε') (r : Report ε α) : (r.mapError f).notes = r.notes := by
  obtain ⟨notes, result⟩ := r
  cases result <;> exact List.append_nil notes

/-- A check before the other steps. -/
theorem outcome_check_eq_ok_iff {c : Prop} [Decidable c] {e : ε} {rest : Report ε α} {a : α} :
    outcome (if c then do throw (α := PUnit) e; rest else rest) = .ok a ↔
      ¬ c ∧ rest.outcome = .ok a := by
  split
  · next refused => exact ⟨fun h => (nomatch h), fun h => absurd refused h.1⟩
  · next passed => exact (and_iff_right passed).symm

theorem notes_bind_of_ok {x : Report ε α} {a : α} (h : x.outcome = .ok a) (f : α → Report ε β) :
    (x >>= f).notes = x.notes ++ (f a).notes := by
  obtain ⟨notes, result⟩ := x
  cases h
  rfl

theorem notes_bind_of_error {x : Report ε α} {e : ε} (h : x.outcome = .error e)
    (f : α → Report ε β) : (x >>= f).notes = x.notes := by
  obtain ⟨notes, result⟩ := x
  cases h
  exact List.append_nil notes

theorem throw_bind (e : ε) (f : α → Report ε β) : (throw e >>= f : Report ε β) = throw e := rfl

theorem bind_congr {x : Report ε α} {f g : α → Report ε β}
    (each : ∀ a, x.outcome = .ok a → f a = g a) : x >>= f = x >>= g := by
  obtain ⟨notes, result⟩ := x
  cases result with
  | error e => rfl
  | ok a =>
    have same := each a rfl
    simp only [bind, ExceptT.bind, ExceptT.mk, ExceptT.bindCont, same]

/-- Two steps that come to the same in some view are followed by the same if no more than that view
counts for what follows. -/
theorem bind_congr_of_map {γ : Type} {x y : Report ε α} {f g : α → Report ε β} (view : α → γ)
    (notes : x.notes = y.notes) (outcome : x.outcome.map view = y.outcome.map view)
    (each : ∀ a b, view a = view b → f a = g b) : x >>= f = y >>= g := by
  obtain ⟨notes, result⟩ := x
  obtain ⟨notes', result'⟩ := y
  cases notes
  match result, result', outcome with
  | .error e, .error _, rfl => rfl
  | .ok a, .ok b, same =>
    have same := each a b (Except.ok.inj same)
    simp only [bind, ExceptT.bind, ExceptT.mk, ExceptT.bindCont, same]

theorem notes_bind_pure (x : Report ε α) (f : α → β) :
    (x >>= fun a => pure (f a)).notes = x.notes := by
  cases h : x.outcome with
  | error e => exact notes_bind_of_error h _
  | ok a => exact (notes_bind_of_ok h _).trans (List.append_nil _)

theorem notes_ofExcept (x : Except ε α) : (ofExcept x).notes = [] := rfl

theorem notes_lift (x : Noted α) : notes (ExceptT.lift x : Report ε α) = x.notes :=
  List.append_nil x.notes

end EnumText.Report

namespace EnumText.Note

theorem warnings_append (xs ys : List Note) : warnings (xs ++ ys) = warnings xs ++ warnings ys := by
  rw [warnings, List.filter_append, List.map_append]
  rfl

theorem warnings_flatMap {α : Type} (f : α → List Note) (xs : List α) :
    warnings (xs.flatMap f) = xs.flatMap fun x => warnings (f x) := by
  rw [warnings, List.filter_flatMap, List.map_flatMap]
  rfl

end EnumText.Note
