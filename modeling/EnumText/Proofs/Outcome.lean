/-!
# Outcomes of steps that can fail

A chain of steps succeeds exactly if each of its steps does. `bind_eq_ok_iff` takes one step off a
chain, `map_eq_ok_iff` a function of its result, and `mapM_cons_eq_ok_iff` the first of a list of
like steps; `mapM_append_eq_ok_iff` takes such a list apart. A list of like steps fails as the first
of them that fails: `mapM_eq_error_iff`.
-/

namespace EnumText

variable {ε α β : Type}

theorem bind_eq_ok_iff {x : Except ε α} {f : α → Except ε β} {b : β} :
    x >>= f = .ok b ↔ ∃ a, x = .ok a ∧ f a = .ok b := by
  cases x with
  | error e =>
    constructor
    · intro h
      cases h
    · intro h
      rcases h with ⟨_, h, _⟩
      cases h
  | ok a =>
    constructor
    · exact fun h => ⟨a, rfl, h⟩
    · intro h
      rcases h with ⟨_, h, rest⟩
      cases h
      exact rest

theorem bind_eq_error_iff {x : Except ε α} {f : α → Except ε β} {e : ε} :
    x >>= f = .error e ↔ x = .error e ∨ ∃ a, x = .ok a ∧ f a = .error e := by
  cases x with
  | error e' =>
    constructor
    · intro h
      exact .inl (congrArg _ (Except.error.inj h))
    · rintro (h | ⟨_, h, _⟩)
      · exact congrArg _ (Except.error.inj h)
      · cases h
  | ok a =>
    constructor
    · exact fun h => .inr ⟨a, rfl, h⟩
    · rintro (h | ⟨_, h, rest⟩)
      · cases h
      · cases h
        exact rest

theorem map_eq_ok_iff {x : Except ε α} {f : α → β} {b : β} :
    x.map f = .ok b ↔ ∃ a, x = .ok a ∧ f a = b := by
  cases x with
  | error e =>
    constructor
    · intro h
      cases h
    · intro ⟨_, h, _⟩
      cases h
  | ok a =>
    constructor
    · exact fun h => ⟨a, rfl, Except.ok.inj h⟩
    · intro ⟨_, h, value⟩
      cases h
      exact congrArg _ value

theorem map_eq_error_iff {x : Except ε α} {f : α → β} {e : ε} :
    x.map f = .error e ↔ x = .error e := by
  cases x with
  | error cause =>
    exact ⟨fun h => congrArg _ (Except.error.inj h), fun h => congrArg _ (Except.error.inj h)⟩
  | ok a =>
    constructor
    · intro h
      cases h
    · intro h
      cases h

theorem mapError_eq_ok_iff {ε' : Type} {x : Except ε α} {f : ε → ε'} {a : α} :
    x.mapError f = .ok a ↔ x = .ok a := by
  cases x with
  | error e =>
    constructor
    · intro h
      cases h
    · intro h
      cases h
  | ok b => exact ⟨fun h => congrArg _ (Except.ok.inj h), fun h => congrArg _ (Except.ok.inj h)⟩

theorem mapError_eq_error_iff {ε' : Type} {x : Except ε α} {f : ε → ε'} {e : ε'} :
    x.mapError f = .error e ↔ ∃ cause, x = .error cause ∧ f cause = e := by
  cases x with
  | error cause =>
    constructor
    · exact fun h => ⟨cause, rfl, Except.error.inj h⟩
    · rintro ⟨_, h, same⟩
      cases h
      exact congrArg _ same
  | ok a =>
    constructor
    · intro h
      cases h
    · rintro ⟨_, h, _⟩
      cases h

theorem map_mapError {ε' : Type} (x : Except ε α) (f : ε → ε') (g : α → β) :
    (x.mapError f).map g = (x.map g).mapError f := by
  cases x <;> rfl

theorem mapM_cons_eq_ok_iff {f : α → Except ε β} {x : α} {xs : List α} {ys : List β} :
    (x :: xs).mapM f = .ok ys ↔ ∃ y more, f x = .ok y ∧ xs.mapM f = .ok more ∧ ys = y :: more := by
  rw [List.mapM_cons, bind_eq_ok_iff]
  constructor
  · intro h
    rcases h with ⟨y, first, rest⟩
    rcases bind_eq_ok_iff.1 rest with ⟨more, others, value⟩
    exact ⟨y, more, first, others, (Except.ok.inj value).symm⟩
  · intro h
    rcases h with ⟨y, more, first, others, rfl⟩
    exact ⟨y, first, bind_eq_ok_iff.2 ⟨more, others, rfl⟩⟩

theorem map_eq_of_mapM {f : α → Except ε β} {xs : List α} {ys : List β} (h : xs.mapM f = .ok ys) :
    xs.map f = ys.map .ok := by
  induction xs generalizing ys with
  | nil =>
    cases h
    rfl
  | cons x xs ih =>
    rcases mapM_cons_eq_ok_iff.1 h with ⟨y, more, first, others, rfl⟩
    rw [List.map_cons, List.map_cons, first, ih others]

theorem mapM_append_eq_ok_iff {f : α → Except ε β} {as bs : List α} {ys : List β} :
    (as ++ bs).mapM f = .ok ys ↔
      ∃ first later, as.mapM f = .ok first ∧ bs.mapM f = .ok later ∧ ys = first ++ later := by
  induction as generalizing ys with
  | nil =>
    constructor
    · exact fun h => ⟨[], ys, rfl, h, rfl⟩
    · intro h
      rcases h with ⟨first, later, none, rest, rfl⟩
      cases none
      exact rest
  | cons a as ih =>
    rw [List.cons_append, mapM_cons_eq_ok_iff]
    constructor
    · intro h
      rcases h with ⟨y, more, head, others, rfl⟩
      rcases ih.1 others with ⟨first, later, tail, rest, rfl⟩
      exact ⟨y :: first, later, mapM_cons_eq_ok_iff.2 ⟨y, first, head, tail, rfl⟩, rest, rfl⟩
    · intro h
      rcases h with ⟨_, later, front, rest, rfl⟩
      rcases mapM_cons_eq_ok_iff.1 front with ⟨y, first, head, tail, rfl⟩
      exact ⟨y, first ++ later, head, ih.2 ⟨first, later, tail, rest, rfl⟩, rfl⟩

theorem mapM_eq_ok_of_imp {f g : α → Except ε β} {xs : List α} {ys : List β}
    (imp : ∀ x y, f x = .ok y → g x = .ok y) (h : xs.mapM f = .ok ys) : xs.mapM g = .ok ys := by
  induction xs generalizing ys with
  | nil => exact h
  | cons x xs ih =>
    rcases mapM_cons_eq_ok_iff.1 h with ⟨y, more, first, others, rfl⟩
    exact mapM_cons_eq_ok_iff.2 ⟨y, more, imp x y first, ih others, rfl⟩

theorem exists_eq_ok_of_mapM {f : α → Except ε β} {xs : List α} {ys : List β}
    (h : xs.mapM f = .ok ys) : ∀ x ∈ xs, ∃ y, f x = .ok y := by
  induction xs generalizing ys with
  | nil => exact fun _ mem => nomatch mem
  | cons x xs ih =>
    rcases mapM_cons_eq_ok_iff.1 h with ⟨y, more, first, others, -⟩
    exact List.forall_mem_cons.2 ⟨⟨y, first⟩, ih others⟩

theorem exists_mem_of_mapM {f : α → Except ε β} {xs : List α} {ys : List β}
    (h : xs.mapM f = .ok ys) : ∀ x ∈ xs, ∃ y ∈ ys, f x = .ok y := by
  intro x mem
  have inside : f x ∈ ys.map Except.ok := map_eq_of_mapM h ▸ List.mem_map_of_mem mem
  rcases List.mem_map.1 inside with ⟨y, mem, same⟩
  exact ⟨y, mem, same.symm⟩

theorem exists_of_mem_mapM {f : α → Except ε β} {xs : List α} {ys : List β}
    (h : xs.mapM f = .ok ys) : ∀ y ∈ ys, ∃ x ∈ xs, f x = .ok y := by
  induction xs generalizing ys with
  | nil =>
    cases h
    exact fun _ mem => nomatch mem
  | cons x xs ih =>
    rcases mapM_cons_eq_ok_iff.1 h with ⟨y, more, first, others, rfl⟩
    refine List.forall_mem_cons.2 ⟨⟨x, List.mem_cons_self, first⟩, fun z mem => ?_⟩
    rcases ih others z mem with ⟨w, inside, made⟩
    exact ⟨w, List.mem_cons_of_mem _ inside, made⟩

theorem exists_mapM_eq_ok {f : α → Except ε β} {xs : List α} (each : ∀ x ∈ xs, ∃ y, f x = .ok y) :
    ∃ ys, xs.mapM f = .ok ys := by
  induction xs with
  | nil => exact ⟨[], rfl⟩
  | cons x xs ih =>
    rcases List.forall_mem_cons.1 each with ⟨⟨y, first⟩, others⟩
    rcases ih others with ⟨ys, more⟩
    exact ⟨y :: ys, mapM_cons_eq_ok_iff.2 ⟨y, ys, first, more, rfl⟩⟩

theorem mapM_cons_eq_error_iff {f : α → Except ε β} {x : α} {xs : List α} {e : ε} :
    (x :: xs).mapM f = .error e ↔ f x = .error e ∨ ∃ y, f x = .ok y ∧ xs.mapM f = .error e := by
  rw [List.mapM_cons, bind_eq_error_iff]
  refine or_congr_right (exists_congr fun y => and_congr_right fun _ => ?_)
  rw [bind_eq_error_iff, or_iff_left]
  rintro ⟨_, _, h⟩
  cases h

theorem mapM_eq_error_iff {f : α → Except ε β} {xs : List α} {e : ε} :
    xs.mapM f = .error e ↔ ∃ before x after, xs = before ++ x :: after ∧
      (∀ y ∈ before, ∃ b, f y = .ok b) ∧ f x = .error e := by
  induction xs with
  | nil =>
    constructor
    · intro h
      cases h
    · rintro ⟨before, x, after, none, -⟩
      simp at none
  | cons x xs ih =>
    rw [mapM_cons_eq_error_iff, ih]
    constructor
    · rintro (first | ⟨y, first, before, z, after, rfl, passed, failed⟩)
      · exact ⟨[], x, xs, rfl, fun _ mem => (nomatch mem), first⟩
      · exact ⟨x :: before, z, after, rfl, List.forall_mem_cons.2 ⟨⟨y, first⟩, passed⟩, failed⟩
    · rintro ⟨before, z, after, same, passed, failed⟩
      cases before with
      | nil =>
        cases same
        exact .inl failed
      | cons w before =>
        cases same
        obtain ⟨⟨y, first⟩, others⟩ := List.forall_mem_cons.1 passed
        exact .inr ⟨y, first, before, z, after, rfl, others, failed⟩

/-- Whether a step has a given result can be computed without comparing failures. -/
theorem eq_ok_of_toOption {x : Except ε α} {a : α} (h : x.toOption = some a) : x = .ok a := by
  cases x with
  | error e => cases h
  | ok b => exact congrArg _ (Option.some.inj h)

/-- The same of a property that can be computed. -/
theorem exists_ok_of_any {x : Except ε α} {p : α → Bool} (h : x.toOption.any p = true) :
    ∃ a, x = .ok a ∧ p a = true := by
  cases x with
  | error e => cases h
  | ok a => exact ⟨a, rfl, h⟩

end EnumText
