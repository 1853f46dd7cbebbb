import EnumText.Proofs.Token.Quoted

/-!
# Lexemes with an end mark

A block comment, a quoted literal and a raw string go on up to an end mark, the first one that the
text has. So a lexeme is read in the same way if what stands behind the mark is another text.

* `ClosedBy`: how a reader looks for its end mark.
* `blockCommentLength_closedBy`, `quotedLength_closedBy`, `rawStringLength_closedBy`: the readers.
* `ClosedBy.closes`, `ClosedBy.take`: another text behind the mark.
-/

namespace EnumText.Lexeme

variable {length : Text → Except Fault Nat} {mark t : Text} {Body : Text → Prop} {n m : Nat}

/-- A reader takes a body of some form and the end mark behind it, with no regard to what
follows. -/
def ClosedBy (length : Text → Except Fault Nat) (mark : Text) (Body : Text → Prop) : Prop :=
  ∀ t n, length t = .ok n ↔
    ∃ body more, t = body ++ (mark ++ more) ∧ Body body ∧ n = (body ++ mark).length

/-! ## The readers -/

theorem infix_cons_iff {c : Rune} :
    text "*/" <:+: c :: t ↔
      c = .scalar '*' ∧ t.head? = some (.scalar '/') ∨ text "*/" <:+: t := by
  rw [List.infix_cons_iff]
  refine or_congr_left ⟨?_, ?_⟩
  · rintro ⟨more, same⟩
    cases same
    exact ⟨rfl, rfl⟩
  · rintro ⟨rfl, slash⟩
    obtain ⟨more, rfl⟩ := List.head?_eq_some_iff.1 slash
    exact ⟨more, rfl⟩

theorem blockCommentLength_cons {c : Rune} {rest : Text}
    (open_ : c = .scalar '*' → rest.head? ≠ some (.scalar '/')) :
    blockCommentLength (c :: rest) = (blockCommentLength rest).map (· + 1) := by
  rw [blockCommentLength]
  rintro more rfl rfl
  exact open_ rfl rfl

/-- A block comment is closed by the first mark, the rune before which may be a star of the
comment. -/
theorem blockCommentLength_closedBy :
    ClosedBy blockCommentLength (text "*/") fun body => ¬ text "*/" <:+: body ++ text "*" := by
  have head (body more : Text) :
      (body ++ (text "*/" ++ more)).head? = (body ++ text "*").head? := by
    cases body <;> rfl
  intro t n
  induction t generalizing n with
  | nil =>
    constructor
    · intro h
      cases h
    · rintro ⟨body, more, whole, -⟩
      simp [text] at whole
  | cons c t ih =>
    by_cases ends : c = .scalar '*' ∧ t.head? = some (.scalar '/')
    · obtain ⟨rfl, slash⟩ := ends
      obtain ⟨rest, rfl⟩ := List.head?_eq_some_iff.1 slash
      constructor
      · intro h
        cases h
        exact ⟨[], rest, rfl, fun inside => absurd inside.length_le (by decide), rfl⟩
      · rintro ⟨body, more, whole, unclosed, rfl⟩
        cases body with
        | nil => rfl
        | cons d body =>
          obtain ⟨rfl, below⟩ := List.cons.inj whole
          have slash : (body ++ text "*").head? = some (.scalar '/') :=
            (head body more).symm.trans (congrArg List.head? below.symm)
          exact absurd (infix_cons_iff.2 (.inl ⟨rfl, slash⟩)) unclosed
    · rw [blockCommentLength_cons fun star slash => ends ⟨star, slash⟩, map_eq_ok_iff]
      constructor
      · rintro ⟨m, closed, rfl⟩
        obtain ⟨body, more, rfl, unclosed, rfl⟩ := (ih m).1 closed
        rw [head] at ends
        have below : ¬ text "*/" <:+: c :: body ++ text "*" :=
          fun inside => (infix_cons_iff.1 inside).elim ends unclosed
        exact ⟨c :: body, more, rfl, below, rfl⟩
      · rintro ⟨body, more, whole, unclosed, rfl⟩
        cases body with
        | nil =>
          cases whole
          exact absurd ⟨rfl, rfl⟩ ends
        | cons d body =>
          obtain ⟨rfl, rfl⟩ := List.cons.inj whole
          have below : ¬ text "*/" <:+: body ++ text "*" :=
            fun inside => unclosed (infix_cons_iff.2 (.inr inside))
          exact ⟨_, (ih _).2 ⟨body, more, rfl, below, rfl⟩, rfl⟩

/-- A quoted literal is closed by the first quote that no backslash protects. -/
theorem quotedLength_closedBy {q : Rune} (newline : q ≠ .scalar '\n')
    (backslash : q ≠ .scalar '\\') : ClosedBy (quotedLength q) [q] (Enclosed q) := by
  intro t n
  rw [quotedLength_eq_ok_iff newline backslash]
  simp only [List.singleton_append, List.length_append, List.length_singleton]

/-- A raw string is closed by the first back quote. -/
theorem rawStringLength_closedBy :
    ClosedBy rawStringLength [.scalar '\x60'] fun body => .scalar '\x60' ∉ body := by
  intro t n
  induction t generalizing n with
  | nil =>
    constructor
    · intro h
      cases h
    · rintro ⟨body, more, whole, -⟩
      simp at whole
  | cons c t ih =>
    rw [rawStringLength]
    split
    · next mark =>
      subst mark
      constructor
      · intro h
        cases h
        exact ⟨[], t, rfl, List.not_mem_nil, rfl⟩
      · rintro ⟨body, more, whole, bare, rfl⟩
        cases body with
        | nil => rfl
        | cons d body =>
          obtain ⟨rfl, -⟩ := List.cons.inj whole
          exact absurd List.mem_cons_self bare
    · next other =>
      rw [map_eq_ok_iff]
      constructor
      · rintro ⟨m, closed, rfl⟩
        obtain ⟨body, more, rfl, bare, rfl⟩ := (ih m).1 closed
        exact ⟨c :: body, more, rfl, List.not_mem_cons_of_ne_of_not_mem (Ne.symm other) bare, rfl⟩
      · rintro ⟨body, more, whole, bare, rfl⟩
        cases body with
        | nil =>
          cases whole
          exact absurd rfl other
        | cons d body =>
          obtain ⟨rfl, rfl⟩ := List.cons.inj whole
          have bare := List.not_mem_of_not_mem_cons bare
          exact ⟨_, (ih _).2 ⟨body, more, rfl, bare, rfl⟩, rfl⟩

/-! ## Another text behind the mark -/

/-- What an end mark makes certain: the lexeme ends with it, and what comes after does not count. -/
structure Closes (length : Text → Except Fault Nat) (mark : Rune) (t : Text) (n : Nat) : Prop where
  le : n ≤ t.length
  last : ∃ body, t.take n = body ++ [mark]
  append (more : Text) : length (t ++ more) = .ok n

namespace ClosedBy

theorem take_eq (h : ClosedBy length mark Body) (closed : length t = .ok n) :
    ∃ body, t.take n = body ++ mark ∧ Body body := by
  obtain ⟨body, more, rfl, form, rfl⟩ := (h t n).1 closed
  refine ⟨body, ?_, form⟩
  rw [← List.append_assoc, List.take_left]

theorem closes {last : Rune} (ends : mark.getLast? = some last)
    (h : ClosedBy length mark Body) (closed : length t = .ok n) : Closes length last t n := by
  obtain ⟨init, rfl⟩ := List.getLast?_eq_some_iff.1 ends
  obtain ⟨body, more, rfl, form, rfl⟩ := (h t n).1 closed
  refine ⟨?_, ⟨body ++ init, ?_⟩, fun later => ?_⟩
  · rw [← List.append_assoc body (init ++ [last])]
    exact (List.prefix_append _ more).length_le
  · rw [← List.append_assoc body (init ++ [last]), List.take_left, List.append_assoc]
  · refine (h _ _).2 ⟨body, more ++ later, ?_, form, rfl⟩
    simp only [List.append_assoc]

/-- The text may be cut off behind the mark. -/
theorem take (h : ClosedBy length mark Body) (closed : length t = .ok n) (inside : n ≤ m) :
    length (t.take m) = .ok n := by
  obtain ⟨body, more, rfl, form, rfl⟩ := (h t n).1 closed
  obtain ⟨k, rfl⟩ := Nat.exists_eq_add_of_le inside
  refine (h _ _).2 ⟨body, more.take k, ?_, form, rfl⟩
  rw [← List.append_assoc, List.take_length_add_append, List.append_assoc]

end ClosedBy

theorem blockComment_closes (h : blockCommentLength t = .ok n) :
    Closes blockCommentLength (.scalar '/') t n :=
  blockCommentLength_closedBy.closes rfl h

theorem quoted_closes {q : Rune} (newline : q ≠ .scalar '\n') (backslash : q ≠ .scalar '\\')
    (h : quotedLength q t = .ok n) : Closes (quotedLength q) q t n :=
  (quotedLength_closedBy newline backslash).closes rfl h

theorem rawString_closes (h : rawStringLength t = .ok n) :
    Closes rawStringLength (.scalar '\x60') t n :=
  rawStringLength_closedBy.closes rfl h

end EnumText.Lexeme
