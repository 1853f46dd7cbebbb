import EnumText.Proofs.Listing.Tiling

/-!
# Comments on lines of their own

A comment stands on a line of its own if no token stands before it there. `Layout.marks` are the
comments of a layout, each with the part of the source that it takes, so that two that follow each
other have the tokens between them that stand there in the source.

* `line_lt_of_head`: tokens before the first comment stand on lines above it.
* `line_lt_of_infix`: so do tokens between one such comment and the next.
-/

namespace EnumText

namespace Layout

/-- The comments of a layout, each with the part of the source that it takes. -/
def marks (here : Cursor) (last : Option Token) (lexemes : List Lexeme) : List (Span × Comment) :=
  (Lexeme.commentSpans here.offset lexemes).zip (place here last lexemes).comments

/-- Whether a lexeme is a comment. -/
def IsMarked (kind : Lexeme.Kind) : Prop := kind = .lineComment ∨ kind = .blockComment

variable {here : Cursor} {last : Option Token} {lexeme : Lexeme} {rest : List Lexeme}

theorem commentSpansOf_of_not_isMarked (other : ¬ IsMarked lexeme.kind) (n : Nat) :
    lexeme.commentSpansOf n = [] := by
  unfold Lexeme.commentSpansOf
  split
  · next kind => exact absurd (.inl kind) other
  · next kind => exact absurd (.inr kind) other
  · rfl

theorem commentsOf_of_not_isMarked (other : ¬ IsMarked lexeme.kind) :
    commentsOf here last lexeme = [] := by
  unfold commentsOf
  split
  · next kind => exact absurd (.inl kind) other
  · next kind => exact absurd (.inr kind) other
  · rfl

theorem marks_cons_of_not_isMarked (other : ¬ IsMarked lexeme.kind) :
    marks here last (lexeme :: rest) =
      marks (here.advance lexeme.spelling) (lastAfter here last lexeme) rest := by
  rw [marks, marks, place_cons, Lexeme.commentSpans, commentSpansOf_of_not_isMarked other,
    commentsOf_of_not_isMarked other, Cursor.advance_offset]
  rfl

/-- A comment begins where its lexeme begins, and stands on a line of its own if no token was read
on the line. -/
theorem exists_marks_cons (here : Cursor) (last : Option Token) (rest : List Lexeme)
    (marked : IsMarked lexeme.kind) :
    ∃ c, marks here last (lexeme :: rest) =
        (⟨here.offset, here.offset + lexeme.spelling.length⟩, c) ::
          marks (here.advance lexeme.spelling) (lastAfter here last lexeme) rest ∧
      c.ownLine = last.isNone ∧ c.line = here.line := by
  obtain ⟨kind, spelling⟩ := lexeme
  rw [marks, marks, place_cons, Cursor.advance_offset]
  rcases marked with kind | kind
  · cases kind
    exact ⟨⟨spelling.trimRight (· == .scalar '\r'), here.line, here.line, last.isNone⟩, rfl, rfl,
      rfl⟩
  · cases kind
    exact ⟨⟨spelling, here.line, (here.advance spelling).line, last.isNone⟩, rfl, rfl, rfl⟩

/-- A comment implies no token before its end, and none at all on a line of its own. -/
theorem le_of_mem_tokensOf (marked : IsMarked lexeme.kind) {t : Token}
    (mem : t ∈ tokensOf here last lexeme) :
    here.offset + lexeme.spelling.length ≤ t.start ∧ last ≠ none := by
  obtain ⟨kind, spelling⟩ := lexeme
  rcases marked with kind | kind
  · cases kind
    cases mem
  · cases kind
    simp only [tokensOf] at mem
    split at mem
    · refine ⟨?_, fun none => ?_⟩
      · rw [eq_of_mem_impliedSemicolon mem, ← Cursor.advance_offset]
        exact Nat.le_refl _
      · rw [none] at mem
        cases mem
    · cases mem

theorem le_of_mem_place {lexemes : List Lexeme} {t : Token}
    (mem : t ∈ (place here last lexemes).tokens) : here.offset ≤ t.start :=
  (between_of_mem_place_tokens mem).start

/-- The comments of a layout stand behind the position that it is placed at. -/
theorem precedes_of_mem_marks {lexemes : List Lexeme} {d : Span × Comment}
    (mem : d ∈ marks here last lexemes) : here.offset ≤ d.1.start ∧ here.line ≤ d.2.line := by
  induction lexemes generalizing here last with
  | nil => cases mem
  | cons lexeme rest ih =>
    have forward := here.precedes_advance lexeme.spelling
    by_cases marked : IsMarked lexeme.kind
    · obtain ⟨c, marks, -, line⟩ := exists_marks_cons here last rest marked
      rw [marks] at mem
      rcases List.mem_cons.1 mem with rfl | mem
      · exact ⟨Nat.le_refl _, line.ge⟩
      · exact ⟨Nat.le_trans forward.1 (ih mem).1, Nat.le_trans forward.2 (ih mem).2⟩
    · rw [marks_cons_of_not_isMarked marked] at mem
      exact ⟨Nat.le_trans forward.1 (ih mem).1, Nat.le_trans forward.2 (ih mem).2⟩

end Layout

namespace Listing

open Lexeme Layout

/-- Tokens before the first comment stand on lines above it, if it has a line of its own. So does
the token that was read last. -/
theorem line_lt_of_head {t : Text} {lexemes : List Lexeme} (h : split t = (lexemes, none)) :
    ∀ (here : Cursor) (last : Option Token) (d : Span × Comment) (more : List (Span × Comment)),
      marks here last lexemes = d :: more → d.1.start < d.1.stop → d.2.ownLine = true →
        (last ≠ none → here.line < d.2.line) ∧
          ∀ t ∈ (place here last lexemes).tokens, t.start ≤ d.1.start → t.line < d.2.line := by
  refine split_induction (motive := fun _ lexemes => ∀ (here : Cursor) (last : Option Token)
    (d : Span × Comment) (more : List (Span × Comment)), marks here last lexemes = d :: more →
      d.1.start < d.1.stop → d.2.ownLine = true → (last ≠ none → here.line < d.2.line) ∧
        ∀ t ∈ (place here last lexemes).tokens, t.start ≤ d.1.start → t.line < d.2.line) ?_ ?_ h
  · intro here last d more none
    cases none
  · intro c rest kind n tail reads _ ih here last d more first some own
    have forward := here.precedes_advance (c :: rest.take n)
    rw [place_cons]
    by_cases marked : IsMarked kind
    · -- The first lexeme is the comment: no token was read on its line, and the others come later.
      have marked : IsMarked (Lexeme.kind ⟨kind, c :: rest.take n⟩) := marked
      obtain ⟨comment, marks, ownLine, -⟩ := exists_marks_cons here last tail marked
      rw [marks] at first
      cases first
      rw [ownLine] at own
      refine ⟨fun read => absurd (Option.isNone_iff_eq_none.1 own) read, fun t mem early => ?_⟩
      rcases List.mem_append.1 mem with mem | mem
      · exact absurd (Option.isNone_iff_eq_none.1 own) (le_of_mem_tokensOf marked mem).2
      · have later := le_of_mem_place mem
        rw [Cursor.advance_offset] at later
        simp only at some early later
        omega
    · rw [marks_cons_of_not_isMarked marked] at first
      have below := (precedes_of_mem_marks (first ▸ List.mem_cons_self)).2
      obtain ⟨read, above⟩ := ih _ _ d more first some own
      cases kind with
      | newline =>
        cases reads
        have next : (here.advance [.scalar '\n']).line = here.line + 1 := rfl
        have line : here.line < d.2.line := by
          simp only [List.take_zero, next] at below
          omega
        refine ⟨fun _ => line, fun t mem => ?_⟩
        rcases List.mem_append.1 mem with mem | mem
        · intro _
          rwa [eq_of_mem_impliedSemicolon mem]
        · exact above t mem
      | blank =>
        exact ⟨fun some => Nat.lt_of_le_of_lt forward.2 (read some), above⟩
      | lineComment => exact absurd (.inl rfl) marked
      | blockComment => exact absurd (.inr rfl) marked
      | token k =>
        have line : here.line < d.2.line :=
          Nat.lt_of_le_of_lt forward.2 (read (Option.some_ne_none _))
        refine ⟨fun _ => line, fun t mem => ?_⟩
        rcases List.mem_append.1 mem with mem | mem
        · intro _
          obtain rfl := List.mem_singleton.1 mem
          exact line
        · exact above t mem

/-- Tokens between a comment on a line of its own and the next one stand on lines above the
latter. -/
theorem line_lt_of_infix {t : Text} {lexemes : List Lexeme} (h : split t = (lexemes, none)) :
    ∀ (here : Cursor) (last : Option Token) (a b : Span × Comment),
      [a, b] <:+: marks here last lexemes → a.1.start < a.1.stop → b.1.start < b.1.stop →
        a.2.ownLine = true → b.2.ownLine = true →
          ∀ t ∈ (place here last lexemes).tokens, a.1.stop ≤ t.start → t.start ≤ b.1.start →
            t.line < b.2.line := by
  refine split_induction (motive := fun _ lexemes => ∀ (here : Cursor) (last : Option Token)
    (a b : Span × Comment), [a, b] <:+: marks here last lexemes → a.1.start < a.1.stop →
      b.1.start < b.1.stop → a.2.ownLine = true → b.2.ownLine = true →
        ∀ t ∈ (place here last lexemes).tokens, a.1.stop ≤ t.start → t.start ≤ b.1.start →
          t.line < b.2.line) ?_ ?_ h
  · intro here last a b inside
    cases List.eq_nil_of_infix_nil inside
  · intro c rest kind n tail reads below ih here last a b inside some some' own own' t mem late
      early
    rw [place_cons] at mem
    -- What the first lexeme places ends before later comments begin.
    have deeper (inside : [a, b] <:+: marks (here.advance (c :: rest.take n))
        (lastAfter here last ⟨kind, c :: rest.take n⟩) tail) : t.line < b.2.line := by
      rcases List.mem_append.1 mem with mem | mem
      · have bounds := between_of_mem_tokensOf mem
        have behind := (precedes_of_mem_marks (inside.subset List.mem_cons_self)).1
        have order := bounds.order
        have stop := bounds.stop
        simp only at stop
        omega
      · exact ih _ _ a b inside some some' own own' t mem late early
    by_cases marked : IsMarked kind
    · have marked : IsMarked (Lexeme.kind ⟨kind, c :: rest.take n⟩) := marked
      obtain ⟨comment, marks, ownLine, -⟩ := exists_marks_cons here last tail marked
      rw [marks] at inside
      rcases List.infix_cons_iff.1 inside with front | inside
      · obtain ⟨rfl, more, next⟩ := List.cons_prefix_cons.1 front
        rw [ownLine] at own
        rcases List.mem_append.1 mem with mem | mem
        · exact absurd (Option.isNone_iff_eq_none.1 own) (le_of_mem_tokensOf marked mem).2
        · exact (line_lt_of_head below _ _ b more next.symm some' own').2 t mem early
      · exact deeper inside
    · rw [marks_cons_of_not_isMarked marked] at inside
      exact deeper inside

end Listing

end EnumText
