import EnumText.Proofs.Declaration.Balance
import EnumText.Proofs.Declaration.Reading
import EnumText.Proofs.Listing.Yielding

/-!
# Texts of expressions

`Text.IsExpression` describes a text on one line whose brackets are balanced and whose commas and
semicolons stand inside of brackets, by the listing of the text alone.

* `Text.isExpression_iff`: whether a text is one can be computed.
* `Yields.inline`: wherever a text on one line is written, its tokens have it as their text.
* `Yields.expression`: those of an expression hang together.
-/

namespace EnumText

open Declaration
open Lexeme (split Apart)

/-! ## Lexemes on one line -/

/-- A lexeme of some length that is neither a comment nor a line break. -/
structure Lexeme.IsInline (x : Lexeme) : Prop where
  ne_nil : x.spelling ≠ []
  kind : x.kind = .blank ∨ ∃ k, x.kind = .token k

namespace Layout

/-- Comments are the lexemes that place comments. -/
theorem kind_of_comments_eq_nil {here : Cursor} {last : Option Token} {lexemes : List Lexeme}
    (h : (run here last lexemes).comments = []) :
    ∀ x ∈ lexemes, x.kind ≠ .lineComment ∧ x.kind ≠ .blockComment := by
  induction lexemes generalizing here last with
  | nil => exact fun _ mem => nomatch mem
  | cons lexeme rest ih =>
    rcases List.append_eq_nil_iff.1 h with ⟨first, below⟩
    refine List.forall_mem_cons.2 ⟨⟨fun kind => ?_, fun kind => ?_⟩, ih below⟩
    · rw [commentsOf, kind] at first
      cases first
    · rw [commentsOf, kind] at first
      cases first

variable {here : Cursor} {last : Option Token} {lexemes : List Lexeme}

/-- On one line, tokens do not depend on what stands before them. -/
theorem tokens_run_of_inline (inline : ∀ x ∈ lexemes, x.IsInline) (last' : Option Token) :
    (run here last lexemes).tokens = (run here last' lexemes).tokens := by
  induction lexemes generalizing here last last' with
  | nil => rfl
  | cons lexeme rest ih =>
    rcases List.forall_mem_cons.1 inline with ⟨⟨-, kind⟩, others⟩
    have same : tokensOf here last lexeme = tokensOf here last' lexeme := by
      rcases kind with blank | ⟨k, token⟩
      · rw [tokensOf, tokensOf, blank]
      · rw [tokensOf, tokensOf, token]
    rw [run, run, same, ih others]

/-- On one line, tokens take room in the source. -/
theorem start_lt_stop_of_inline (inline : ∀ x ∈ lexemes, x.IsInline) :
    ∀ t ∈ (run here last lexemes).tokens, t.start < t.stop := by
  induction lexemes generalizing here last with
  | nil => exact fun _ mem => nomatch mem
  | cons lexeme rest ih =>
    rcases List.forall_mem_cons.1 inline with ⟨⟨ne_nil, kind⟩, others⟩
    intro t mem
    rcases List.mem_append.1 mem with mem | mem
    · rcases kind with blank | ⟨k, token⟩
      · rw [tokensOf, blank] at mem
        cases mem
      · rw [tokensOf, token] at mem
        obtain rfl := List.mem_singleton.1 mem
        have length := List.length_pos_iff.2 ne_nil
        dsimp only
        rw [Cursor.advance_offset]
        omega
    · exact ih others t mem

/-- On one line, the last token is the last one that is placed. -/
theorem last_run_of_inline (inline : ∀ x ∈ lexemes, x.IsInline) :
    (run here last lexemes).last = (run here last lexemes).tokens.getLast?.or last := by
  induction lexemes generalizing here last with
  | nil => rfl
  | cons lexeme rest ih =>
    rcases List.forall_mem_cons.1 inline with ⟨⟨-, kind⟩, others⟩
    rw [run, ih others, List.getLast?_append]
    rcases kind with blank | ⟨k, token⟩
    · rw [tokensOf, lastAfter, blank]
      simp
    · rw [tokensOf, lastAfter, token]
      simp

end Layout

/-! ## Expressions -/

namespace Listing

/-- The tokens that take room in the source. -/
def realTokens (l : Listing) : List Token := l.tokens.filter fun t => t.start < t.stop

/-- A source is one expression: it has no comments, begins and ends with a token, closes the
brackets that it opens, and has commas and semicolons only inside of brackets. -/
structure OneExpression (l : Listing) : Prop where
  comments : l.comments = []
  first : ∃ t ∈ l.realTokens.head?, t.start = 0
  last : ∃ t ∈ l.realTokens.getLast?, t.stop = l.source.length
  nonneg (n : Nat) : 0 ≤ openBrackets (l.realTokens.take n)
  closed : openBrackets l.realTokens = 0
  apart (before : List Token) (t : Token) (after : List Token) :
    l.realTokens = before ++ t :: after → openBrackets before = 0 →
      t.kind ≠ .comma ∧ t.kind ≠ .semicolon

end Listing

/-- Whether a text is one expression on one line. -/
def Text.IsExpression (v : Text) : Prop :=
  .scalar '\n' ∉ v ∧ ∃ l, Listing.ofText? v = .ok l ∧ l.OneExpression

namespace Listing

theorem OneExpression.balanced {l : Listing} (h : l.OneExpression) :
    openAfter [.comma, .semicolon] 0 (l.realTokens.map (·.kind)) = some 0 := by
  refine openAfter_eq_some_iff.2 ⟨fun n => ?_, ?_, fun before t after same zero => ?_⟩
  · have nonneg := h.nonneg n
    omega
  · rw [h.closed]
    rfl
  · have apart := h.apart before t after same (by omega)
    simp [apart]

/-- Tokens from the beginning of a source to its end have all of it as their text. -/
theorem textOf_of_bounds {l : Listing} {ts : List Token} (first : ∃ t ∈ ts.head?, t.start = 0)
    (last : ∃ t ∈ ts.getLast?, t.stop = l.source.length) : l.textOf ts = l.source := by
  obtain ⟨first, head, start⟩ := first
  obtain ⟨last, tail, stop⟩ := last
  rw [textOf, Option.mem_def.1 head, Option.mem_def.1 tail]
  dsimp only
  rw [start, stop, Text.slice, List.drop_zero, Nat.sub_zero, List.take_length]

theorem OneExpression.ne_nil {l : Listing} (h : l.OneExpression) : l.realTokens ≠ [] := by
  obtain ⟨first, head, -⟩ := h.first
  intro empty
  rw [empty] at head
  cases head

/-- Whether a source is one expression, computed. -/
def isOneExpression (l : Listing) : Bool :=
  l.comments.isEmpty && l.realTokens.head?.any (·.start = 0) &&
    l.realTokens.getLast?.any (·.stop = l.source.length) &&
    openAfter [.comma, .semicolon] 0 (l.realTokens.map (·.kind)) = some 0

theorem isOneExpression_iff {l : Listing} : l.isOneExpression = true ↔ l.OneExpression := by
  simp only [isOneExpression, Bool.and_eq_true, List.isEmpty_iff, Option.any_eq_true,
    decide_eq_true_eq]
  constructor
  · intro h
    rcases h with ⟨⟨⟨comments, first⟩, last⟩, balanced⟩
    rcases openAfter_eq_some_iff.1 balanced with ⟨nonneg, closed, apart⟩
    refine ⟨comments, ?_, ?_, fun n => ?_, ?_, fun before t after same zero => ?_⟩
    · obtain ⟨t, head, start⟩ := first
      exact ⟨t, head, start⟩
    · obtain ⟨t, tail, stop⟩ := last
      exact ⟨t, tail, stop⟩
    · have nonneg := nonneg n
      omega
    · omega
    · have apart := apart before t after same (by omega)
      simpa using apart
  · intro h
    exact ⟨⟨⟨h.comments, h.first⟩, h.last⟩, h.balanced⟩

/-- The tokens of an expression are those of a single line. -/
theorem inline_of_expression {v : Text} {lexemes : List Lexeme} (inline : .scalar '\n' ∉ v)
    (cut : split v = (lexemes, none)) (here : Cursor)
    (comments : (Layout.run here none lexemes).comments = []) : ∀ x ∈ lexemes, x.IsInline := by
  intro x mem
  rcases Layout.kind_of_comments_eq_nil comments x mem with ⟨noLine, noBlock⟩
  rcases Lexeme.ne_nil_of_split cut x mem with ⟨ne_nil, newline⟩
  refine ⟨ne_nil, ?_⟩
  cases kind : x.kind with
  | newline => exact absurd (newline kind) inline
  | blank => exact .inl rfl
  | lineComment => exact absurd kind noLine
  | blockComment => exact absurd kind noBlock
  | token k => exact .inr ⟨k, rfl⟩

theorem realTokens_of_inline {v : Text} {lexemes : List Lexeme}
    (inline : ∀ x ∈ lexemes, x.IsInline) :
    realTokens ⟨Layout.place .start none lexemes, v⟩ =
      (Layout.run .start none lexemes).tokens := by
  have implied (last : Option Token) (spelling : Text) (here : Cursor) :
      (Layout.impliedSemicolon last spelling here).filter (fun t => t.start < t.stop) = [] := by
    refine List.filter_eq_nil_iff.2 fun t mem => ?_
    simp [Layout.eq_of_mem_impliedSemicolon mem, Layout.emptyToken]
  have kept : (Layout.run .start none lexemes).tokens.filter (fun t => t.start < t.stop) =
      (Layout.run .start none lexemes).tokens := by
    apply List.filter_eq_self.2
    intro t mem
    exact decide_eq_true (Layout.start_lt_stop_of_inline inline t mem)
  rw [realTokens, Layout.place_eq_run, List.filter_append, implied, kept, List.append_nil]

/-- On one line, only the end of the file can imply a semicolon. -/
theorem realTokens_prefix_tokens {v : Text} {l : Listing} (inline : .scalar '\n' ∉ v)
    (listed : ofText? v = .ok l) (comments : l.comments = []) : l.realTokens <+: l.tokens := by
  rcases ofText?_eq_ok_iff.1 listed with ⟨lexemes, cut, rfl⟩
  rw [Layout.place_eq_run] at comments
  rw [realTokens_of_inline (inline_of_expression inline cut .start comments), Layout.place_eq_run]
  exact List.prefix_append _ _

end Listing

theorem Text.isExpression_iff {v : Text} :
    v.IsExpression ↔ .scalar '\n' ∉ v ∧
      (Listing.ofText? v).toOption.any Listing.isOneExpression = true := by
  refine and_congr_right fun _ => ?_
  cases Listing.ofText? v with
  | error e =>
    constructor
    · intro h
      rcases h with ⟨l, listed, -⟩
      cases listed
    · intro h
      cases h
  | ok l =>
    constructor
    · intro h
      rcases h with ⟨l', listed, one⟩
      cases listed
      exact Listing.isOneExpression_iff.2 one
    · intro h
      exact ⟨l, rfl, Listing.isOneExpression_iff.1 h⟩

instance (v : Text) : Decidable v.IsExpression := decidable_of_iff' _ Text.isExpression_iff

/-- Whether the first tokens of a text have given kinds. -/
def Text.StartsAs (v : Text) (kinds : List Token.Kind) : Prop :=
  ∃ l, Listing.ofText? v = .ok l ∧ kinds <+: l.tokens.map (·.kind)

theorem Text.startsAs_iff {v : Text} {kinds : List Token.Kind} :
    v.StartsAs kinds ↔ (Listing.ofText? v).toOption.any
      (fun l => kinds.isPrefixOf (l.tokens.map (·.kind))) = true := by
  unfold StartsAs
  cases Listing.ofText? v <;> simp [Except.toOption]

instance (v : Text) (kinds : List Token.Kind) : Decidable (v.StartsAs kinds) :=
  decidable_of_iff' _ Text.startsAs_iff

theorem Cursor.one_le_column_advance (t : Text) : 1 ≤ (Cursor.start.advance t).column := by
  have from_ (here : Cursor) (positive : 1 ≤ here.column) : 1 ≤ (here.advance t).column := by
    induction t generalizing here with
    | nil => exact positive
    | cons c t ih =>
      apply ih (here.step c)
      unfold Cursor.step
      split
      · exact Nat.le_refl 1
      · exact Nat.le_add_left 1 _
  exact from_ .start (Nat.le_refl 1)

/-- Each place is the beginning of a source, displaced. -/
theorem Cursor.exists_shift (before : Text) :
    ∃ s : Shift, Cursor.start.advance before = Cursor.start.shift s ∧ s.offset = before.length := by
  have offset := Cursor.start.advance_offset before
  have line := Cursor.start.advance_line before
  have column := Cursor.one_le_column_advance before
  generalize Cursor.start.advance before = here at offset line column ⊢
  obtain ⟨o, n, c⟩ := here
  refine ⟨⟨before.length, before.count (.scalar '\n'), c - 1⟩, ?_, rfl⟩
  rw [Cursor.shift, Cursor.mk.injEq]
  exact ⟨offset, line, (Nat.add_sub_cancel' column).symm⟩

namespace Listing

variable {ends : Bool} {more v : Text} {Q : Listing → List Token → Prop}

/-- An expression comes first, and the rest satisfies `Q`. -/
def Expressed (v : Text) (Q : Listing → List Token → Prop) (l : Listing) (ts : List Token) : Prop :=
  ∃ value rest, ts = value ++ rest ∧ value ≠ [] ∧
    openAfter [.comma, .semicolon] 0 (value.map (·.kind)) = some 0 ∧ l.textOf value = v ∧ Q l rest

/-- A text on one line, without comments and from its first token to its last, comes first, and the
rest satisfies `Q`. The tokens have the kinds that they have where the text stands alone, and a line
break after them ends a statement if it does so there. -/
theorem Yields.inline {l₀ : Listing} (inline : .scalar '\n' ∉ v) (listed : ofText? v = .ok l₀)
    (comments : l₀.comments = []) (first : ∃ t ∈ l₀.realTokens.head?, t.start = 0)
    (last : ∃ t ∈ l₀.realTokens.getLast?, t.stop = l₀.source.length) (next : Apart more)
    (h : Yields (l₀.realTokens.getLast?.any Token.endsStatement) more Q) :
    Yields ends (v ++ more) fun l ts => ∃ value rest, ts = value ++ rest ∧
      value.map (·.kind) = l₀.realTokens.map (·.kind) ∧ l.textOf value = v ∧ Q l rest := by
  rcases ofText?_eq_ok_iff.1 listed with ⟨lexemes, cut, rfl⟩
  have spelled := Lexeme.flatMap_spelling cut
  have inlines : ∀ x ∈ lexemes, x.IsInline := by
    apply inline_of_expression inline cut .start
    rw [Layout.place_eq_run] at comments
    exact comments
  have stop : ∀ last ∈ lexemes.getLast?, ∀ s ∈ more.head?, last.kind.endsBefore s = true := by
    intro last mem s after
    have ends := (next s after).2
    have part := Lexeme.isIdentifierPart_of_endsNumber ends
    rcases (inlines last (List.mem_of_getLast? mem)).kind with blank | ⟨k, token⟩
    · rw [blank]
      rfl
    · rw [token]
      cases k <;> simp [Lexeme.Kind.endsBefore, ends, part]
  have real := realTokens_of_inline (v := v) inlines
  have state : (Lexeme.signs ends lexemes).2 =
      (realTokens ⟨Layout.place .start none lexemes, v⟩).getLast?.any Token.endsStatement := by
    obtain ⟨before, before_ends⟩ :
        ∃ before : Option Token, before.any Token.endsStatement = ends := by
      cases ends with
      | false => exact ⟨none, rfl⟩
      | true => exact ⟨some (Layout.emptyToken (.closing .round) [] .start), rfl⟩
    obtain ⟨t, tail, -⟩ := last
    have signs := (Layout.run_signs .start before lexemes).2
    rw [before_ends, Layout.last_run_of_inline inlines, Layout.tokens_run_of_inline inlines none,
      ← real, Option.mem_def.1 tail] at signs
    rw [← signs, Option.mem_def.1 tail]
    rfl
  rw [← state] at h
  apply (Yields.append cut next.soft stop h).imp
  intro l ts found
  obtain ⟨before, last', rest, source, rfl, -, below⟩ := found
  rcases Cursor.exists_shift before with ⟨s, place, offset⟩
  have moved : (Layout.run (Cursor.start.advance before) last' lexemes).tokens =
      (realTokens ⟨Layout.place .start none lexemes, v⟩).map (·.shift s) := by
    have sideways : ∀ x ∈ lexemes, .scalar '\n' ∉ x.spelling := by
      intro x mem newline
      exact inline (spelled ▸ List.mem_flatMap.2 ⟨x, mem, newline⟩)
    rw [real, place, Layout.tokens_run_of_inline inlines none]
    exact congrArg Layout.Run.tokens (Layout.run_shift s .start none (.inr sideways))
  refine ⟨_, rest, rfl, ?_, ?_, below⟩
  · rw [moved, List.map_map]
    rfl
  · have whole : Listing.source ⟨Layout.place .start none lexemes, v⟩ = [] ++ v := rfl
    rw [moved, textOf_shift [] v before more whole source, textOf_of_bounds first last]
    · rw [offset, List.length_nil, Nat.zero_add]
    · intro t mem
      rw [real] at mem
      rcases (Layout.between_run _ _ _).tokens _ mem with ⟨-, order, stop, -, -⟩
      rw [spelled, Cursor.advance_offset] at stop
      exact ⟨Nat.zero_le _, order, by simpa [Cursor.start] using stop⟩

/-- An expression comes first, and the rest satisfies `Q`. Its first tokens are those that it has
where it stands alone. -/
theorem Yields.value (expression : v.IsExpression) (next : Apart more)
    (h : ∀ ends, Yields ends more Q) :
    Yields ends (v ++ more) fun l ts => ∃ value rest, ts = value ++ rest ∧ value ≠ [] ∧
      openAfter [.comma, .semicolon] 0 (value.map (·.kind)) = some 0 ∧
      (∀ kinds, kinds <+: value.map (·.kind) → v.StartsAs kinds) ∧ l.textOf value = v ∧
      Q l rest := by
  obtain ⟨inline, l₀, listed, one⟩ := expression
  apply (Yields.inline inline listed one.comments one.first one.last next (h _)).imp
  intro l ts found
  obtain ⟨value, rest, rfl, kinds, same, below⟩ := found
  refine ⟨value, rest, rfl, ?_, ?_, fun front starts => ⟨l₀, listed, ?_⟩, same, below⟩
  · have some := one.ne_nil
    rintro rfl
    exact some (List.map_eq_nil_iff.1 kinds.symm)
  · rw [kinds]
    exact one.balanced
  · rw [kinds] at starts
    exact starts.trans ((realTokens_prefix_tokens inline listed one.comments).map _)

theorem Yields.expression (expression : v.IsExpression)
    (next : Apart more) (h : ∀ ends, Yields ends more Q) :
    Yields ends (v ++ more) (Expressed v Q) := by
  apply (Yields.value expression next h).imp
  intro l ts found
  obtain ⟨value, rest, same, some, apart, -, whole, below⟩ := found
  exact ⟨value, rest, same, some, apart, whole, below⟩

end Listing

end EnumText
