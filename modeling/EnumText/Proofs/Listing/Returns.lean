import EnumText.Proofs.Listing.DocComments
import EnumText.Proofs.Token.Returns
import Mathlib.Data.List.Forall2

/-!
# Listings of texts with carriage returns

The lexemes of a text with carriage returns are placed on the same lines as those of the text
without them. Both have the same tokens and comments, up to the carriage returns inside of raw
strings and block comments, and the offsets tell how far the two texts have come.

* `Text.Meets`: the same place in both texts.
* `Token.Returned`, `Comment.Returned`: tokens and comments that go together.
* `Layout.place_returned`: the layouts of lexemes that go together.
-/

namespace EnumText

open List (Forall₂)
open Lexeme (Returned)

/-! ## What goes together -/

/-- The same place in a text and in the text with carriage returns, by its offsets. -/
def Text.Meets (source : Text) (n n' : Nat) : Prop :=
  ∃ before : Text, before <+: source ∧ n = before.length ∧ n' = before.withReturns.length

/-- A token of a text and that of the text with carriage returns. An implied semicolon may stand
before the carriage return or behind it. -/
structure Token.Returned (source : Text) (t u : Token) : Prop where
  kind : u.kind = t.kind
  line : u.line = t.line
  spelling : u.spelling.withoutReturns = t.spelling
  plain : t.kind ≠ .rawString → u.spelling = t.spelling
  start : t.kind ≠ .semicolon → source.Meets t.start u.start
  stop : t.kind ≠ .semicolon → source.Meets t.stop u.stop

/-- A comment of a text and that of the text with carriage returns. -/
structure Comment.Returned (c d : Comment) : Prop where
  moved : d = c.move Text.withReturns 0
  back : c = d.move Text.withoutReturns 0

/-- Positions before lexemes that go together, after a text. -/
structure Cursor.Returned (before : Text) (here here' : Cursor) : Prop where
  line : here'.line = here.line
  offset : here.offset = before.length
  offset' : here'.offset = before.withReturns.length

variable {source before : Text} {here here' : Cursor}

theorem Cursor.Returned.advance (h : here.Returned before here') (piece : Text) :
    (here.advance piece).Returned (before ++ piece) (here'.advance piece.withReturns) where
  line := by rw [advance_line, advance_line, Text.count_withReturns, h.line]
  offset := by rw [advance_offset, h.offset, List.length_append]
  offset' := by rw [advance_offset, h.offset', Text.withReturns_append, List.length_append]

theorem Cursor.Returned.line_advance_return (h : here.Returned before here') :
    (here'.advance (text "\r")).line = here.line := by
  rw [advance_line, h.line]
  rfl

theorem Cursor.Returned.meets (h : here.Returned before here') (inside : before <+: source) :
    source.Meets here.offset here'.offset := ⟨before, inside, h.offset, h.offset'⟩

/-- A line break ends a statement after both or after neither. -/
theorem Token.Returned.endsStatement {t u : Token} (h : t.Returned source u) :
    u.endsStatement = t.endsStatement := by
  by_cases raw : t.kind = .rawString
  · rw [Token.endsStatement, Token.endsStatement, h.kind, raw]
  · rw [Token.endsStatement, Token.endsStatement, h.kind, h.plain raw]

/-- A comment on one line is the same in both texts. -/
theorem comment_returned {s : Text} (clean : .scalar '\r' ∉ s) (inline : .scalar '\n' ∉ s)
    (line endLine : Nat) (ownLine : Bool) :
    Comment.Returned ⟨s, line, endLine, ownLine⟩ ⟨s, line, endLine, ownLine⟩ where
  moved := by
    rw [Comment.move, Text.withReturns_of_not_mem inline]
    rfl
  back := by
    rw [Comment.move, Text.withoutReturns_of_not_mem clean]
    rfl

namespace Layout

variable {last last' : Option Token}

theorem impliedSemicolon_returned (lasts : Option.Rel (Token.Returned source) last last')
    (line : here'.line = here.line) {spelling : Text} (clean : .scalar '\r' ∉ spelling) :
    Forall₂ (Token.Returned source) (impliedSemicolon last spelling here)
      (impliedSemicolon last' spelling here') := by
  have ends : last'.any Token.endsStatement = last.any Token.endsStatement := by
    cases lasts with
    | none => rfl
    | some together => exact together.endsStatement
  unfold impliedSemicolon
  rw [ends]
  split
  · exact .cons ⟨rfl, line, Text.withoutReturns_of_not_mem clean, fun _ => rfl,
      fun other => absurd rfl other, fun other => absurd rfl other⟩ .nil
  · exact .nil

/-! ## One lexeme -/

section One

variable (at_ : here.Returned before here') {x : Lexeme} (clean : .scalar '\r' ∉ x.spelling)
variable (inline : x.kind ≠ .blockComment → x.kind ≠ .token .rawString →
  .scalar '\n' ∉ x.spelling)

include at_ clean inline

theorem commentsOf_returned (first : last'.isNone = last.isNone) :
    Forall₂ Comment.Returned (commentsOf here last x)
      (commentsOf here' last' ⟨x.kind, x.spelling.withReturns⟩) := by
  have below := (at_.advance x.spelling).line
  rw [commentsOf, commentsOf, below, at_.line, first]
  cases kind : x.kind with
  | newline | blank | token k => exact .nil
  | lineComment =>
    have flat := inline (by simp [kind]) (by simp [kind])
    dsimp only
    rw [Text.withReturns_of_not_mem flat, Text.trimRight_of_not_mem clean]
    exact .cons (comment_returned clean flat _ _ _) .nil
  | blockComment =>
    refine .cons ⟨rfl, ?_⟩ .nil
    rw [Comment.move, Text.withoutReturns_withReturns clean]
    rfl

variable (inside : before ++ x.spelling <+: source)

include inside

theorem written_returned {k : Token.Kind} (kind : x.kind = .token k) :
    Token.Returned source
      ⟨k, x.spelling, here.line, here.column, here.offset, (here.advance x.spelling).offset⟩
      ⟨k, x.spelling.withReturns, here'.line, here'.column, here'.offset,
        (here'.advance x.spelling.withReturns).offset⟩ where
  kind := rfl
  line := at_.line
  spelling := Text.withoutReturns_withReturns clean
  plain raw := Text.withReturns_of_not_mem (inline (by simp [kind]) (by simpa [kind] using raw))
  start _ := at_.meets ((List.prefix_append before _).trans inside)
  stop _ := (at_.advance x.spelling).meets inside

variable (lasts : Option.Rel (Token.Returned source) last last')

include lasts

theorem lastAfter_returned :
    Option.Rel (Token.Returned source) (lastAfter here last x)
      (lastAfter here' last' ⟨x.kind, x.spelling.withReturns⟩) := by
  have written {k : Token.Kind} (kind : x.kind = .token k) :=
    written_returned at_ clean inline inside kind
  rw [lastAfter, lastAfter, (at_.advance x.spelling).line, at_.line]
  cases kind : x.kind with
  | newline => exact .none
  | blank | lineComment => exact lasts
  | blockComment =>
    dsimp only
    split
    · exact .none
    · exact lasts
  | token k => exact .some (by simpa only [at_.line] using written kind)

theorem tokensOf_returned :
    Forall₂ (Token.Returned source) (tokensOf here last x)
      (tokensOf here' last' ⟨x.kind, x.spelling.withReturns⟩) := by
  have written {k : Token.Kind} (kind : x.kind = .token k) :=
    written_returned at_ clean inline inside kind
  have below := (at_.advance x.spelling).line
  rw [tokensOf, tokensOf, below, at_.line]
  cases kind : x.kind with
  | newline => exact impliedSemicolon_returned lasts at_.line (by decide)
  | blank | lineComment => exact .nil
  | blockComment =>
    dsimp only
    split
    · exact impliedSemicolon_returned lasts below (by decide)
    · exact .nil
  | token k => exact .cons (by simpa only [at_.line] using written kind) .nil

end One

/-! ## All lexemes -/

/-- Lexemes that go together are placed on the same lines. -/
theorem place_returned {xs ys : List Lexeme} (h : Returned xs ys) (at_ : here.Returned before here')
    (whole : source = before ++ xs.flatMap Lexeme.spelling) (clean : .scalar '\r' ∉ source)
    (lasts : Option.Rel (Token.Returned source) last last') :
    Forall₂ (Token.Returned source) (place here last xs).tokens (place here' last' ys).tokens ∧
      (place here last xs).eof.Returned source (place here' last' ys).eof ∧
      Forall₂ Comment.Returned (place here last xs).comments (place here' last' ys).comments := by
  induction h generalizing before here here' last last' with
  | nil =>
    have meets : source.Meets here.offset here'.offset := at_.meets (by simp [whole])
    exact ⟨impliedSemicolon_returned lasts at_.line (by decide),
      ⟨rfl, at_.line, rfl, fun _ => rfl, fun _ => meets, fun _ => meets⟩, .nil⟩
  | newline rest ih =>
    obtain ⟨tokens, eof, comments⟩ := ih (at_.advance (text "\n"))
      (by rw [whole, List.flatMap_cons, List.append_assoc]) .none
    have implied := impliedSemicolon_returned lasts at_.line_advance_return
      (show .scalar '\r' ∉ text "\n" by decide)
    rw [place_cons, place_cons, place_cons]
    exact ⟨List.rel_append implied tokens, eof, comments⟩
  | @lineComment s xs ys inline rest ih =>
    have spelled : source = before ++ s ++ text "\n" ++ xs.flatMap Lexeme.spelling := by
      simp only [whole, List.flatMap_cons, List.append_assoc]
    have own : .scalar '\r' ∉ s := fun mem => clean (by simp [spelled, mem])
    have behind := at_.advance s
    have first : last'.isNone = last.isNone := by cases lasts <;> rfl
    have implied := impliedSemicolon_returned lasts behind.line_advance_return
      (show .scalar '\r' ∉ text "\n" by decide)
    rw [Text.withReturns_of_not_mem inline] at behind implied
    obtain ⟨tokens, eof, comments⟩ := ih (behind.advance (text "\n")) spelled .none
    rw [place_cons, place_cons, place_cons, place_cons]
    simp only [tokensOf, lastAfter, commentsOf, Cursor.advance_append, first, at_.line,
      Text.trimRight_return, Text.trimRight_of_not_mem own]
    exact ⟨List.rel_append implied tokens, eof, .cons (comment_returned own inline _ _ _) comments⟩
  | @same x xs ys inline rest ih =>
    have spelled : source = before ++ x.spelling ++ xs.flatMap Lexeme.spelling := by
      rw [whole, List.flatMap_cons, List.append_assoc]
    have inside : before ++ x.spelling <+: source := ⟨_, spelled.symm⟩
    have own : .scalar '\r' ∉ x.spelling := fun mem =>
      clean (inside.subset (List.mem_append_right _ mem))
    have first : last'.isNone = last.isNone := by cases lasts <;> rfl
    obtain ⟨tokens, eof, comments⟩ := ih (at_.advance x.spelling) spelled
      (lastAfter_returned at_ own inline inside lasts)
    rw [place_cons, place_cons]
    exact ⟨List.rel_append (tokensOf_returned at_ own inline inside lasts) tokens, eof,
      List.rel_append (commentsOf_returned at_ own inline first) comments⟩

end Layout

end EnumText
