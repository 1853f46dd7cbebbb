import Mathlib.Data.List.Forall2
import Mathlib.Data.List.Induction
import Mathlib.Data.List.Pairwise
import EnumText.Proofs.Declaration.Reading
import EnumText.Proofs.Listing.Yielding
import EnumText.Proofs.Text.Spans
import EnumText.Proofs.Token.Splitting

/-!
# Tokens and comments tile their source

`Text.lineAt` and `Text.columnAt` tell the place of an offset by the text before it alone.
`Fills source n ts spans cs` says that tokens and comments fill a source from an offset on, each
where the one before it ends, with nothing but white space between them. Every statement about the
spans of a listing is an induction along this relation.

* `fills_place`: what is placed for lexemes fills their text.
* `tiled_of_ofText?`: the tokens and comments of a listing tile its source.
-/

namespace EnumText

/-! ## Offsets -/

namespace Text

/-- The line of an offset: one more than the line breaks before it. -/
def lineAt (t : Text) (n : Nat) : Nat := (t.take n).count (.scalar '\n') + 1

/-- The column of an offset: its distance from the last line break before it. -/
def columnAt (t : Text) (n : Nat) : Nat :=
  ((t.take n).reverse.takeWhile (· ≠ .scalar '\n')).length + 1

/-- The position before the rune of an offset. -/
def placeAt (t : Text) (n : Nat) : Cursor := ⟨n, t.lineAt n, t.columnAt n⟩

end Text

/-- The place after a text is told by the text alone. -/
theorem Cursor.start_advance (before after : Text) :
    Cursor.start.advance before = Text.placeAt (before ++ after) before.length := by
  have column : (Cursor.start.advance before).column =
      (before.reverse.takeWhile (· ≠ .scalar '\n')).length + 1 := by
    induction before using List.reverseRecOn with
    | nil => rfl
    | append_singleton before c ih =>
      rw [Cursor.advance_append, List.reverse_concat]
      change ((Cursor.start.advance before).step c).column = _
      unfold Cursor.step
      split
      · next newline => rw [newline, List.takeWhile_cons_of_neg (by simp)]; rfl
      · next other => rw [List.takeWhile_cons_of_pos (by simpa using other), ih]; rfl
  have offset := Cursor.start.advance_offset before
  have line := Cursor.start.advance_line before
  rw [Text.placeAt, Text.lineAt, Text.columnAt, List.take_left, ← column, Nat.add_comm _ 1]
  cases place : Cursor.start.advance before with
  | mk o n k =>
    rw [place] at offset line
    rw [Cursor.mk.injEq]
    exact ⟨offset.trans (Nat.zero_add _), line, rfl⟩

/-! ## Tokens and comments in their source -/

namespace Token

/-- The part of the source that a token takes. -/
def span (t : Token) : Span := ⟨t.start, t.stop⟩

/-- A semicolon that is not written, but stands for a line break or for the end of the file. -/
def IsImplied (t : Token) : Prop := t.kind = .semicolon ∧ t.spelling ≠ text ";"

instance (t : Token) : Decidable t.IsImplied :=
  inferInstanceAs (Decidable (t.kind = .semicolon ∧ t.spelling ≠ text ";"))

/-- A token begins at an offset, and has the line and the column of the offset. -/
structure BeginsAt (source : Text) (n : Nat) (t : Token) : Prop where
  start : t.start = n
  line : t.line = source.lineAt n
  column : t.column = source.columnAt n

/-- A token stands in the source with the spelling that it has. -/
structure IsWritten (source : Text) (t : Token) : Prop where
  some : t.start < t.stop
  inside : t.stop ≤ source.length
  spelling : t.spelling = source.slice t.start t.stop
  kind : t.kind ≠ .eof
  semicolon : ¬ t.IsImplied

end Token

/-- A comment takes a part of a source. One with `//` goes up to the end of its line, and is
recorded without the carriage returns at its end. One with `/*` goes up to the first end mark. -/
structure Span.IsComment (source : Text) (s : Span) (c : Comment) : Prop where
  inside : s.stop ≤ source.length
  line : c.line = source.lineAt s.start
  endLine : c.endLine = source.lineAt s.stop
  written :
    (∃ body, source.slice s.start s.stop = text "//" ++ body ∧ .scalar '\n' ∉ body ∧
        (∀ next ∈ source[s.stop]?, next = .scalar '\n') ∧
        c.text = (source.slice s.start s.stop).trimRight (· == .scalar '\r')) ∨
      ∃ body, source.slice s.start s.stop = text "/*" ++ body ++ text "*/" ∧
        ¬ text "*/" <:+: body ++ text "*" ∧ c.text = source.slice s.start s.stop

theorem Span.IsComment.lt {source : Text} {s : Span} {c : Comment} (h : s.IsComment source c) :
    s.start < s.stop := by
  apply Nat.lt_of_sub_pos
  have long : 0 < (source.slice s.start s.stop).length := by
    rcases h.written with ⟨body, same, -⟩ | ⟨body, same, -⟩ <;> simp [same, text]
  rw [Text.slice, List.length_take] at long
  exact Nat.lt_of_lt_of_le long (Nat.min_le_left _ _)

namespace Listing

/-- Tokens and comments fill a source from an offset on. Each begins where the one before it ends,
but for white space between them, and the last token is the end of the file. -/
inductive Fills (source : Text) : Nat → List Token → List Span → List Comment → Prop
  | eof {t : Token} (place : t.BeginsAt source source.length) (empty : t.stop = t.start)
      (kind : t.kind = .eof) : Fills source source.length [t] [] []
  | white {n : Nat} {ts : List Token} {spans : List Span} {cs : List Comment} {c : Rune}
      (here : source[n]? = some c) (white : Lexeme.isWhite c = true) :
      Fills source (n + 1) ts spans cs → Fills source n ts spans cs
  | implied {n : Nat} {ts : List Token} {spans : List Span} {cs : List Comment} {t : Token}
      (place : t.BeginsAt source n) (empty : t.stop = t.start) (implied : t.IsImplied) :
      Fills source n ts spans cs → Fills source n (t :: ts) spans cs
  | token {n : Nat} {ts : List Token} {spans : List Span} {cs : List Comment} {t : Token}
      (place : t.BeginsAt source n) (written : t.IsWritten source) :
      Fills source t.stop ts spans cs → Fills source n (t :: ts) spans cs
  | comment {s : Span} {ts : List Token} {spans : List Span} {cs : List Comment} {c : Comment}
      (taken : s.IsComment source c) :
      Fills source s.stop ts spans cs → Fills source s.start ts (s :: spans) (c :: cs)

namespace Fills

variable {source : Text} {n : Nat} {ts : List Token} {spans : List Span} {cs : List Comment}

theorem le_length (h : Fills source n ts spans cs) : n ≤ source.length := by
  induction h with
  | eof => exact Nat.le_refl _
  | white here _ _ ih => exact Nat.le_of_succ_le ih
  | implied _ _ _ _ ih => exact ih
  | token place written _ ih =>
    rw [← place.start]
    exact Nat.le_trans (Nat.le_of_lt written.some) ih
  | comment taken _ ih => exact Nat.le_trans (Nat.le_of_lt taken.lt) ih

/-- Tokens stand after the offset, and inside of the source. -/
theorem bounds (h : Fills source n ts spans cs) :
    ∀ t ∈ ts, n ≤ t.start ∧ t.start ≤ t.stop ∧ t.stop ≤ source.length := by
  induction h with
  | eof place empty =>
    intro t mem
    obtain rfl := List.mem_singleton.1 mem
    have start := place.start
    omega
  | white _ _ _ ih =>
    intro t mem
    have later := ih t mem
    omega
  | implied place empty _ below ih =>
    have start := place.start
    have inside := below.le_length
    exact List.forall_mem_cons.2 ⟨by omega, ih⟩
  | token place written below ih =>
    have start := place.start
    have some := written.some
    have inside := written.inside
    refine List.forall_mem_cons.2 ⟨by omega, fun t mem => ?_⟩
    have later := ih t mem
    omega
  | comment taken _ ih =>
    have some := taken.lt
    intro t mem
    have later := ih t mem
    omega

/-- No token begins before the one before it ends. -/
theorem pairwise (h : Fills source n ts spans cs) : ts.Pairwise fun a b => a.stop ≤ b.start := by
  induction h with
  | eof => exact List.pairwise_singleton _ _
  | white _ _ _ ih => exact ih
  | implied place empty _ below ih =>
    refine List.pairwise_cons.2 ⟨fun t mem => ?_, ih⟩
    have later := (below.bounds t mem).1
    have start := place.start
    omega
  | token _ _ below ih => exact List.pairwise_cons.2 ⟨fun t mem => (below.bounds t mem).1, ih⟩
  | comment _ _ ih => exact ih

/-- Each token has the place of its offset. -/
theorem places (h : Fills source n ts spans cs) : ∀ t ∈ ts, t.BeginsAt source t.start := by
  induction h with
  | eof place =>
    intro t mem
    obtain rfl := List.mem_singleton.1 mem
    exact place.start.symm ▸ place
  | white _ _ _ ih => exact ih
  | implied place _ _ _ ih => exact List.forall_mem_cons.2 ⟨place.start.symm ▸ place, ih⟩
  | token place _ _ ih => exact List.forall_mem_cons.2 ⟨place.start.symm ▸ place, ih⟩
  | comment _ _ ih => exact ih

/-- A token is written, or takes no room and is a semicolon or the end of the file. -/
theorem written_or_empty (h : Fills source n ts spans cs) :
    ∀ t ∈ ts, t.IsWritten source ∨ t.stop = t.start ∧ (t.IsImplied ∨ t.kind = .eof) := by
  induction h with
  | eof _ empty kind =>
    intro t mem
    obtain rfl := List.mem_singleton.1 mem
    exact .inr ⟨empty, .inr kind⟩
  | white _ _ _ ih => exact ih
  | implied _ empty implied _ ih =>
    exact List.forall_mem_cons.2 ⟨.inr ⟨empty, .inl implied⟩, ih⟩
  | token _ written _ ih => exact List.forall_mem_cons.2 ⟨.inl written, ih⟩
  | comment _ _ ih => exact ih

/-- The end of the file stands once, and last. -/
theorem exists_eof (h : Fills source n ts spans cs) :
    ∃ init eof, ts = init ++ [eof] ∧ eof.kind = .eof ∧ eof.start = source.length ∧
      ∀ t ∈ init, t.kind ≠ .eof := by
  have longer {ts : List Token} {t : Token} (kind : t.kind ≠ .eof)
      (ih : ∃ init eof, ts = init ++ [eof] ∧ eof.kind = .eof ∧ eof.start = source.length ∧
        ∀ t ∈ init, t.kind ≠ .eof) :
      ∃ init eof, t :: ts = init ++ [eof] ∧ eof.kind = .eof ∧ eof.start = source.length ∧
        ∀ t ∈ init, t.kind ≠ .eof := by
    obtain ⟨init, eof, rfl, last, place, others⟩ := ih
    exact ⟨t :: init, eof, rfl, last, place, List.forall_mem_cons.2 ⟨kind, others⟩⟩
  induction h with
  | eof place _ kind => exact ⟨[], _, rfl, kind, place.start, fun _ mem => nomatch mem⟩
  | white _ _ _ ih => exact ih
  | implied _ _ implied _ ih =>
    refine longer (fun same => ?_) ih
    have semicolon := implied.1
    rw [same] at semicolon
    cases semicolon
  | token _ written _ ih => exact longer written.kind ih
  | comment _ _ ih => exact ih

/-! ### Comments -/

theorem forall₂_isComment (h : Fills source n ts spans cs) :
    List.Forall₂ (fun s c => s.IsComment source c) spans cs := by
  induction h with
  | eof => exact .nil
  | white _ _ _ ih => exact ih
  | implied _ _ _ _ ih => exact ih
  | token _ _ _ ih => exact ih
  | comment taken _ ih => exact .cons taken ih

theorem le_of_mem_spans (h : Fills source n ts spans cs) : ∀ s ∈ spans, n ≤ s.start := by
  induction h with
  | eof => exact fun _ mem => nomatch mem
  | white _ _ _ ih => exact fun s mem => Nat.le_of_succ_le (ih s mem)
  | implied _ _ _ _ ih => exact ih
  | token place written _ ih =>
    intro s mem
    have later := ih s mem
    have start := place.start
    have some := written.some
    omega
  | comment taken _ ih =>
    have some := taken.lt
    refine List.forall_mem_cons.2 ⟨Nat.le_refl _, fun s mem => ?_⟩
    have later := ih s mem
    omega

theorem pairwise_spans (h : Fills source n ts spans cs) :
    spans.Pairwise fun a b => a.stop ≤ b.start := by
  induction h with
  | eof => exact .nil
  | white _ _ _ ih => exact ih
  | implied _ _ _ _ ih => exact ih
  | token _ _ _ ih => exact ih
  | comment _ below ih => exact List.pairwise_cons.2 ⟨below.le_of_mem_spans, ih⟩

/-- No token reaches into a comment. -/
theorem apart (h : Fills source n ts spans cs) :
    ∀ s ∈ spans, ∀ t ∈ ts, t.stop ≤ s.start ∨ s.stop ≤ t.start := by
  induction h with
  | eof => exact fun _ mem => nomatch mem
  | white _ _ _ ih => exact ih
  | implied place empty _ below ih =>
    intro s mem
    have later := below.le_of_mem_spans s mem
    have start := place.start
    exact List.forall_mem_cons.2 ⟨.inl (by omega), ih s mem⟩
  | token _ _ below ih =>
    intro s mem
    exact List.forall_mem_cons.2 ⟨.inl (below.le_of_mem_spans s mem), ih s mem⟩
  | comment _ below ih =>
    exact List.forall_mem_cons.2 ⟨fun t mem => .inr (below.bounds t mem).1, ih⟩

/-- What belongs to no token and to no comment is white space. -/
theorem cover (h : Fills source n ts spans cs) {i : Nat} (from_here : n ≤ i) {c : Rune}
    (here : source[i]? = some c) :
    (∃ t ∈ ts, t.span.Holds i) ∨ (∃ s ∈ spans, s.Holds i) ∨ Lexeme.isWhite c = true := by
  induction h with
  | eof =>
    rw [List.getElem?_eq_none from_here] at here
    cases here
  | @white n ts spans cs d first white below ih =>
    rcases Nat.eq_or_lt_of_le from_here with rfl | later
    · rw [first] at here
      cases here
      exact .inr (.inr white)
    · exact ih later
  | implied _ _ _ _ ih =>
    exact (ih from_here).imp_left fun ⟨t, mem, holds⟩ => ⟨t, List.mem_cons_of_mem _ mem, holds⟩
  | @token n ts spans cs t place _ _ ih =>
    by_cases inside : i < t.stop
    · exact .inl ⟨t, List.mem_cons_self, place.start.le.trans from_here, inside⟩
    · refine (ih (by omega)).imp_left fun ⟨t, mem, holds⟩ => ?_
      exact ⟨t, List.mem_cons_of_mem _ mem, holds⟩
  | @comment s ts spans cs c _ _ ih =>
    by_cases inside : i < s.stop
    · exact .inr (.inl ⟨s, List.mem_cons_self, from_here, inside⟩)
    · refine (ih (by omega)).imp_right fun rest => rest.imp_left fun ⟨s, mem, holds⟩ => ?_
      exact ⟨s, List.mem_cons_of_mem _ mem, holds⟩

/-- No offset belongs to two comments. -/
theorem eq_of_holds (h : Fills source n ts spans cs) {s s' : Span} (mem : s ∈ spans)
    (mem' : s' ∈ spans) {i : Nat} (holds : s.Holds i) (holds' : s'.Holds i) : s = s' := by
  have apart : spans.Pairwise fun a b => a.stop ≤ b.start ∨ b.stop ≤ a.start :=
    h.pairwise_spans.imp .inl
  by_cases same : s = s'
  · exact same
  · have : Std.Symm fun a b : Span => a.stop ≤ b.start ∨ b.stop ≤ a.start := ⟨fun _ _ => Or.symm⟩
    have order := apart.forall mem mem' same
    have inside := holds
    have inside' := holds'
    unfold Span.Holds at inside inside'
    omega

end Fills

end Listing

/-! ## Lexemes in their source -/

namespace Lexeme

/-- The part of a source that a comment takes, from an offset on. -/
def commentSpansOf (n : Nat) (lexeme : Lexeme) : List Span :=
  match lexeme.kind with
  | .lineComment | .blockComment => [⟨n, n + lexeme.spelling.length⟩]
  | _ => []

/-- The parts of a source that the comments among lexemes take, from an offset on. -/
def commentSpans (n : Nat) : List Lexeme → List Span
  | [] => []
  | lexeme :: rest => lexeme.commentSpansOf n ++ commentSpans (n + lexeme.spelling.length) rest

/-- The end of the file is no lexeme, and a semicolon is written as one. -/
theorem Reads.token_kind {c : Rune} {rest : Text} {k : Token.Kind} {n : Nat}
    (h : Reads c rest (.token k) n) :
    k ≠ .eof ∧ (k = .semicolon → c :: rest.take n = text ";") := by
  have word (w : Text) : wordKind w ≠ .eof ∧ wordKind w ≠ .semicolon := by
    unfold wordKind
    split <;> exact ⟨by decide, by decide⟩
  cases h with
  | string => exact ⟨by decide, fun h => nomatch h⟩
  | rune => exact ⟨by decide, fun h => nomatch h⟩
  | rawString => exact ⟨by decide, fun h => nomatch h⟩
  | number => exact ⟨by decide, fun h => nomatch h⟩
  | word => exact ⟨(word _).1, fun same => absurd same (word _).2⟩
  | operator => exact ⟨by decide, fun h => nomatch h⟩
  | punctuation mark =>
    unfold punctuation? at mark
    split at mark <;> cases mark <;> simp [text]

end Lexeme

namespace Listing

open Lexeme

variable {source : Text} {n : Nat} {ts : List Token} {spans : List Span} {cs : List Comment}

theorem fills_impliedSemicolon (last : Option Token) {spelling : Text}
    (other : spelling ≠ text ";") (h : Fills source n ts spans cs) :
    Fills source n (Layout.impliedSemicolon last spelling (source.placeAt n) ++ ts) spans cs := by
  unfold Layout.impliedSemicolon
  split
  · exact .implied ⟨rfl, rfl, rfl⟩ rfl ⟨rfl, other⟩ h
  · exact h

section Pieces

variable {before piece after body : Text} {ownLine : Bool}
  (whole : source = before ++ (piece ++ after))

include whole

theorem length_le_of_whole : before.length + piece.length ≤ source.length := by
  rw [whole, List.length_append, List.length_append]
  omega

theorem slice_of_whole : source.slice before.length (before.length + piece.length) = piece := by
  rw [whole, Text.slice_append_length]

theorem lineAt_of_whole : source.lineAt (before.length + piece.length) =
    source.lineAt before.length + piece.count (.scalar '\n') := by
  have upTo : source.take (before.length + piece.length) = before ++ piece := by
    rw [whole, ← List.append_assoc, ← List.length_append, List.take_left]
  rw [Text.lineAt, Text.lineAt, upTo, List.count_append, whole, List.take_left]
  omega

/-- A comment with `//` takes its line up to the end. -/
theorem isComment_line (opens : piece = text "//" ++ body) (inline : .scalar '\n' ∉ body)
    (ends : ∀ next ∈ after.head?, next = .scalar '\n') :
    Span.IsComment source ⟨before.length, before.length + piece.length⟩
      ⟨piece.trimRight (· == .scalar '\r'), source.lineAt before.length,
        source.lineAt before.length, ownLine⟩ := by
  have flat : .scalar '\n' ∉ piece := by
    rw [opens, List.mem_append, not_or]
    exact ⟨by decide, inline⟩
  have written := slice_of_whole whole
  refine ⟨length_le_of_whole whole, rfl, ?_, .inl ⟨body, written.trans opens, inline, ?_, ?_⟩⟩
  · rw [lineAt_of_whole whole, List.count_eq_zero_of_not_mem flat]
    rfl
  · intro next following
    apply ends
    rw [whole, ← List.append_assoc, List.getElem?_append_right (by simp)] at following
    simpa [List.head?_eq_getElem?] using following
  · rw [written]

/-- A comment with `/*` takes what stands up to its first end mark. -/
theorem isComment_block (marks : piece = text "/*" ++ body ++ text "*/")
    (first : ¬ text "*/" <:+: body ++ text "*") :
    Span.IsComment source ⟨before.length, before.length + piece.length⟩
      ⟨piece, source.lineAt before.length, source.lineAt (before.length + piece.length),
        ownLine⟩ :=
  have written := slice_of_whole whole
  ⟨length_le_of_whole whole, rfl, rfl, .inr ⟨body, written.trans marks, first, written.symm⟩⟩

end Pieces

/-- What is placed for one lexeme fills its text. -/
theorem fills_lexeme {before rest : Text} {c : Rune} {kind : Lexeme.Kind}
    (reads : Reads c rest kind n) (last : Option Token) {piece : Text}
    (taken : piece = c :: rest.take n) (whole : source = before ++ (piece ++ rest.drop n))
    (h : Fills source (before ++ piece).length ts spans cs) :
    Fills source before.length
      (Layout.tokensOf (Cursor.start.advance before) last ⟨kind, piece⟩ ++ ts)
      (commentSpansOf before.length ⟨kind, piece⟩ ++ spans)
      (Layout.commentsOf (Cursor.start.advance before) last ⟨kind, piece⟩ ++ cs) := by
  have here : Cursor.start.advance before = source.placeAt before.length := by
    rw [whole, Cursor.start_advance before]
  have there : (source.placeAt before.length).advance piece =
      source.placeAt (before.length + piece.length) := by
    rw [← here, ← Cursor.advance_append, Cursor.start_advance _ (rest.drop n), whole,
      List.append_assoc, List.length_append]
  have first : source[before.length]? = some c := by
    rw [whole, taken, List.getElem?_append_right (Nat.le_refl _), Nat.sub_self]
    rfl
  rw [List.length_append] at h
  rw [here]
  cases kind with
  | newline =>
    cases reads
    subst taken
    exact fills_impliedSemicolon last (by decide) (.white first (by decide) h)
  | blank =>
    cases reads with
    | blank _ space =>
      subst taken
      refine .white first ?_ h
      rw [isWhite, space, Bool.or_true]
  | lineComment =>
    cases reads with
    | lineComment slash =>
      obtain ⟨tail, rfl⟩ := List.head?_eq_some_iff.1 slash
      obtain ⟨inline, ends⟩ := lineCommentLength_spec tail
      have opens : piece = text "//" ++ tail.take (lineCommentLength tail) := taken
      exact .comment (isComment_line whole opens inline ends) h
  | blockComment =>
    cases reads with
    | blockComment star closed =>
      obtain ⟨tail, rfl⟩ := List.head?_eq_some_iff.1 star
      obtain ⟨body, closing, least⟩ := blockCommentLength_closedBy.take_eq closed
      have marks : piece = text "/*" ++ body ++ text "*/" := by
        rw [taken, List.take_succ_cons]
        exact congrArg (text "/*" ++ ·) closing
      simp only [Layout.tokensOf, Layout.commentsOf, there]
      split
      · exact .comment (isComment_block whole marks least)
          (fills_impliedSemicolon last (by decide) h)
      · exact .comment (isComment_block whole marks least) h
  | token k =>
    obtain ⟨other, semicolon⟩ := reads.token_kind
    refine .token ⟨rfl, rfl, rfl⟩ ⟨?_, ?_, ?_, other, ?_⟩ ?_
    all_goals simp only [there]
    · rw [taken]
      exact Nat.lt_add_of_pos_right (Nat.succ_pos _)
    · exact length_le_of_whole whole
    · exact (slice_of_whole whole).symm
    · rintro ⟨same, implied⟩
      exact implied (taken.trans (semicolon same))
    · exact h

/-- What is placed for lexemes fills their text. -/
theorem fills_place {t : Text} {lexemes : List Lexeme} (h : split t = (lexemes, none)) :
    ∀ (before : Text) (last : Option Token), Fills (before ++ t) before.length
      ((Layout.place (Cursor.start.advance before) last lexemes).tokens ++
        [(Layout.place (Cursor.start.advance before) last lexemes).eof])
      (commentSpans before.length lexemes)
      (Layout.place (Cursor.start.advance before) last lexemes).comments := by
  refine split_induction (motive := fun t lexemes => ∀ (before : Text) (last : Option Token),
    Fills (before ++ t) before.length
      ((Layout.place (Cursor.start.advance before) last lexemes).tokens ++
        [(Layout.place (Cursor.start.advance before) last lexemes).eof])
      (commentSpans before.length lexemes)
      (Layout.place (Cursor.start.advance before) last lexemes).comments) ?_ ?_ h
  · intro before last
    rw [Cursor.start_advance before [], List.append_nil]
    exact fills_impliedSemicolon last (by decide) (.eof ⟨rfl, rfl, rfl⟩ rfl rfl)
  · intro c rest kind n tail reads _ ih before last
    have whole : before ++ c :: rest = before ++ (c :: rest.take n ++ rest.drop n) := by
      rw [List.cons_append, List.take_append_drop]
    have later := ih (before ++ c :: rest.take n)
      (Layout.lastAfter (Cursor.start.advance before) last ⟨kind, c :: rest.take n⟩)
    rw [List.append_assoc, ← whole, Cursor.advance_append] at later
    simp only [Layout.place_cons, List.append_assoc, commentSpans, ← List.length_append]
    exact fills_lexeme reads last rfl whole later

/-- What a listing fills its source with. -/
theorem fills_of_ofText? {t : Text} {l : Listing} (h : ofText? t = .ok l) :
    l.source = t ∧ ∃ spans, Fills t 0 l.allTokens spans l.comments := by
  obtain ⟨lexemes, cut, rfl⟩ := ofText?_eq_ok_iff.1 h
  exact ⟨rfl, _, fills_place cut [] none⟩

/-- The end of the file is the last of all tokens, and no other is one. -/
theorem eof_of_ofText? {t : Text} {l : Listing} (h : ofText? t = .ok l) :
    l.eof.kind = .eof ∧ ∀ u ∈ l.tokens, u.kind ≠ .eof := by
  obtain ⟨-, spans, fills⟩ := fills_of_ofText? h
  obtain ⟨init, eof, split, kind, -, others⟩ := fills.exists_eof
  obtain ⟨rfl, same⟩ := List.append_inj' split rfl
  cases same
  exact ⟨kind, others⟩

/-! ## Tiled listings -/

/-- The tokens of a listing stand in its source one after the other, written tokens with their
spelling, and implied semicolons and the end of the file without room. All have the line and the
column of their offset. Between tokens are white space and the comments of the listing. -/
structure Tiled (l : Listing) : Prop where
  inside : ∀ t ∈ l.allTokens, t.start ≤ t.stop ∧ t.stop ≤ l.source.length
  order : l.allTokens.Pairwise fun a b => a.stop ≤ b.start
  written : ∀ t ∈ l.allTokens, ¬ t.IsImplied → t.kind ≠ .eof →
    t.start < t.stop ∧ t.spelling = l.source.slice t.start t.stop
  empty : ∀ t ∈ l.allTokens, t.IsImplied ∨ t.kind = .eof → t.stop = t.start
  eof : l.eof.kind = .eof ∧ l.eof.start = l.source.length ∧ ∀ t ∈ l.tokens, t.kind ≠ .eof
  place : ∀ t ∈ l.allTokens,
    t.line = l.source.lineAt t.start ∧ t.column = l.source.columnAt t.start
  comments : ∃ spans : List Span,
    List.Forall₂ (fun s c => s.IsComment l.source c) spans l.comments ∧
    (spans.Pairwise fun a b => a.stop ≤ b.start) ∧
    (∀ s ∈ spans, ∀ t ∈ l.allTokens, t.stop ≤ s.start ∨ s.stop ≤ t.start) ∧
    ∀ i c, l.source[i]? = some c → (∀ t ∈ l.allTokens, ¬ t.span.Holds i) →
      c ∈ text " \t\r\n\ufeff" ∨ ∃! s, s ∈ spans ∧ s.Holds i

theorem mem_of_isWhite {c : Rune} (h : isWhite c = true) : c ∈ text " \t\r\n\ufeff" := by
  simp only [isWhite, isSpace, Bool.or_eq_true, beq_iff_eq] at h
  rcases h with rfl | ((rfl | rfl) | rfl) | rfl <;> decide

/-- The tokens and comments of a listing tile the text that it is of. -/
theorem tiled_of_ofText? {t : Text} {l : Listing} (h : ofText? t = .ok l) :
    l.source = t ∧ l.Tiled := by
  obtain ⟨source, spans, fills⟩ := fills_of_ofText? h
  rw [← source] at fills
  obtain ⟨init, eof, split, last, atEnd, others⟩ := fills.exists_eof
  obtain ⟨rfl, same⟩ := List.append_inj' split rfl
  cases same
  refine ⟨source, ?_, fills.pairwise, ?_, ?_, ⟨last, atEnd, others⟩, ?_, spans,
    fills.forall₂_isComment, fills.pairwise_spans, fills.apart, ?_⟩
  · exact fun u mem => (fills.bounds u mem).2
  · intro u mem real notLast
    rcases fills.written_or_empty u mem with written | ⟨-, implied | eof⟩
    · exact ⟨written.some, written.spelling⟩
    · exact absurd implied real
    · exact absurd eof notLast
  · intro u mem none
    rcases fills.written_or_empty u mem with written | ⟨empty, -⟩
    · exact absurd none (not_or.2 ⟨written.semicolon, written.kind⟩)
    · exact empty
  · exact fun u mem => ⟨(fills.places u mem).line, (fills.places u mem).column⟩
  · intro i c here outside
    rcases fills.cover (Nat.zero_le i) here with ⟨u, mem, holds⟩ | ⟨s, mem, holds⟩ | white
    · exact absurd holds (outside u mem)
    · refine .inr ⟨s, ⟨mem, holds⟩, fun s' other => ?_⟩
      exact fills.eq_of_holds other.1 mem other.2 holds
    · exact .inl (mem_of_isWhite white)

/-- A source with literals and comments over several lines. -/
def broken : Text := text "\ufeffx // a\r\r\n/* b\n */ y = \x60c\nd\x60; /**/"

theorem tiled_of_ofText?_broken :
    ∃ l, ofText? broken = .ok l ∧
      l.allTokens.map Token.sign = [(.identifier, text "x"), (.semicolon, text "\n"),
        (.identifier, text "y"), (.assign, text "="), (.rawString, text "\x60c\nd\x60"),
        (.semicolon, text ";"), (.eof, [])] ∧
      l.comments = [⟨text "// a", 1, 1, false⟩, ⟨text "/* b\n */", 2, 3, true⟩,
        ⟨text "/**/", 4, 4, false⟩] ∧
      l.source = broken ∧ l.Tiled := by
  obtain ⟨l, listed, shown⟩ := exists_ok_of_any (x := ofText? broken)
    (p := fun l => decide (l.allTokens.map Token.sign = [(.identifier, text "x"),
      (.semicolon, text "\n"), (.identifier, text "y"), (.assign, text "="),
      (.rawString, text "\x60c\nd\x60"), (.semicolon, text ";"), (.eof, [])] ∧
      l.comments = [⟨text "// a", 1, 1, false⟩, ⟨text "/* b\n */", 2, 3, true⟩,
        ⟨text "/**/", 4, 4, false⟩])) (by decide +kernel)
  obtain ⟨tokens, comments⟩ := of_decide_eq_true shown
  exact ⟨l, listed, tokens, comments, tiled_of_ofText? listed⟩

end Listing

end EnumText
