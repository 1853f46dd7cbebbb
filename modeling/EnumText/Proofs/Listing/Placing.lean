import EnumText.Listing

/-!
# The layout of lexemes that are put together

`Layout.run` is the layout of lexemes in the middle of a source: what it places, and the last token
of the line where it leaves off. `place_eq_run` adds what stands at the end of the file.

* `run_append`, `place_append`: lexemes are placed piece by piece.
* `run_shift`: at another position the same tokens and comments are placed, all moved alike.
* `Layout.between_run`: nothing is placed outside of its text.
* `Listing.textOf_shift`: a part of a source has the same texts wherever it stands.
-/

namespace EnumText

/-- A displacement of positions. -/
structure Shift where
  offset : Nat
  line : Nat
  column : Nat

namespace Cursor

/-- A position further on. -/
def shift (s : Shift) (here : Cursor) : Cursor :=
  ⟨here.offset + s.offset, here.line + s.line, here.column + s.column⟩

theorem advance_append (here : Cursor) (a b : Text) :
    here.advance (a ++ b) = (here.advance a).advance b := List.foldl_append

theorem advance_offset (here : Cursor) (t : Text) :
    (here.advance t).offset = here.offset + t.length := by
  induction t generalizing here with
  | nil => rfl
  | cons c t ih =>
    have step : (here.step c).offset = here.offset + 1 := by
      unfold Cursor.step
      split <;> rfl
    rw [advance, List.foldl_cons, ← advance, ih, step, List.length_cons]
    omega

theorem advance_line (here : Cursor) (t : Text) :
    (here.advance t).line = here.line + t.count (.scalar '\n') := by
  induction t generalizing here with
  | nil => rfl
  | cons c t ih =>
    rw [advance, List.foldl_cons, ← advance, ih, List.count_cons]
    unfold Cursor.step
    by_cases newline : c = .scalar '\n'
    · rw [if_pos newline, if_pos (by simp [newline])]
      exact Nat.add_right_comm _ _ _
    · rw [if_neg newline, if_neg (by simpa using newline)]
      rfl

/-- The column after a line break does not depend on what stands before it. -/
theorem advance_column_of_newline (here : Cursor) {t : Text}
    (last : t.getLast? = some (.scalar '\n')) : (here.advance t).column = 1 := by
  rcases List.getLast?_eq_some_iff.1 last with ⟨init, rfl⟩
  rw [advance_append]
  rfl

/-- Positions that are displaced sideways stay so up to the next line break. -/
theorem advance_shift (s : Shift) (here : Cursor) {t : Text}
    (sideways : s.column = 0 ∨ .scalar '\n' ∉ t) :
    (here.shift s).advance t = (here.advance t).shift s := by
  induction t generalizing here with
  | nil => rfl
  | cons c t ih =>
    have step : (here.shift s).step c = (here.step c).shift s := by
      unfold Cursor.step
      split
      · next newline =>
        subst newline
        have column : s.column = 0 := sideways.resolve_right fun h => h List.mem_cons_self
        simp only [shift, column, Nat.add_right_comm _ 1, Nat.add_zero]
      · simp only [shift, Nat.add_right_comm _ 1]
    rw [advance, List.foldl_cons, step]
    exact ih _ (sideways.imp_right fun h mem => h (List.mem_cons_of_mem _ mem))

end Cursor

/-- A token at a displaced position. -/
def Token.shift (s : Shift) (t : Token) : Token :=
  { t with
    line := t.line + s.line, column := t.column + s.column,
    start := t.start + s.offset, stop := t.stop + s.offset }

/-- A comment at a displaced position. -/
def Comment.shift (s : Shift) (c : Comment) : Comment :=
  { c with line := c.line + s.line, endLine := c.endLine + s.line }

namespace Layout

/-! ## One lexeme -/

/-- The last token of the line after a lexeme. -/
def lastAfter (here : Cursor) (last : Option Token) (lexeme : Lexeme) : Option Token :=
  let after := here.advance lexeme.spelling
  match lexeme.kind with
  | .newline => none
  | .blank | .lineComment => last
  | .blockComment => if here.line < after.line then none else last
  | .token kind =>
    some ⟨kind, lexeme.spelling, here.line, here.column, here.offset, after.offset⟩

/-- The tokens that a lexeme places. -/
def tokensOf (here : Cursor) (last : Option Token) (lexeme : Lexeme) : List Token :=
  let after := here.advance lexeme.spelling
  match lexeme.kind with
  | .newline => impliedSemicolon last (text "\n") here
  | .blank | .lineComment => []
  | .blockComment =>
    if here.line < after.line then impliedSemicolon last (text "\n") after else []
  | .token kind =>
    [⟨kind, lexeme.spelling, here.line, here.column, here.offset, after.offset⟩]

/-- The comments that a lexeme places. -/
def commentsOf (here : Cursor) (last : Option Token) (lexeme : Lexeme) : List Comment :=
  match lexeme.kind with
  | .lineComment =>
    [⟨lexeme.spelling.trimRight (· == .scalar '\r'), here.line, here.line, last.isNone⟩]
  | .blockComment =>
    [⟨lexeme.spelling, here.line, (here.advance lexeme.spelling).line, last.isNone⟩]
  | _ => []

/-- At most one token is implied. -/
theorem eq_of_mem_impliedSemicolon {last : Option Token} {spelling : Text} {here : Cursor}
    {t : Token} (mem : t ∈ impliedSemicolon last spelling here) :
    t = emptyToken .semicolon spelling here := by
  unfold impliedSemicolon at mem
  split at mem
  · exact List.mem_singleton.1 mem
  · cases mem

/-- Every token but an implied semicolon is placed for the lexeme that it is spelled like. -/
theorem kind_of_mem_tokensOf {here : Cursor} {last : Option Token} {lexeme : Lexeme} {t : Token}
    (mem : t ∈ tokensOf here last lexeme) :
    t.kind = .semicolon ∨ lexeme.kind = .token t.kind ∧ lexeme.spelling = t.spelling := by
  unfold tokensOf at mem
  dsimp only at mem
  split at mem
  · exact .inl (congrArg Token.kind (eq_of_mem_impliedSemicolon mem))
  · cases mem
  · cases mem
  · split at mem
    · exact .inl (congrArg Token.kind (eq_of_mem_impliedSemicolon mem))
    · cases mem
  · next k same =>
    obtain rfl := List.mem_singleton.1 mem
    exact .inr ⟨same, rfl⟩

theorem place_cons (here : Cursor) (last : Option Token) (lexeme : Lexeme) (rest : List Lexeme) :
    place here last (lexeme :: rest) =
      let later := place (here.advance lexeme.spelling) (lastAfter here last lexeme) rest
      ⟨tokensOf here last lexeme ++ later.tokens, later.eof,
        commentsOf here last lexeme ++ later.comments⟩ := by
  obtain ⟨kind, spelling⟩ := lexeme
  cases kind with
  | newline => rfl
  | blank => rfl
  | lineComment => rfl
  | blockComment =>
    simp only [place, lastAfter, tokensOf, commentsOf]
    split <;> rfl
  | token kind => rfl

theorem exists_lexeme_of_mem_place {here : Cursor} {last : Option Token} {lexemes : List Lexeme}
    {t : Token} (mem : t ∈ (place here last lexemes).tokens) :
    t.kind = .semicolon ∨ ∃ x ∈ lexemes, x.kind = .token t.kind ∧ x.spelling = t.spelling := by
  induction lexemes generalizing here last with
  | nil => exact .inl (congrArg Token.kind (eq_of_mem_impliedSemicolon mem))
  | cons lexeme lexemes ih =>
    rw [place_cons] at mem
    obtain here | later := List.mem_append.1 mem
    · exact (kind_of_mem_tokensOf here).imp_right fun same => ⟨lexeme, List.mem_cons_self, same⟩
    · refine (ih later).imp_right fun found => ?_
      obtain ⟨x, mem, same⟩ := found
      exact ⟨x, List.mem_cons_of_mem _ mem, same⟩

section Shift

variable (s : Shift) (here : Cursor) (last : Option Token) (lexeme : Lexeme)

theorem impliedSemicolon_shift (spelling : Text) :
    impliedSemicolon (last.map (·.shift s)) spelling (here.shift s) =
      (impliedSemicolon last spelling here).map (·.shift s) := by
  have ends : (last.map (·.shift s)).any Token.endsStatement = last.any Token.endsStatement := by
    cases last <;> rfl
  unfold impliedSemicolon
  rw [ends]
  split <;> rfl

variable (sideways : s.column = 0 ∨ .scalar '\n' ∉ lexeme.spelling)

include sideways

theorem lastAfter_shift :
    lastAfter (here.shift s) (last.map (·.shift s)) lexeme =
      (lastAfter here last lexeme).map (·.shift s) := by
  unfold lastAfter
  rw [Cursor.advance_shift s here sideways]
  cases lexeme.kind with
  | blockComment =>
    simp only [Cursor.shift, Nat.add_lt_add_iff_right]
    split <;> rfl
  | _ => rfl

theorem tokensOf_shift :
    tokensOf (here.shift s) (last.map (·.shift s)) lexeme =
      (tokensOf here last lexeme).map (·.shift s) := by
  unfold tokensOf
  rw [Cursor.advance_shift s here sideways]
  cases lexeme.kind with
  | newline => exact impliedSemicolon_shift s here last _
  | blockComment =>
    have lines : (here.shift s).line < ((here.advance lexeme.spelling).shift s).line ↔
        here.line < (here.advance lexeme.spelling).line := Nat.add_lt_add_iff_right
    simp only [lines]
    split
    · exact impliedSemicolon_shift s _ last _
    · rfl
  | _ => rfl

theorem commentsOf_shift :
    commentsOf (here.shift s) (last.map (·.shift s)) lexeme =
      (commentsOf here last lexeme).map (·.shift s) := by
  unfold commentsOf
  rw [Cursor.advance_shift s here sideways, Option.isNone_map]
  cases lexeme.kind <;> rfl

end Shift

/-! ## Runs of lexemes -/

/-- What lexemes place, and the last token of the line after them. -/
structure Run where
  tokens : List Token
  comments : List Comment
  last : Option Token

/-- The layout of lexemes in the middle of a source. -/
def run (here : Cursor) (last : Option Token) : List Lexeme → Run
  | [] => ⟨[], [], last⟩
  | lexeme :: rest =>
    let later := run (here.advance lexeme.spelling) (lastAfter here last lexeme) rest
    ⟨tokensOf here last lexeme ++ later.tokens, commentsOf here last lexeme ++ later.comments,
      later.last⟩

/-- A run at a displaced position. -/
def Run.shift (s : Shift) (r : Run) : Run :=
  ⟨r.tokens.map (·.shift s), r.comments.map (·.shift s), r.last.map (·.shift s)⟩

/-- A run with what is placed after it. -/
def Run.append (r later : Run) : Run :=
  ⟨r.tokens ++ later.tokens, r.comments ++ later.comments, later.last⟩

/-- A layout with a run before it. -/
def Run.followedBy (r : Run) (l : Layout) : Layout :=
  ⟨r.tokens ++ l.tokens, l.eof, r.comments ++ l.comments⟩

theorem run_append (here : Cursor) (last : Option Token) (a b : List Lexeme) :
    run here last (a ++ b) =
      (run here last a).append
        (run (here.advance (a.flatMap Lexeme.spelling)) (run here last a).last b) := by
  induction a generalizing here last with
  | nil => rfl
  | cons lexeme a ih =>
    rw [List.cons_append, run, ih, List.flatMap_cons, Cursor.advance_append]
    simp only [run, Run.append, List.append_assoc]

theorem place_append (here : Cursor) (last : Option Token) (a b : List Lexeme) :
    place here last (a ++ b) =
      (run here last a).followedBy
        (place (here.advance (a.flatMap Lexeme.spelling)) (run here last a).last b) := by
  induction a generalizing here last with
  | nil => rfl
  | cons lexeme a ih =>
    rw [List.cons_append, place_cons, ih, List.flatMap_cons, Cursor.advance_append]
    simp only [run, Run.followedBy, List.append_assoc]

theorem place_eq_run (here : Cursor) (last : Option Token) (lexemes : List Lexeme) :
    place here last lexemes =
      ⟨(run here last lexemes).tokens ++ impliedSemicolon (run here last lexemes).last []
          (here.advance (lexemes.flatMap Lexeme.spelling)),
        emptyToken .eof [] (here.advance (lexemes.flatMap Lexeme.spelling)),
        (run here last lexemes).comments⟩ := by
  have whole := place_append here last lexemes []
  rw [List.append_nil] at whole
  rw [whole, Run.followedBy, place, List.append_nil]

/-- Where no line is begun, nothing stands at the end of the file. -/
theorem place_of_last {here : Cursor} {last : Option Token} {lexemes : List Lexeme}
    (h : (run here last lexemes).last = none) :
    place here last lexemes = ⟨(run here last lexemes).tokens,
      emptyToken .eof [] (here.advance (lexemes.flatMap Lexeme.spelling)),
      (run here last lexemes).comments⟩ := by
  rw [place_eq_run, h]
  simp [impliedSemicolon]

theorem run_shift (s : Shift) (here : Cursor) (last : Option Token) {lexemes : List Lexeme}
    (sideways : s.column = 0 ∨ ∀ lexeme ∈ lexemes, .scalar '\n' ∉ lexeme.spelling) :
    run (here.shift s) (last.map (·.shift s)) lexemes = (run here last lexemes).shift s := by
  induction lexemes generalizing here last with
  | nil => rfl
  | cons lexeme rest ih =>
    have first := sideways.imp_right fun h => h lexeme List.mem_cons_self
    have later := sideways.imp_right fun h x mem => h x (List.mem_cons_of_mem _ mem)
    rw [run, tokensOf_shift s here last lexeme first, lastAfter_shift s here last lexeme first,
      commentsOf_shift s here last lexeme first, Cursor.advance_shift s here first, ih _ _ later]
    simp only [run, Run.shift, List.map_append]

/-- A layout at a displaced position. -/
def shift (s : Shift) (l : Layout) : Layout :=
  ⟨l.tokens.map (·.shift s), l.eof.shift s, l.comments.map (·.shift s)⟩

theorem place_shift (s : Shift) (here : Cursor) (last : Option Token) {lexemes : List Lexeme}
    (sideways : s.column = 0 ∨ .scalar '\n' ∉ lexemes.flatMap Lexeme.spelling) :
    place (here.shift s) (last.map (·.shift s)) lexemes = (place here last lexemes).shift s := by
  have each := sideways.imp_right fun h x (mem : x ∈ lexemes) (newline : _ ∈ x.spelling) =>
    h (List.mem_flatMap.2 ⟨x, mem, newline⟩)
  rw [place_eq_run, place_eq_run, run_shift s here last each, Cursor.advance_shift s here sideways]
  simp only [Run.shift, impliedSemicolon_shift, shift, List.map_append]
  rfl

end Layout

/-! ## Bounds -/

/-- A position does not come after another. -/
def Cursor.Precedes (a b : Cursor) : Prop := a.offset ≤ b.offset ∧ a.line ≤ b.line

theorem Cursor.Precedes.refl (a : Cursor) : a.Precedes a := ⟨Nat.le_refl _, Nat.le_refl _⟩

theorem Cursor.precedes_advance (here : Cursor) (t : Text) : here.Precedes (here.advance t) := by
  rw [Precedes, advance_offset, advance_line]
  exact ⟨Nat.le_add_right _ _, Nat.le_add_right _ _⟩

/-- A token stands between two positions. -/
structure Token.Between (before after : Cursor) (t : Token) : Prop where
  start : before.offset ≤ t.start
  order : t.start ≤ t.stop
  stop : t.stop ≤ after.offset
  line : before.line ≤ t.line
  line_le : t.line ≤ after.line

theorem Token.Between.mono {a a' b b' : Cursor} {t : Token} (h : t.Between a b)
    (low : a'.Precedes a) (high : b.Precedes b') : t.Between a' b' :=
  ⟨Nat.le_trans low.1 h.start, h.order, Nat.le_trans h.stop high.1, Nat.le_trans low.2 h.line,
    Nat.le_trans h.line_le high.2⟩

/-- A comment stands between two positions. -/
structure Comment.Between (before after : Cursor) (c : Comment) : Prop where
  line : before.line ≤ c.line
  order : c.line ≤ c.endLine
  endLine : c.endLine ≤ after.line

theorem Comment.Between.mono {a a' b b' : Cursor} {c : Comment} (h : c.Between a b)
    (low : a'.Precedes a) (high : b.Precedes b') : c.Between a' b' :=
  ⟨Nat.le_trans low.2 h.line, h.order, Nat.le_trans h.endLine high.2⟩

namespace Layout

theorem between_of_mem_impliedSemicolon {last : Option Token} {spelling : Text} {here : Cursor}
    {t : Token} (mem : t ∈ impliedSemicolon last spelling here) : t.Between here here := by
  obtain rfl := eq_of_mem_impliedSemicolon mem
  exact ⟨Nat.le_refl _, Nat.le_refl _, Nat.le_refl _, Nat.le_refl _, Nat.le_refl _⟩

theorem between_of_mem_tokensOf {here : Cursor} {last : Option Token} {lexeme : Lexeme} {t : Token}
    (mem : t ∈ tokensOf here last lexeme) : t.Between here (here.advance lexeme.spelling) := by
  have forward := here.precedes_advance lexeme.spelling
  obtain ⟨kind, spelling⟩ := lexeme
  cases kind with
  | newline => exact (between_of_mem_impliedSemicolon mem).mono (.refl _) forward
  | blank => cases mem
  | lineComment => cases mem
  | blockComment =>
    simp only [tokensOf] at mem
    split at mem
    · exact (between_of_mem_impliedSemicolon mem).mono forward (.refl _)
    · cases mem
  | token kind =>
    obtain rfl := List.mem_singleton.1 mem
    exact ⟨Nat.le_refl _, forward.1, Nat.le_refl _, Nat.le_refl _, forward.2⟩

theorem between_of_mem_commentsOf {here : Cursor} {last : Option Token} {lexeme : Lexeme}
    {c : Comment} (mem : c ∈ commentsOf here last lexeme) :
    c.Between here (here.advance lexeme.spelling) := by
  have forward := here.precedes_advance lexeme.spelling
  unfold commentsOf at mem
  split at mem
  · obtain rfl := List.mem_singleton.1 mem
    exact ⟨Nat.le_refl _, Nat.le_refl _, forward.2⟩
  · obtain rfl := List.mem_singleton.1 mem
    exact ⟨Nat.le_refl _, forward.2, Nat.le_refl _⟩
  · cases mem

/-- What is placed in the middle of a source stands between two positions. -/
structure Run.Between (before after : Cursor) (r : Run) : Prop where
  tokens : ∀ t ∈ r.tokens, t.Between before after
  comments : ∀ c ∈ r.comments, c.Between before after

/-- Nothing is placed outside of the text of its lexemes. -/
theorem between_run (here : Cursor) (last : Option Token) (lexemes : List Lexeme) :
    (run here last lexemes).Between here (here.advance (lexemes.flatMap Lexeme.spelling)) := by
  induction lexemes generalizing here last with
  | nil => exact ⟨List.forall_mem_nil _, List.forall_mem_nil _⟩
  | cons lexeme rest ih =>
    rw [List.flatMap_cons, Cursor.advance_append]
    have behind := Cursor.precedes_advance (here.advance lexeme.spelling)
      (rest.flatMap Lexeme.spelling)
    have before := here.precedes_advance lexeme.spelling
    have later := ih (here.advance lexeme.spelling) (lastAfter here last lexeme)
    constructor
    · exact List.forall_mem_append.2
        ⟨fun t mem => (between_of_mem_tokensOf mem).mono (.refl _) behind,
          fun t mem => (later.tokens t mem).mono before (.refl _)⟩
    · exact List.forall_mem_append.2
        ⟨fun c mem => (between_of_mem_commentsOf mem).mono (.refl _) behind,
          fun c mem => (later.comments c mem).mono before (.refl _)⟩

theorem between_of_mem_place_tokens {here : Cursor} {last : Option Token} {lexemes : List Lexeme}
    {t : Token} (mem : t ∈ (place here last lexemes).tokens) :
    t.Between here (here.advance (lexemes.flatMap Lexeme.spelling)) := by
  rw [place_eq_run] at mem
  rcases List.mem_append.1 mem with mem | mem
  · exact (between_run _ _ _).tokens t mem
  · exact (between_of_mem_impliedSemicolon mem).mono (Cursor.precedes_advance _ _) (.refl _)

theorem between_of_mem_place_comments {here : Cursor} {last : Option Token}
    {lexemes : List Lexeme} {c : Comment} (mem : c ∈ (place here last lexemes).comments) :
    c.Between here (here.advance (lexemes.flatMap Lexeme.spelling)) := by
  rw [place_eq_run] at mem
  exact (between_run _ _ _).comments c mem

end Layout

/-! ## Texts of tokens -/

theorem Text.slice_append_left {a : Text} {i j : Nat} (inside : j ≤ a.length) (b : Text) :
    Text.slice (a ++ b) i j = Text.slice a i j := by
  rw [slice, slice, List.drop_append, List.take_append, List.length_drop,
    show j - i - (a.length - i) = 0 by omega, List.take_zero, List.append_nil]

theorem Text.slice_append_right (a b : Text) (i j : Nat) :
    Text.slice (a ++ b) (a.length + i) (a.length + j) = Text.slice b i j := by
  rw [slice, slice, List.drop_length_add_append, Nat.add_sub_add_left]

/-- A part of a source that stands in another source has the same texts there. -/
theorem Listing.textOf_shift {l l' : Listing} {s : Shift} (before part before' after : Text)
    (source : l.source = before ++ part) (source' : l'.source = before' ++ part ++ after)
    (moved : before'.length = before.length + s.offset) {ts : List Token}
    (inside : ∀ t ∈ ts, before.length ≤ t.start ∧ t.start ≤ t.stop ∧ t.stop ≤ l.source.length) :
    l'.textOf (ts.map (·.shift s)) = l.textOf ts := by
  unfold textOf
  rw [List.head?_map, List.getLast?_map]
  cases head : ts.head? with
  | none => rfl
  | some first =>
    cases tail : ts.getLast? with
    | none => rfl
    | some last =>
      rcases inside first (List.mem_of_head? head) with ⟨low, -, -⟩
      rcases inside last (List.mem_of_getLast? tail) with ⟨low', order, high⟩
      rcases Nat.exists_eq_add_of_le low with ⟨i, start⟩
      rcases Nat.exists_eq_add_of_le (Nat.le_trans low' order) with ⟨j, stop⟩
      rw [source, List.length_append] at high
      simp only [Option.map_some, Token.shift, source, source', start, stop]
      rw [Nat.add_right_comm, Nat.add_right_comm _ j, ← moved,
        Text.slice_append_left (by rw [List.length_append]; omega), Text.slice_append_right,
        Text.slice_append_right]

end EnumText
