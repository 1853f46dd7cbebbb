import EnumText.Proofs.Listing.Tiling

/-!
# Where line breaks end statements

A line break ends a statement if the token before it can be the last of one. `Token.EndsLine` lists
these tokens. `Parted source n ends ts` says what this makes of the tokens after an offset: before
the next written token stands one implied semicolon or none.

* `parted_place`: what is placed after a token is parted from it.
* `endsStatements_of_ofText?`: between any two written tokens of a listing stands one implied
  semicolon, where a line ends after a token that can end a statement, or none.
-/

namespace EnumText

/-- The tokens after which a line break or the end of the file ends a statement. -/
def Token.EndsLine (t : Token) : Prop :=
  t.kind ∈ [.identifier, .string, .rawString, .rune, .number] ∨ (∃ b, t.kind = .closing b) ∨
    t.kind = .keyword ∧
      t.spelling ∈ [text "break", text "continue", text "fallthrough", text "return"] ∨
    t.kind = .operator ∧ t.spelling ∈ [text "++", text "--"]

theorem Token.endsStatement_iff {t : Token} : t.endsStatement = true ↔ t.EndsLine := by
  unfold endsStatement EndsLine
  cases t.kind <;> simp [endingKeywords, endingOperators]

instance (t : Token) : Decidable t.EndsLine := decidable_of_iff _ Token.endsStatement_iff

/-! ## Lexemes and lines -/

/-- A lexeme that is no token ends the line if it holds a line break, and else leaves it alone. -/
theorem Lexeme.Reads.line {c : Rune} {rest : Text} {kind : Kind} {n : Nat}
    (h : Reads c rest kind n) (here : Cursor) (last : Option Token) :
    (∃ k, kind = .token k) ∨
    (.scalar '\n' ∈ c :: rest.take n ∧ Layout.lastAfter here last ⟨kind, c :: rest.take n⟩ = none ∧
      ∃ place, Layout.tokensOf here last ⟨kind, c :: rest.take n⟩ =
        Layout.impliedSemicolon last (text "\n") place) ∨
    .scalar '\n' ∉ c :: rest.take n ∧
      Layout.lastAfter here last ⟨kind, c :: rest.take n⟩ = last ∧
      Layout.tokensOf here last ⟨kind, c :: rest.take n⟩ = [] := by
  cases kind with
  | newline =>
    cases h
    exact .inr (.inl ⟨List.mem_cons_self, rfl, here, rfl⟩)
  | blank =>
    cases h with
    | blank _ space =>
      refine .inr (.inr ⟨?_, rfl, rfl⟩)
      intro mem
      obtain rfl := List.mem_singleton.1 mem
      exact absurd space (by decide)
  | lineComment =>
    cases h with
    | lineComment slash =>
      refine .inr (.inr ⟨?_, rfl, rfl⟩)
      rw [List.mem_cons, not_or]
      exact ⟨by decide, (lineCommentLength_spec rest).1⟩
  | blockComment =>
    have lines := here.advance_line (c :: rest.take n)
    simp only [Layout.lastAfter, Layout.tokensOf]
    by_cases newline : .scalar '\n' ∈ c :: rest.take n
    · have some := List.count_pos_iff.2 newline
      rw [if_pos (by omega), if_pos (by omega)]
      exact .inr (.inl ⟨newline, rfl, _, rfl⟩)
    · have none := List.count_eq_zero_of_not_mem newline
      rw [if_neg (by omega), if_neg (by omega)]
      exact .inr (.inr ⟨newline, rfl, rfl⟩)
  | token k => exact .inl ⟨k, rfl⟩

/-! ## Tokens and lines -/

namespace Listing

open Lexeme

section

variable {last : Option Token} {spelling : Text} {place : Cursor}

theorem isImplied_of_mem (other : spelling ≠ text ";") {t : Token}
    (mem : t ∈ Layout.impliedSemicolon last spelling place) : t.IsImplied := by
  obtain rfl := Layout.eq_of_mem_impliedSemicolon mem
  exact ⟨rfl, other⟩

theorem length_impliedSemicolon :
    (Layout.impliedSemicolon last spelling place).length =
      if last.any Token.endsStatement = true then 1 else 0 := by
  unfold Layout.impliedSemicolon
  split <;> rfl

end

/-- The next written token comes after one implied semicolon, if a line or the file ends before it
where that ends a statement, and comes first otherwise. -/
def Parted (source : Text) (n : Nat) (ends : Bool) (ts : List Token) : Prop :=
  ∃ implied u after, ts = implied ++ u :: after ∧ (∀ s ∈ implied, s.IsImplied) ∧
    ¬ u.IsImplied ∧ n ≤ u.start ∧
    implied.length =
      if ends = true ∧ (.scalar '\n' ∈ source.slice n u.start ∨ u.kind = .eof) then 1 else 0

namespace Parted

variable {source : Text} {n m : Nat} {ends : Bool} {ts : List Token}

/-- Text within a line changes nothing. -/
theorem inline (h : Parted source m ends ts) (le : n ≤ m)
    (flat : .scalar '\n' ∉ source.slice n m) : Parted source n ends ts := by
  obtain ⟨implied, u, after, split, semicolons, written, order, count⟩ := h
  refine ⟨implied, u, after, split, semicolons, written, le.trans order, ?_⟩
  rw [count, ← Text.slice_append_slice source le order]
  simp only [List.mem_append, flat, false_or]

/-- A line break ends a statement once. -/
theorem newline (h : Parted source m false ts) (le : n ≤ m)
    (broken : .scalar '\n' ∈ source.slice n m) (last : Option Token) (place : Cursor) :
    Parted source n (last.any Token.endsStatement)
      (Layout.impliedSemicolon last (text "\n") place ++ ts) := by
  obtain ⟨implied, u, after, rfl, -, written, order, count⟩ := h
  obtain rfl : implied = [] := by simpa using count
  have between : .scalar '\n' ∈ source.slice n u.start := by
    rw [← Text.slice_append_slice source le order]
    exact List.mem_append_left _ broken
  refine ⟨_, u, after, rfl, fun s => isImplied_of_mem (by decide), written, le.trans order, ?_⟩
  rw [length_impliedSemicolon]
  simp only [between, true_or, and_true]

/-- The written token that comes first can be told from the list alone. -/
theorem length_eq {implied after : List Token} {u : Token}
    (h : Parted source n ends (implied ++ u :: after)) (semicolons : ∀ s ∈ implied, s.IsImplied)
    (written : ¬ u.IsImplied) :
    implied.length =
      if ends = true ∧ (.scalar '\n' ∈ source.slice n u.start ∨ u.kind = .eof) then 1 else 0 := by
  obtain ⟨implied', u', after', same, semicolons', written', -, count⟩ := h
  have front (implied after : List Token) (u : Token) (semicolons : ∀ s ∈ implied, s.IsImplied)
      (written : ¬ u.IsImplied) :
      (implied ++ u :: after).takeWhile (fun s => decide s.IsImplied) = implied := by
    rw [List.takeWhile_append_of_pos (by simpa using semicolons),
      List.takeWhile_cons_of_neg (by simpa using written), List.append_nil]
  obtain rfl : implied = implied' := by
    rw [← front implied after u semicolons written, same, front _ _ _ semicolons' written']
  obtain ⟨rfl, -⟩ := List.cons.inj (List.append_cancel_left same)
  exact count

end Parted

/-- After each written token but the last, the rest of the tokens is parted from it. -/
def AllParted (source : Text) (ts : List Token) : Prop :=
  ∀ t rest, t :: rest <:+ ts → ¬ t.IsImplied → rest ≠ [] →
    Parted source t.stop t.endsStatement rest

theorem AllParted.cons {source : Text} {t : Token} {ts : List Token} (h : AllParted source ts)
    (first : ¬ t.IsImplied → ts ≠ [] → Parted source t.stop t.endsStatement ts) :
    AllParted source (t :: ts) := by
  intro u rest tail
  rcases List.suffix_cons_iff.1 tail with same | tail
  · cases same
    exact first
  · exact h u rest tail

theorem AllParted.implied {source : Text} {ts : List Token} (h : AllParted source ts)
    (last : Option Token) {spelling : Text} (other : spelling ≠ text ";") (place : Cursor) :
    AllParted source (Layout.impliedSemicolon last spelling place ++ ts) := by
  unfold Layout.impliedSemicolon
  split
  · exact h.cons fun written => absurd ⟨rfl, other⟩ written
  · exact h

/-- What is placed for one lexeme keeps to the rule. -/
theorem parted_lexeme {source before rest : Text} {c : Rune} {kind : Lexeme.Kind} {n : Nat}
    {ts : List Token} (reads : Reads c rest kind n) (last : Option Token) {piece : Text}
    (taken : piece = c :: rest.take n) (whole : source = before ++ (piece ++ rest.drop n))
    (next : Parted source (before ++ piece).length
      ((Layout.lastAfter (Cursor.start.advance before) last ⟨kind, piece⟩).any Token.endsStatement)
      ts)
    (later : AllParted source ts) :
    Parted source before.length (last.any Token.endsStatement)
        (Layout.tokensOf (Cursor.start.advance before) last ⟨kind, piece⟩ ++ ts) ∧
      AllParted source
        (Layout.tokensOf (Cursor.start.advance before) last ⟨kind, piece⟩ ++ ts) := by
  have written : source.slice before.length (before ++ piece).length = piece := by
    rw [whole, List.length_append, Text.slice_append_length]
  have le : before.length ≤ (before ++ piece).length := by simp
  have line := reads.line (Cursor.start.advance before) last
  rw [← taken] at line
  rcases line with ⟨k, rfl⟩ | ⟨newline, after, place, tokens⟩ | ⟨flat, after, tokens⟩
  · obtain ⟨other, semicolon⟩ := reads.token_kind
    have start : (Cursor.start.advance before).offset = before.length :=
      (Cursor.start.advance_offset before).trans (Nat.zero_add _)
    have stop :
        ((Cursor.start.advance before).advance piece).offset = (before ++ piece).length := by
      rw [← Cursor.advance_append, Cursor.advance_offset]
      exact Nat.zero_add _
    refine ⟨⟨[], _, ts, rfl, by simp, ?_, start.ge, ?_⟩, later.cons fun _ _ => ?_⟩
    · rintro ⟨same, implied⟩
      exact implied (taken.trans (semicolon same))
    · simp [start, Text.slice_self, other]
    · simpa [stop, Layout.lastAfter] using next
  · rw [after] at next
    rw [tokens]
    exact ⟨next.newline le (by rwa [written]) last place, later.implied last (by decide) place⟩
  · rw [after] at next
    rw [tokens]
    exact ⟨next.inline le (by rwa [written]), later⟩

/-- What is placed for lexemes keeps to the rule. -/
theorem parted_place {t : Text} {lexemes : List Lexeme} (h : split t = (lexemes, none)) :
    ∀ (before : Text) (last : Option Token),
      let layout := Layout.place (Cursor.start.advance before) last lexemes
      Parted (before ++ t) before.length (last.any Token.endsStatement)
          (layout.tokens ++ [layout.eof]) ∧
        AllParted (before ++ t) (layout.tokens ++ [layout.eof]) := by
  refine split_induction (motive := fun t lexemes => ∀ (before : Text) (last : Option Token),
    let layout := Layout.place (Cursor.start.advance before) last lexemes
    Parted (before ++ t) before.length (last.any Token.endsStatement)
        (layout.tokens ++ [layout.eof]) ∧
      AllParted (before ++ t) (layout.tokens ++ [layout.eof])) ?_ ?_ h
  · intro before last
    have start : (Cursor.start.advance before).offset = before.length :=
      (Cursor.start.advance_offset before).trans (Nat.zero_add _)
    have empty : AllParted (before ++ []) [] :=
      fun _ _ tail => absurd (List.suffix_nil.1 tail) (List.cons_ne_nil _ _)
    have atEnd := empty.cons (t := Layout.emptyToken .eof [] (Cursor.start.advance before))
      fun _ some => absurd rfl some
    refine ⟨⟨Layout.impliedSemicolon last [] (Cursor.start.advance before), _, [], rfl,
      fun s => isImplied_of_mem (by decide), ?_, start.ge, ?_⟩, atEnd.implied last (by decide) _⟩
    · rintro ⟨semicolon, -⟩
      cases semicolon
    · rw [length_impliedSemicolon]
      simp only [Layout.place, Layout.emptyToken, or_true, and_true]
  · intro c rest kind n tail reads _ ih before last
    have whole : before ++ c :: rest = before ++ (c :: rest.take n ++ rest.drop n) := by
      rw [List.cons_append, List.take_append_drop]
    obtain ⟨next, later⟩ := ih (before ++ c :: rest.take n)
      (Layout.lastAfter (Cursor.start.advance before) last ⟨kind, c :: rest.take n⟩)
    rw [List.append_assoc, ← whole, Cursor.advance_append] at next later
    simp only [Layout.place_cons, List.append_assoc]
    exact parted_lexeme reads last rfl whole next later

/-! ## Listings -/

/-- Between two written tokens stands one implied semicolon, if the first can end a statement and a
line or the file ends after it, and none otherwise. None stands before the first written token. -/
structure EndsStatements (l : Listing) : Prop where
  between : ∀ before t implied u after, l.allTokens = before ++ t :: (implied ++ u :: after) →
    ¬ t.IsImplied → (∀ s ∈ implied, s.IsImplied) → ¬ u.IsImplied →
    implied.length =
      if t.EndsLine ∧ (.scalar '\n' ∈ l.source.slice t.stop u.start ∨ u.kind = .eof) then 1 else 0
  first : ∀ implied u after, l.allTokens = implied ++ u :: after →
    (∀ s ∈ implied, s.IsImplied) → ¬ u.IsImplied → implied = []

/-- The semicolons of a listing stand where lines end statements. -/
theorem endsStatements_of_ofText? {source : Text} {l : Listing} (h : ofText? source = .ok l) :
    l.source = source ∧ l.EndsStatements := by
  obtain ⟨same, first, parted⟩ :
      l.source = source ∧ Parted source 0 false l.allTokens ∧ AllParted source l.allTokens := by
    obtain ⟨lexemes, cut, rfl⟩ := ofText?_eq_ok_iff.1 h
    exact ⟨rfl, parted_place cut [] none⟩
  refine ⟨same, ?_, ?_⟩
  · intro before t implied u after split written semicolons next
    rw [split] at parted
    have gap := parted t _ (List.suffix_append _ _) written (by simp)
    simpa only [same, Token.endsStatement_iff] using gap.length_eq semicolons next
  · intro implied u after split semicolons written
    rw [split] at first
    simpa using first.length_eq semicolons written

/-- A source with line breaks in comments and literals, after operators, and between lines. -/
def returned : Text := text "\nreturn /* a\n */ ) // b\n\n+ \x60c\n\x60 --"

theorem endsStatements_of_ofText?_returned :
    ∃ l, ofText? returned = .ok l ∧
      l.allTokens.map Token.sign = [(.keyword, text "return"), (.semicolon, text "\n"),
        (.closing .round, text ")"), (.semicolon, text "\n"), (.operator, text "+"),
        (.rawString, text "\x60c\n\x60"), (.operator, text "--"), (.semicolon, []), (.eof, [])] ∧
      l.source = returned ∧ l.EndsStatements := by
  obtain ⟨l, listed, shown⟩ := exists_ok_of_any (x := ofText? returned)
    (p := fun l => decide (l.allTokens.map Token.sign = [(.keyword, text "return"),
      (.semicolon, text "\n"), (.closing .round, text ")"), (.semicolon, text "\n"),
      (.operator, text "+"), (.rawString, text "\x60c\n\x60"), (.operator, text "--"),
      (.semicolon, []), (.eof, [])])) (by decide +kernel)
  exact ⟨l, listed, of_decide_eq_true shown, endsStatements_of_ofText? listed⟩

end Listing

end EnumText
