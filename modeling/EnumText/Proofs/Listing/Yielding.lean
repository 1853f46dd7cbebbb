import EnumText.Proofs.Listing.Placing
import EnumText.Proofs.Literal.Quoting
import EnumText.Proofs.Token.Splitting

/-!
# The tokens of a text that is written piece by piece

`Yields ends t Q` says that the rest `t` of a source, wherever it begins, has tokens that satisfy
`Q`. A written text is taken apart from its front, and what is left to show is always about the
rest.

* `Yields.piece`: any piece that its lexemes end with. Its tokens have the `signs` of the lexemes.
* `Yields.word`, `Yields.quoted`, `Yields.lineComment`, `Yields.newline`: pieces of one lexeme.
* `Yields.blanks`: white space.
* `Chunk` checks a piece that is always the same.
-/

namespace EnumText

/-! ## Signs -/

/-- What is known of a token without its place: the kind and the spelling. -/
abbrev Token.Sign := Token.Kind × Text

/-- The kind and the spelling of a token. -/
def Token.sign (t : Token) : Sign := (t.kind, t.spelling)

namespace Lexeme

/-- The signs of the tokens that a lexeme places, and whether a line break after it ends a
statement. -/
def sign (ends : Bool) (lexeme : Lexeme) : List Token.Sign × Bool :=
  match lexeme.kind with
  | .newline => (if ends then [(.semicolon, text "\n")] else [], false)
  | .blank | .lineComment => ([], ends)
  | .blockComment =>
    if .scalar '\n' ∈ lexeme.spelling then
      (if ends then [(.semicolon, text "\n")] else [], false)
    else ([], ends)
  | .token kind =>
    ([(kind, lexeme.spelling)], Token.endsStatement ⟨kind, lexeme.spelling, 0, 0, 0, 0⟩)

/-- The signs of the tokens that lexemes place, and whether a line break after them ends a
statement. -/
def signs (ends : Bool) : List Lexeme → List Token.Sign × Bool
  | [] => ([], ends)
  | lexeme :: rest =>
    let (first, ends) := lexeme.sign ends
    let (more, ends) := signs ends rest
    (first ++ more, ends)

/-- Whether a lexeme of a kind ends at the same place whatever follows. -/
def Kind.isClosed : Kind → Bool
  | .lineComment | .token .identifier | .token .keyword | .token .number => false
  | _ => true

theorem Kind.endsBefore_of_isClosed {kind : Kind} (h : kind.isClosed = true) (s : Rune) :
    kind.endsBefore s = true := by
  unfold isClosed at h
  split at h
  case h_5 => unfold endsBefore; split <;> simp_all
  all_goals cases h

/-- No lexeme goes on into a text: it begins with a rune that ends words and numbers, and is part of
no operator but as its first. -/
def Apart (t : Text) : Prop := ∀ s ∈ t.head?, isLoose s = true ∧ endsNumber s = true

instance (t : Text) : Decidable (Apart t) :=
  inferInstanceAs (Decidable (∀ s ∈ t.head?, isLoose s = true ∧ endsNumber s = true))

theorem apart_append {a : Text} (h : a ≠ [] ∧ Apart a) (more : Text) : Apart (a ++ more) := by
  rcases List.exists_cons_of_ne_nil h.1 with ⟨c, rest, rfl⟩
  exact h.2

theorem apart_newline (more : Text) : Apart (text "\n" ++ more) :=
  apart_append (by decide) more

theorem Apart.soft {a more : Text} (h : Apart more) : Soft a more := .inr fun s mem => (h s mem).1

/-- A word begins with no rune that operators go on with. -/
theorem soft_of_isIdentifier {a word : Text} (identifier : word.isIdentifier = true) (more : Text) :
    Soft a (word ++ more) := by
  have apart : ∀ s ∈ tails, s.isLetter = false ∧ s ≠ .scalar '_' := by decide
  cases word with
  | nil => cases identifier
  | cons c rest =>
    apply Or.inr
    intro s mem
    obtain rfl : c = s := Option.some.inj mem
    simp only [Text.isIdentifier, Bool.and_eq_true, Bool.or_eq_true, beq_iff_eq] at identifier
    have digit : c.isDigit = false := by
      rcases identifier.1 with letter | rfl
      · exact Rune.isDigit_of_isLetter letter
      · decide
    have tail : c ∉ tails := by
      intro mem
      rcases apart c mem with ⟨letter, underscore⟩
      exact identifier.1.elim (fun h => by rw [letter] at h; cases h) underscore
    simp [isLoose, digit, tail]

theorem soft_of_isName {a word : Text} (name : word.isName = true) (more : Text) :
    Soft a (word ++ more) := soft_of_isIdentifier (Text.isName_iff.1 name).1 more

/-- A comment up to the end of the line is one lexeme. -/
theorem split_lineComment {body : Text} (inline : .scalar '\n' ∉ body) :
    split (text "//" ++ body) = ([⟨.lineComment, text "//" ++ body⟩], none) := by
  have whole : lineCommentLength (.scalar '/' :: body) = (.scalar '/' :: body).length := by
    rw [lineCommentLength, List.takeWhile_eq_self_iff.2]
    intro c mem
    simp only [ne_eq, decide_not, Bool.not_eq_eq_eq_not, Bool.not_true, decide_eq_false_iff_not]
    intro same
    subst same
    rcases List.mem_cons.1 mem with slash | mem
    · cases slash
    · exact inline mem
  have reads : Reads (.scalar '/') (.scalar '/' :: body) .lineComment _ := .lineComment rfl
  rw [whole] at reads
  have cut := split_cons reads
  rw [List.take_length, List.drop_length] at cut
  exact cut

theorem enclosed_of_guarded {body : Text} (h : Literal.Guarded body) :
    Enclosed (.scalar '"') body := by
  induction h with
  | nil => exact .nil
  | plain ne_quote ne_backslash ne_newline _ ih => exact .plain ne_newline ne_backslash ne_quote ih
  | backslash _ _ ih => exact .protect _ ih

theorem guarded_quotedLength {body : Text} (h : Literal.Guarded body) (more : Text) :
    quotedLength (.scalar '"') (body ++ .scalar '"' :: more) = .ok (body.length + 1) :=
  (quotedLength_eq_ok_iff (by decide) (by decide)).2
    ⟨body, more, rfl, enclosed_of_guarded h, rfl⟩

/-- A quoted text is one lexeme whatever follows. -/
theorem reads_quoted {body : Text} (guarded : Literal.Guarded body) (more : Text) :
    Reads (.scalar '"') (body ++ [Rune.scalar '"'] ++ more) (.token .string)
      (body ++ [Rune.scalar '"']).length := by
  rw [List.append_assoc, List.length_append]
  exact .string (guarded_quotedLength guarded more)

end Lexeme

open Lexeme (signs split Soft Apart)

namespace Layout

theorem impliedSemicolon_sign (last : Option Token) (spelling : Text) (here : Cursor) :
    (impliedSemicolon last spelling here).map Token.sign =
      if last.any Token.endsStatement then [(.semicolon, spelling)] else [] := by
  unfold impliedSemicolon
  split <;> rfl

theorem tokensOf_sign (here : Cursor) (last : Option Token) (lexeme : Lexeme) :
    (tokensOf here last lexeme).map Token.sign =
      (lexeme.sign (last.any Token.endsStatement)).1 ∧
    (lastAfter here last lexeme).any Token.endsStatement =
      (lexeme.sign (last.any Token.endsStatement)).2 := by
  obtain ⟨kind, spelling⟩ := lexeme
  cases kind with
  | newline => exact ⟨impliedSemicolon_sign _ _ _, rfl⟩
  | blank => exact ⟨rfl, rfl⟩
  | lineComment => exact ⟨rfl, rfl⟩
  | blockComment =>
    have lines : here.line < (here.advance spelling).line ↔ .scalar '\n' ∈ spelling := by
      rw [Cursor.advance_line, ← List.count_pos_iff]
      omega
    simp only [tokensOf, lastAfter, Lexeme.sign, lines]
    split
    · exact ⟨impliedSemicolon_sign _ _ _, rfl⟩
    · exact ⟨rfl, rfl⟩
  | token kind => exact ⟨rfl, rfl⟩

/-- What a text places has the signs of its lexemes. -/
theorem run_signs (here : Cursor) (last : Option Token) (lexemes : List Lexeme) :
    (run here last lexemes).tokens.map Token.sign =
      (signs (last.any Token.endsStatement) lexemes).1 ∧
    (run here last lexemes).last.any Token.endsStatement =
      (signs (last.any Token.endsStatement) lexemes).2 := by
  induction lexemes generalizing here last with
  | nil => exact ⟨rfl, rfl⟩
  | cons lexeme rest ih =>
    rcases tokensOf_sign here last lexeme with ⟨first, ends⟩
    rcases ih (here.advance lexeme.spelling) (lastAfter here last lexeme) with ⟨more, ends'⟩
    rw [ends] at more ends'
    exact ⟨by rw [run, List.map_append, first, more]; rfl, ends'⟩

end Layout

/-- After a text that is empty or ends with a line break, no line is begun. -/
theorem last_run_of_lines {t : Text} {lexemes : List Lexeme} (cut : split t = (lexemes, none))
    (lines : t = [] ∨ t.getLast? = some (.scalar '\n')) (here : Cursor) :
    (Layout.run here none lexemes).last = none := by
  rcases lines with rfl | last
  · cases cut
    rfl
  · rcases Lexeme.exists_newline_of_split cut last with ⟨init, rfl⟩
    rw [Layout.run_append]
    rfl

/-! ## The rest of a source -/

namespace Listing

/-- The tokens of the rest of a source satisfy `Q`, wherever it begins. The flag tells whether a
line break before it would end a statement. -/
def Yields (ends : Bool) (t : Text) (Q : Listing → List Token → Prop) : Prop :=
  ∃ lexemes, split t = (lexemes, none) ∧
    ∀ (l : Listing) (before : Text) (last : Option Token), l.source = before ++ t →
      last.any Token.endsStatement = ends →
        Q l (Layout.run (Cursor.start.advance before) last lexemes).tokens

variable {ends ends' : Bool} {a more t : Text} {P Q : Listing → List Token → Prop}
variable {lexemes : List Lexeme}

theorem Yields.imp (h : Yields ends t P) (weaken : ∀ l ts, P l ts → Q l ts) : Yields ends t Q := by
  obtain ⟨lexemes, split, all⟩ := h
  exact ⟨lexemes, split, fun l before last source state =>
    weaken l _ (all l before last source state)⟩

theorem yields_nil (h : ∀ l, Q l []) : Yields ends [] Q :=
  ⟨[], rfl, fun l _ _ _ _ => h l⟩

/-- The tokens of a piece come before those of the rest. -/
theorem Yields.append (cut : split a = (lexemes, none)) (soft : Soft a more)
    (stop : ∀ last ∈ lexemes.getLast?, ∀ s ∈ more.head?, last.kind.endsBefore s = true)
    (h : Yields (signs ends lexemes).2 more Q) :
    Yields ends (a ++ more) fun l ts => ∃ before last rest, l.source = before ++ a ++ more ∧
      ts = (Layout.run (Cursor.start.advance before) last lexemes).tokens ++ rest ∧
      last.any Token.endsStatement = ends ∧ Q l rest := by
  obtain ⟨lexemes', cut', all⟩ := h
  refine ⟨lexemes ++ lexemes', ?_, fun l before last source state => ?_⟩
  · rw [Lexeme.split_append cut soft stop, cut']
  · rw [← List.append_assoc] at source
    have left : (Layout.run (Cursor.start.advance before) last lexemes).last.any
        Token.endsStatement = (signs ends lexemes).2 := by
      rw [(Layout.run_signs _ _ _).2, state]
    refine ⟨before, last, _, source, ?_, state, all l (before ++ a) _ source left⟩
    rw [Layout.run_append, Lexeme.flatMap_spelling cut, ← Cursor.advance_append]
    rfl

/-- What comes first has given signs, and the rest satisfies `Q`. -/
def After (signs : List Token.Sign) (Q : Listing → List Token → Prop) (l : Listing)
    (ts : List Token) : Prop :=
  ∃ front rest, ts = front ++ rest ∧ front.map Token.sign = signs ∧ Q l rest

theorem Yields.piece (cut : split a = (lexemes, none)) (soft : Soft a more)
    (stop : ∀ last ∈ lexemes.getLast?, ∀ s ∈ more.head?, last.kind.endsBefore s = true)
    (h : Yields (signs ends lexemes).2 more Q) :
    Yields ends (a ++ more) (After (signs ends lexemes).1 Q) := by
  apply (Yields.append cut soft stop h).imp
  intro l ts after
  obtain ⟨before, last, rest, -, rfl, state, below⟩ := after
  refine ⟨_, rest, rfl, ?_, below⟩
  rw [(Layout.run_signs _ _ _).1, state]

/-- The signs of a piece whose last lexeme ends there whatever follows, and whether a line break
after it ends a statement. -/
def chunk? (ends : Bool) (a : Text) : Option (List Token.Sign × Bool) :=
  match split a with
  | (lexemes, none) =>
    if lexemes.getLast?.all (·.kind.isClosed) then some (signs ends lexemes) else none
  | (_, some _) => none

/-- A piece has given signs, and its last lexeme ends there whatever follows. -/
def Chunk (ends : Bool) (a : Text) (found : List Token.Sign) (ends' : Bool) : Prop :=
  chunk? ends a = some (found, ends')

instance (ends : Bool) (a : Text) (found : List Token.Sign) (ends' : Bool) :
    Decidable (Chunk ends a found ends') :=
  inferInstanceAs (Decidable (chunk? ends a = some (found, ends')))

theorem Yields.chunk {found : List Token.Sign} (check : Chunk ends a found ends')
    (soft : Soft a more) (h : Yields ends' more Q) : Yields ends (a ++ more) (After found Q) := by
  rw [Chunk, chunk?] at check
  split at check
  · next lexemes cut =>
    split at check
    · next closed =>
      have same := Option.some.inj check
      have stop : ∀ last ∈ lexemes.getLast?, ∀ s ∈ more.head?, last.kind.endsBefore s = true := by
        intro last mem s next
        rw [Option.mem_def.1 mem] at closed
        exact Lexeme.Kind.endsBefore_of_isClosed closed s
      have piece (h : Yields (signs ends lexemes).2 more Q) :
          Yields ends (a ++ more) (After (signs ends lexemes).1 Q) := Yields.piece cut soft stop h
      rw [same] at piece
      exact piece h
    · cases check
  · cases check

theorem After.one {k : Token.Kind} {s : Text} {l : Listing} {ts : List Token}
    (h : After [(k, s)] Q l ts) :
    ∃ t rest, ts = t :: rest ∧ t.kind = k ∧ t.spelling = s ∧ Q l rest := by
  obtain ⟨front, rest, rfl, signs, below⟩ := h
  rcases List.map_eq_singleton_iff.1 signs with ⟨t, rfl, sign⟩
  rcases Prod.mk.inj sign with ⟨kind, spelling⟩
  exact ⟨t, rest, rfl, kind, spelling, below⟩

theorem after_nil {l : Listing} {ts : List Token} (h : After [] Q l ts) : Q l ts := by
  obtain ⟨front, rest, rfl, none_left, below⟩ := h
  obtain rfl := List.map_eq_nil_iff.1 none_left
  exact below

/-! ## Pieces of one lexeme -/

theorem Yields.word {word : Text} (name : word.isName = true) (next : Apart more)
    (h : Yields true more Q) : Yields ends (word ++ more) (After [(.identifier, word)] Q) := by
  rcases Text.isName_iff.1 name with ⟨identifier, kind⟩
  have cut := Lexeme.split_word identifier
  rw [kind] at cut
  refine Yields.piece cut next.soft (fun last mem s after => ?_) h
  obtain rfl : _ = last := Option.some.inj mem
  have part := Lexeme.isIdentifierPart_of_endsNumber (next s after).2
  simp [Lexeme.Kind.endsBefore, part]

/-- A piece that is read in the same way whatever follows. -/
theorem Yields.lexeme {c : Rune} {rest : Text} {kind : Lexeme.Kind}
    (reads : ∀ more, Lexeme.Reads c (rest ++ more) kind rest.length)
    (h : Yields (Lexeme.sign ends ⟨kind, c :: rest⟩).2 more Q) :
    Yields ends (c :: rest ++ more) (After (Lexeme.sign ends ⟨kind, c :: rest⟩).1 Q) := by
  obtain ⟨lexemes, cut, all⟩ := h
  refine ⟨⟨kind, c :: rest⟩ :: lexemes, ?_, fun l before last source state => ?_⟩
  · rw [List.cons_append, Lexeme.split_cons (reads more), List.take_left, List.drop_left, cut]
  · rw [← List.append_assoc] at source
    obtain ⟨first, next⟩ :=
      Layout.tokensOf_sign (Cursor.start.advance before) last ⟨kind, c :: rest⟩
    rw [state] at first next
    refine ⟨_, _, rfl, first, ?_⟩
    have below := all l (before ++ c :: rest) _ source next
    rw [Cursor.advance_append] at below
    exact below

theorem Yields.quoted {body : Text} (guarded : Literal.Guarded body) (h : Yields true more Q) :
    Yields ends (.scalar '"' :: (body ++ [.scalar '"']) ++ more)
      (After [(.string, .scalar '"' :: (body ++ [.scalar '"']))] Q) :=
  Yields.lexeme (Lexeme.reads_quoted guarded) h

/-- Blanks are passed over. -/
theorem Yields.blanks {blanks : Text} (blank : ∀ c ∈ blanks, Lexeme.isSpace c = true)
    (h : Yields ends more Q) : Yields ends (blanks ++ more) Q := by
  induction blanks with
  | nil => exact h
  | cons c blanks ih =>
    obtain ⟨first, others⟩ := List.forall_mem_cons.1 blank
    have reads (more : Text) : Lexeme.Reads c ([] ++ more) .blank 0 := .blank more first
    exact (Yields.lexeme reads (ih others)).imp fun _ _ => after_nil

theorem Yields.newline (h : Yields false more Q) :
    Yields ends (text "\n" ++ more) (After (if ends then [(.semicolon, text "\n")] else []) Q) := by
  have reads (more : Text) : Lexeme.Reads (.scalar '\n') ([] ++ more) .newline 0 := .newline more
  exact Yields.lexeme reads h

theorem Yields.blankLine (h : Yields false more Q) : Yields false (text "\n" ++ more) Q :=
  (Yields.newline h).imp fun _ _ => after_nil

/-- A comment up to the end of the line is passed over. -/
theorem Yields.lineComment {body : Text} (inline : .scalar '\n' ∉ body)
    (h : Yields ends (text "\n" ++ more) Q) :
    Yields ends (text "//" ++ body ++ (text "\n" ++ more)) Q := by
  have cut := Lexeme.split_lineComment inline
  have stop : ∀ last ∈ [Lexeme.mk .lineComment (text "//" ++ body)].getLast?,
      ∀ s ∈ (text "\n" ++ more).head?, last.kind.endsBefore s = true := by
    intro last mem s after
    cases mem
    cases after
    rfl
  exact (Yields.piece cut (Lexeme.apart_newline more).soft stop h).imp fun _ _ => after_nil

end Listing

end EnumText
