import EnumText.Proofs.Listing.Yielding
import Mathlib.Data.List.Forall2

/-!
# Sources that differ in quoted texts only

Two sources are alike if they fall into lexemes of the same kinds, and all but the quoted texts
among these are spelled the same. Quoted texts may differ, as long as they have equally many line
breaks.

* `Layout.place_alike`: lexemes that are alike are placed on the same lines, and so are the
  comments.
* `Listing.ofText?_alike`: the listings of sources that are alike.
* `Text.Alike.closed`, `Text.Alike.word`, `Text.Alike.quoted`: sources that are written piece by
  piece.
-/

namespace EnumText

open List (Forall₂)

/-- Lexemes of one kind that are spelled the same, unless they are quoted texts. -/
structure Lexeme.Alike (x y : Lexeme) : Prop where
  kind : x.kind = y.kind
  lines : x.spelling.count (.scalar '\n') = y.spelling.count (.scalar '\n')
  spelling : x.kind ≠ .token .string → x.spelling = y.spelling

theorem Lexeme.Alike.refl (x : Lexeme) : x.Alike x := ⟨rfl, rfl, fun _ => rfl⟩

/-- Tokens of one kind on one line that are spelled the same, unless they are quoted texts. -/
structure Token.Alike (t u : Token) : Prop where
  kind : t.kind = u.kind
  line : t.line = u.line
  spelling : t.kind ≠ .string → t.spelling = u.spelling

/-- A line break ends a statement after both or after neither. -/
theorem Token.Alike.endsStatement {t u : Token} (h : t.Alike u) :
    t.endsStatement = u.endsStatement := by
  by_cases string : t.kind = .string
  · have string' : u.kind = .string := h.kind.symm.trans string
    rw [Token.endsStatement, Token.endsStatement, string, string']
  · rw [Token.endsStatement, Token.endsStatement, ← h.kind, h.spelling string]

namespace Layout

/-! ## Lexemes that are alike -/

theorem emptyToken_alike {here here' : Cursor} (line : here.line = here'.line) (kind : Token.Kind)
    (spelling : Text) :
    (emptyToken kind spelling here).Alike (emptyToken kind spelling here') :=
  ⟨rfl, line, fun _ => rfl⟩

section One

variable {here here' : Cursor} {last last' : Option Token} {x y : Lexeme}

theorem impliedSemicolon_alike (line : here.line = here'.line)
    (before : Option.Rel Token.Alike last last') (spelling : Text) :
    Forall₂ Token.Alike (impliedSemicolon last spelling here)
      (impliedSemicolon last' spelling here') := by
  have ends : last.any Token.endsStatement = last'.any Token.endsStatement := by
    cases before with
    | none => rfl
    | some alike => exact alike.endsStatement
  unfold impliedSemicolon
  rw [ends]
  split
  · exact .cons (emptyToken_alike line _ _) .nil
  · exact .nil

variable (line : here.line = here'.line) (alike : x.Alike y)

include line alike

theorem line_advance_alike :
    (here.advance x.spelling).line = (here'.advance y.spelling).line := by
  rw [Cursor.advance_line, Cursor.advance_line, line, alike.lines]

variable (before : Option.Rel Token.Alike last last')

include before

theorem lastAfter_alike :
    Option.Rel Token.Alike (lastAfter here last x) (lastAfter here' last' y) := by
  have below := line_advance_alike line alike
  have spelling := alike.spelling
  rw [lastAfter, lastAfter, ← alike.kind, ← line, ← below]
  cases kind : x.kind with
  | newline => exact .none
  | blank | lineComment => exact before
  | blockComment =>
    dsimp only
    split
    · exact .none
    · exact before
  | token k => exact .some ⟨rfl, rfl, fun other => spelling (by simpa [kind] using other)⟩

theorem tokensOf_alike : Forall₂ Token.Alike (tokensOf here last x) (tokensOf here' last' y) := by
  have below := line_advance_alike line alike
  have spelling := alike.spelling
  have implied := impliedSemicolon_alike below before (text "\n")
  rw [tokensOf, tokensOf, ← alike.kind, ← below, ← line]
  cases kind : x.kind with
  | newline => exact impliedSemicolon_alike line before _
  | blank | lineComment => exact .nil
  | blockComment =>
    dsimp only
    split
    · exact implied
    · exact .nil
  | token k =>
    exact .cons ⟨rfl, rfl, fun other => spelling (by simpa [kind] using other)⟩ .nil

theorem commentsOf_alike : commentsOf here last x = commentsOf here' last' y := by
  have below := line_advance_alike line alike
  have first : last.isNone = last'.isNone := by cases before <;> rfl
  rw [commentsOf, commentsOf, ← alike.kind, ← below, ← line, first]
  cases kind : x.kind with
  | newline | blank | token k => rfl
  | lineComment | blockComment => rw [alike.spelling (by simp [kind])]

end One

/-- Lexemes that are alike are placed on the same lines. -/
theorem place_alike {xs ys : List Lexeme} (alike : Forall₂ Lexeme.Alike xs ys)
    {here here' : Cursor} (line : here.line = here'.line) {last last' : Option Token}
    (before : Option.Rel Token.Alike last last') :
    Forall₂ Token.Alike (place here last xs).tokens (place here' last' ys).tokens ∧
      (place here last xs).eof.Alike (place here' last' ys).eof ∧
      (place here last xs).comments = (place here' last' ys).comments := by
  -- offsets and columns drift apart behind a quoted text, so only the lines are kept equal
  induction alike generalizing here here' last last' with
  | nil =>
    exact ⟨impliedSemicolon_alike line before [], emptyToken_alike line .eof [], rfl⟩
  | cons first _ ih =>
    obtain ⟨tokens, eof, comments⟩ :=
      ih (line_advance_alike line first) (lastAfter_alike line first before)
    rw [place_cons, place_cons]
    exact ⟨List.rel_append (tokensOf_alike line first before) tokens, eof,
      congrArg₂ _ (commentsOf_alike line first before) comments⟩

end Layout

/-! ## Sources that are alike -/

/-- Texts that fall into lexemes that are alike. -/
def Text.Alike (a b : Text) : Prop :=
  ∃ xs ys, Lexeme.split a = (xs, none) ∧ Lexeme.split b = (ys, none) ∧ Forall₂ Lexeme.Alike xs ys

/-- The listings of sources that are alike have the same comments, and tokens that are alike. -/
theorem Listing.ofText?_alike {a b : Text} (h : a.Alike b) :
    ∃ l m, ofText? a = .ok l ∧ ofText? b = .ok m ∧ l.comments = m.comments ∧
      Forall₂ Token.Alike l.allTokens m.allTokens := by
  obtain ⟨xs, ys, cut, cut', alike⟩ := h
  obtain ⟨tokens, eof, comments⟩ :=
    Layout.place_alike alike (rfl : Cursor.start.line = Cursor.start.line) .none
  refine ⟨⟨Layout.place .start none xs, a⟩, ⟨Layout.place .start none ys, b⟩, ?_, ?_, comments,
    List.rel_append tokens (.cons eof .nil)⟩
  · rw [ofText?, cut]
  · rw [ofText?, cut']

/-- A text that falls into lexemes, the last of which ends there whatever follows. -/
def Lexeme.Closed (a : Text) : Prop :=
  (split a).2 = none ∧ ∀ last ∈ (split a).1.getLast?, last.kind.isClosed = true

instance (a : Text) : Decidable (Lexeme.Closed a) :=
  inferInstanceAs (Decidable ((Lexeme.split a).2 = none ∧
    ∀ last ∈ (Lexeme.split a).1.getLast?, last.kind.isClosed = true))

namespace Text

open Lexeme (split Soft Apart Closed)

variable {a b more more' : Text}

theorem alike_self (cut : (split a).2 = none) : a.Alike a :=
  ⟨_, _, Prod.ext rfl cut, Prod.ext rfl cut, List.forall₂_same.2 fun x _ => .refl x⟩

/-- The same closed piece before texts that are alike. -/
theorem Alike.closed (closed : Closed a) (soft : Soft a more) (soft' : Soft a more')
    (rest : more.Alike more') : (a ++ more).Alike (a ++ more') := by
  obtain ⟨xs, ys, cut, cut', alike⟩ := rest
  have whole : split a = ((split a).1, none) := Prod.ext rfl closed.1
  have stop (t : Text) : ∀ last ∈ (split a).1.getLast?, ∀ s ∈ t.head?,
      last.kind.endsBefore s = true := fun last mem s _ =>
    Lexeme.Kind.endsBefore_of_isClosed (closed.2 last mem) s
  have same : Forall₂ Lexeme.Alike (split a).1 (split a).1 := List.forall₂_same.2 fun x _ => .refl x
  refine ⟨_, _, ?_, ?_, List.rel_append same alike⟩
  · rw [Lexeme.split_append whole soft (stop _), cut]
  · rw [Lexeme.split_append whole soft' (stop _), cut']

/-- The same word before texts that are alike. -/
theorem Alike.word {word : Text} (identifier : word.isIdentifier = true) (next : Apart more)
    (next' : Apart more') (rest : more.Alike more') : (word ++ more).Alike (word ++ more') := by
  obtain ⟨xs, ys, cut, cut', alike⟩ := rest
  have stop {t : Text} (apart : Apart t) : ∀ s ∈ t.head?,
      Lexeme.isLoose s = true ∧ Lexeme.isIdentifierPart s = false := fun s mem =>
    ⟨(apart s mem).1, Lexeme.isIdentifierPart_of_endsNumber (apart s mem).2⟩
  let lexeme : Lexeme := ⟨.token (Lexeme.wordKind word), word⟩
  have same : lexeme.Alike lexeme := .refl lexeme
  refine ⟨_, _, ?_, ?_, .cons same alike⟩
  · rw [Lexeme.split_word_append identifier (stop next), cut]
  · rw [Lexeme.split_word_append identifier (stop next'), cut']

/-- Quoted texts before texts that are alike. -/
theorem Alike.quoted {body body' : Text} (guarded : Literal.Guarded body)
    (guarded' : Literal.Guarded body') (rest : more.Alike more') :
    Alike (.scalar '"' :: (body ++ [.scalar '"']) ++ more)
      (.scalar '"' :: (body' ++ [.scalar '"']) ++ more') := by
  obtain ⟨xs, ys, cut, cut', alike⟩ := rest
  have front {body t : Text} {zs : List Lexeme} (guarded : Literal.Guarded body)
      (cut : split t = (zs, none)) : split (.scalar '"' :: (body ++ [.scalar '"']) ++ t) =
        (⟨.token .string, .scalar '"' :: (body ++ [.scalar '"'])⟩ :: zs, none) := by
    rw [List.cons_append, Lexeme.split_cons (Lexeme.reads_quoted guarded t), List.take_left,
      List.drop_left, cut]
  have inline {body : Text} (guarded : Literal.Guarded body) :
      List.count (.scalar '\n') (Rune.scalar '"' :: (body ++ [.scalar '"'])) = 0 := by
    apply List.count_eq_zero.2
    intro mem
    simp only [List.mem_cons, List.mem_append, List.not_mem_nil, or_false] at mem
    rcases mem with mark | mem | mark
    · cases mark
    · exact guarded.ne_newline _ mem rfl
    · cases mark
  refine ⟨_, _, front guarded cut, front guarded' cut', .cons ⟨rfl, ?_, fun other => ?_⟩ alike⟩
  · exact (inline guarded).trans (inline guarded').symm
  · exact absurd rfl other

/-- A comment up to the end of the line. -/
theorem alike_comment {body : Text} (inline : .scalar '\n' ∉ body) :
    (text "//" ++ body ++ text "\n").Alike (text "//" ++ body ++ text "\n") := by
  apply alike_self
  have stop : ∀ last ∈ [Lexeme.mk .lineComment (text "//" ++ body)].getLast?,
      ∀ s ∈ (text "\n").head?, last.kind.endsBefore s = true := by
    intro last mem s after
    cases mem
    cases after
    rfl
  have soft : Soft (text "//" ++ body) (text "\n") := (Lexeme.apart_newline []).soft
  rw [Lexeme.split_append (Lexeme.split_lineComment inline) soft stop]
  rfl

/-- Texts that end with a line break, before texts that are alike. -/
theorem Alike.append (h : a.Alike b) (last : a.getLast? = some (.scalar '\n'))
    (last' : b.getLast? = some (.scalar '\n')) (rest : more.Alike more') :
    (a ++ more).Alike (b ++ more') := by
  obtain ⟨xs, ys, cut, cut', alike⟩ := h
  obtain ⟨zs, ws, below, below', alike'⟩ := rest
  refine ⟨xs ++ zs, ys ++ ws, ?_, ?_, List.rel_append alike alike'⟩
  · rw [Lexeme.split_append_of_newline cut last, below]
  · rw [Lexeme.split_append_of_newline cut' last', below']

end Text

end EnumText
