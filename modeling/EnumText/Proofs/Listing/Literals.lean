import EnumText.Proofs.Declaration.Reading
import EnumText.Proofs.Listing.Placing
import EnumText.Proofs.Literal.Quoting
import EnumText.Proofs.Token.Splitting

/-!
# Literals of a source text

The reader of lexemes steps over whatever a backslash protects, and the reader of literals looks at
it. Both have to find the same end.

* `ofText?_literal`: a text that is read as a literal is one token, and so is what quoting writes.
* `enclosed_of_ofText?`: the interpreted literals of a listing end with the first quote that no
  backslash protects, and where there is none the source has no listing.
-/

namespace EnumText

open Lexeme

/-! ## What a literal has between its quotes -/

section Interpreted

variable {q : Rune} (interprets : q = .scalar '"' ∨ q = .scalar '\x27')

include interprets

/-- Digits mean nothing between quotes. -/
theorem Text.Writes.plain {base n : Nat} {digits : Text} (most : base ≤ 16)
    (h : Text.Writes base digits n) :
    ∀ c ∈ digits, c ≠ .scalar '\n' ∧ c ≠ .scalar '\\' ∧ c ≠ q := by
  intro c mem
  obtain ⟨value, digit⟩ := h.isDigit_of_mem c mem
  have read : c.hexDigit? = some value :=
    Rune.hexDigit?_eq_some_iff.2 ⟨Nat.lt_of_lt_of_le digit.1 most, digit.2⟩
  refine ⟨?_, ?_, ?_⟩
  · rintro rfl
    cases read
  · rintro rfl
    cases read
  · rintro rfl
    obtain rfl | rfl := interprets
    · cases read
    · cases read

namespace Literal

theorem Sequence.enclosed {read : Text} {bytes : List UInt8} (h : Sequence q read bytes) :
    Enclosed q (.scalar '\\' :: read) := by
  cases h with
  | letter => exact .protect _ .nil
  | mark => exact .protect _ .nil
  | hex _ writes | four _ writes _ | eight _ writes _ _ =>
    exact .protect _ (enclosed_of_plain (writes.plain interprets (by decide)))
  | octal width writes =>
    obtain ⟨c, digits, rfl⟩ := List.exists_cons_of_length_eq_add_one width
    have plain := writes.plain interprets (by decide)
    exact .protect c (enclosed_of_plain (List.forall_mem_cons.1 plain).2)

theorem Items.enclosed {body : Text} {bytes : List UInt8} (h : Items q body bytes) :
    Enclosed q body := by
  induction h with
  | nil => exact .nil
  | cons item _ ih =>
    cases item with
    | plain mark backslash newline => exact .plain newline backslash mark ih
    | escaped sequence => exact (sequence.enclosed interprets).append ih

/-- What stands between the quotes of a literal does not close them. -/
theorem enclosed_of_body? {body value : Text} (h : body? q body = some value) :
    Enclosed q body := by
  obtain slow | ⟨plain, -⟩ := body?_cases q body
  · rw [slow] at h
    obtain ⟨bytes, items, -⟩ := Option.map_eq_some_iff.1 h
    exact ((bodyBytes?_eq_some_iff interprets).1 items).enclosed interprets
  · refine enclosed_of_plain fun c mem => ?_
    obtain ⟨mark, backslash, newline⟩ := plain c mem
    exact ⟨newline, backslash, mark⟩

end Literal

end Interpreted

/-! ## A literal as a source -/

namespace Literal

/-- The kind of the token that a literal is, told by its first rune. -/
def tokenKind? : Text → Option Token.Kind
  | .scalar '"' :: _ => some .string
  | .scalar '\x27' :: _ => some .rune
  | .scalar '\x60' :: _ => some .rawString
  | _ => none

theorem closed_of_body? {q : Rune} {body value : Text}
    (interprets : q = .scalar '"' ∨ q = .scalar '\x27') (h : body? q body = some value) :
    quotedLength q (body ++ [q]) = .ok (body ++ [q]).length := by
  have other : q ≠ .scalar '\n' ∧ q ≠ .scalar '\\' := by
    obtain rfl | rfl := interprets <;> decide
  rw [quotedLength_eq_ok_iff other.1 other.2, List.length_append]
  exact ⟨body, [], rfl, enclosed_of_body? interprets h, rfl⟩

/-- A literal is a lexeme up to its end. -/
theorem exists_reads_of_unquote? {literal value : Text} (h : unquote? literal = some value) :
    ∃ kind q rest, tokenKind? literal = some kind ∧ literal = q :: rest ∧
      Reads q rest (.token kind) rest.length := by
  obtain ⟨q, body, rfl⟩ := exists_enclosed_of_unquote? h
  rw [unquote?_enclosed] at h
  by_cases raw : q = .scalar '\x60'
  · rw [if_pos raw] at h
    subst raw
    exact ⟨.rawString, _, _, rfl, rfl, .rawString
      ((rawStringLength_closedBy _ _).2 ⟨body, [], rfl, (rawBody?_eq_some_iff.1 h).1, rfl⟩)⟩
  rw [if_neg raw] at h
  by_cases double : q = .scalar '"'
  · rw [if_pos double] at h
    subst double
    exact ⟨.string, _, _, rfl, rfl, .string (closed_of_body? (.inl rfl) h)⟩
  rw [if_neg double] at h
  by_cases single : q = .scalar '\x27'
  · rw [if_pos single] at h
    subst single
    obtain ⟨t, read, -⟩ := Option.bind_eq_some_iff.1 h
    exact ⟨.rune, _, _, rfl, rfl, .rune (closed_of_body? (.inr rfl) read)⟩
  · rw [if_neg single] at h
    cases h

end Literal

namespace Listing

/-- The listing of a single literal: its token, the semicolon that the end of the file stands for,
and nothing else. -/
def ofLiteral (kind : Token.Kind) (literal : Text) : Listing where
  tokens := [⟨kind, literal, 1, 1, 0, literal.length⟩,
    Layout.emptyToken .semicolon [] (Cursor.start.advance literal)]
  eof := Layout.emptyToken .eof [] (Cursor.start.advance literal)
  comments := []
  source := literal

theorem place_literal {kind : Token.Kind} {literal : Text}
    (first : Literal.tokenKind? literal = some kind) :
    Layout.place .start none [⟨.token kind, literal⟩] = (ofLiteral kind literal).toLayout := by
  have stop : (Cursor.start.advance literal).offset = literal.length := by
    rw [Cursor.advance_offset, Cursor.start, Nat.zero_add]
  have ends : Token.endsStatement ⟨kind, literal, 1, 1, 0, literal.length⟩ = true := by
    unfold Literal.tokenKind? at first
    split at first
    all_goals cases first
    all_goals rfl
  have placed : Layout.place .start none [⟨.token kind, literal⟩] =
      ⟨⟨kind, literal, 1, 1, 0, literal.length⟩ :: Layout.impliedSemicolon
          (some ⟨kind, literal, 1, 1, 0, literal.length⟩) [] (Cursor.start.advance literal),
        Layout.emptyToken .eof [] (Cursor.start.advance literal), []⟩ := by
    rw [← stop]
    rfl
  rw [placed, Layout.impliedSemicolon, Option.any_some, if_pos ends]
  rfl

/-- The two readers agree on the end of a literal: whatever is read as one is a single token. That
holds of what quoting writes, for every text. -/
theorem ofText?_literal :
    (∀ literal value, Literal.unquote? literal = some value →
      ∃ kind, Literal.tokenKind? literal = some kind ∧
        ofText? literal = .ok (ofLiteral kind literal)) ∧
    ∀ t, ofText? (Literal.quote t) = .ok (ofLiteral .string (Literal.quote t)) := by
  have whole (literal value : Text) (h : Literal.unquote? literal = some value) :
      ∃ kind, Literal.tokenKind? literal = some kind ∧
        ofText? literal = .ok (ofLiteral kind literal) := by
    obtain ⟨kind, q, rest, first, rfl, reads⟩ := Literal.exists_reads_of_unquote? h
    have cut := split_cons reads
    rw [List.take_length, List.drop_length] at cut
    have same : ofLiteral kind (q :: rest) = ⟨Layout.place .start none _, q :: rest⟩ :=
      congrArg (Listing.mk · (q :: rest)) (place_literal first).symm
    exact ⟨kind, first, ofText?_eq_ok_iff.2 ⟨_, cut, same⟩⟩
  refine ⟨whole, fun t => ?_⟩
  obtain ⟨kind, first, listed⟩ := whole _ _ (Literal.unquote?_quote t)
  cases first
  exact listed

/-- A rune literal with an escaped quote, and a text with a quote and a stray byte. -/
theorem ofText?_literal_quotes :
    ofText? (text "'\\''") = .ok (ofLiteral .rune (text "'\\''")) ∧
      ofText? (text "\"\\\"\\xff\"") = .ok (ofLiteral .string (text "\"\\\"\\xff\"")) := by
  obtain ⟨kind, first, listed⟩ :=
    ofText?_literal.1 (text "'\\''") (text "'") (by decide +kernel)
  cases first
  have quoted := ofText?_literal.2 [.scalar '"', .stray 127]
  rw [show Literal.quote [.scalar '"', .stray 127] = text "\"\\\"\\xff\"" by
    decide +kernel] at quoted
  exact ⟨listed, quoted⟩

end Listing

/-! ## Where interpreted literals end -/

/-- The quotes around the literals of a kind, if what stands between them is interpreted. -/
def Token.Kind.quote? : Token.Kind → Option Rune
  | .string => some (.scalar '"')
  | .rune => some (.scalar '\x27')
  | _ => none

namespace Lexeme

variable {q : Rune} {rest before : Text} {fault : Fault}

theorem Reads.exists_enclosed {c : Rune} {kind : Token.Kind} {n : Nat}
    (h : Reads c rest (.token kind) n) (quote : kind.quote? = some q) :
    ∃ body, c :: rest.take n = q :: (body ++ [q]) ∧ Enclosed q body := by
  have closes {q : Rune} (closed : quotedLength q rest = .ok n) :
      ∃ body, q :: rest.take n = q :: (body ++ [q]) ∧ Enclosed q body := by
    obtain ⟨body, more, rfl, enclosed, rfl⟩ := exists_enclosed_of_quotedLength closed
    refine ⟨body, congrArg _ ?_, enclosed⟩
    rw [List.take_length_add_append, List.take_succ_cons, List.take_zero]
  have word (w : Text) : (wordKind w).quote? = none := by
    unfold wordKind
    split <;> rfl
  cases h with
  | string closed =>
    cases quote
    exact closes closed
  | rune closed =>
    cases quote
    exact closes closed
  | word =>
    rw [word] at quote
    cases quote
  | punctuation mark =>
    unfold punctuation? at mark
    split at mark <;> cases mark <;> cases quote
  | _ => cases quote

/-- The reader begins a lexeme behind a text, whether it can read one there or not. -/
def BeginsAfter (source before : Text) : Prop :=
  ∃ front back fault, split source = (front ++ back, fault) ∧ front.flatMap spelling = before

/-- At an opening quote, the reader fails exactly if the literal is not closed. -/
theorem read_eq_error_iff (interprets : q = .scalar '"' ∨ q = .scalar '\x27') :
    read q rest = .error fault ↔ Unclosed q rest fault := by
  have form : ∃ kind, read q rest = (quotedLength q rest).map (kind, ·) := by
    obtain rfl | rfl := interprets <;> exact ⟨_, rfl⟩
  obtain ⟨kind, form⟩ := form
  rw [form, map_eq_error_iff, quotedLength_eq_error_iff]

end Lexeme

namespace Listing

/-- A lexeme that is begun is where the listing fails exactly if it cannot be read. -/
theorem ofText?_eq_error_iff_read {c : Rune} {before rest : Text} {fault : Fault}
    (begins : BeginsAfter (before ++ c :: rest) before) :
    ofText? (before ++ c :: rest) = .error (Cursor.start.advance before, fault) ↔
      read c rest = .error fault := by
  obtain ⟨front, back, ended, cut, rfl⟩ := begins
  obtain ⟨more, same, below⟩ := exists_of_split_append cut
  obtain rfl := List.append_cancel_left same
  unfold ofText?
  rw [cut]
  cases first : read c rest with
  | error cause =>
    rw [split_of_read_error first] at below
    cases below
    simp
  | ok here =>
    obtain ⟨kind, n⟩ := here
    rw [split_cons (Reads.of_read first)] at below
    obtain ⟨rfl, -⟩ := Prod.mk.inj below
    refine ⟨fun h => ?_, fun h => nomatch h⟩
    -- The reader has come further than `before`, so it did not fail there.
    cases ended with
    | none => cases h
    | some cause =>
      have place := congrArg Cursor.offset (congrArg Prod.fst (Except.error.inj h))
      simp [Cursor.advance_offset] at place

/-- An interpreted literal goes on up to the first quote that no backslash protects. So a token of
one has its quotes around it and nothing in it that closes them, and a line break stands in it
behind a backslash only. Where the file or the line ends before such a quote, the source has no
listing, and the opening quote is to blame; from a quote that begins a lexeme it is never to blame
otherwise. -/
theorem enclosed_of_ofText? (source : Text) :
    (∀ l, ofText? source = .ok l → ∀ t ∈ l.tokens, ∀ q, t.kind.quote? = some q →
      ∃ body, t.spelling = q :: (body ++ [q]) ∧ Enclosed q body ∧
        ∀ front back, body = front ++ .scalar '\n' :: back →
          ∃ inner, front = inner ++ [.scalar '\\'] ∧ Enclosed q inner) ∧
    ∀ before q rest fault, source = before ++ q :: rest →
      q = .scalar '"' ∨ q = .scalar '\x27' → BeginsAfter source before →
      (ofText? source = .error (Cursor.start.advance before, fault) ↔ Unclosed q rest fault) := by
  constructor
  · intro l listed t mem q quote
    obtain ⟨lexemes, cut, rfl⟩ := ofText?_eq_ok_iff.1 listed
    obtain semicolon | ⟨x, mem, kind, spelling⟩ := Layout.exists_lexeme_of_mem_place mem
    · rw [semicolon] at quote
      cases quote
    obtain ⟨c, rest, n, reads, written⟩ := exists_reads_of_mem_split cut x mem
    rw [kind] at reads
    obtain ⟨body, same, enclosed⟩ := reads.exists_enclosed quote
    refine ⟨body, spelling.symm.trans (written.trans same), enclosed, ?_⟩
    intro front back split
    rw [split] at enclosed
    exact enclosed.exists_of_newline
  · rintro before q rest fault rfl interprets begins
    rw [ofText?_eq_error_iff_read begins, read_eq_error_iff interprets]

/-- A rune literal whose second line is behind a backslash, and a text whose second line is not. -/
theorem enclosed_of_ofText?_lines :
    (∃ l, ofText? (text "'\\\n'") = .ok l ∧ ∀ t ∈ l.tokens, t.kind = .rune →
      ∃ body, t.spelling = .scalar '\x27' :: (body ++ [.scalar '\x27']) ∧
        Enclosed (.scalar '\x27') body) ∧
    ofText? (text "x := \"a\n\"") = .error (⟨5, 1, 6⟩, .openString) := by
  obtain ⟨l, listed, -⟩ := exists_ok_of_any (x := ofText? (text "'\\\n'")) (p := fun _ => true)
    (by decide +kernel)
  refine ⟨⟨l, listed, fun t mem kind => ?_⟩, ?_⟩
  · obtain ⟨body, spelling, enclosed, -⟩ :=
      (enclosed_of_ofText? _).1 l listed t mem (.scalar '\x27') (by rw [kind]; rfl)
    exact ⟨body, spelling, enclosed⟩
  · have begins : BeginsAfter (text "x := \"a\n\"") (text "x := ") :=
      ⟨(split (text "x := ")).1, [], some .openString, by decide +kernel, by decide +kernel⟩
    have inner : Enclosed (.scalar '"') (text "a") := enclosed_of_plain (by decide)
    exact ((enclosed_of_ofText? _).2 (text "x := ") _ _ _ rfl (.inl rfl) begins).2
      (.line inner (text "\""))

/-- A line break behind a backslash is taken into the literal. -/
theorem ofText?_brokenLiteral : ∃ l t, ofText? (text "\"a\\\nb\"") = .ok l ∧ t ∈ l.tokens ∧
    t.kind = .string ∧ .scalar '\n' ∈ t.spelling := by
  obtain ⟨l, listed, shown⟩ := exists_ok_of_any (x := ofText? (text "\"a\\\nb\""))
    (p := fun l => l.tokens.any fun t =>
      t.kind == .string && t.spelling.contains (.scalar '\n')) (by decide +kernel)
  obtain ⟨t, mem, shown⟩ := List.any_eq_true.1 shown
  obtain ⟨kind, newline⟩ := Bool.and_eq_true_iff.1 shown
  exact ⟨l, t, listed, mem, eq_of_beq kind, List.contains_iff_mem.1 newline⟩

end Listing

end EnumText
