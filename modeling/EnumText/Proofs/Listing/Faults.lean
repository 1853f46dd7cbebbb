import EnumText.Proofs.Listing.Tiling
import EnumText.Proofs.Token.Prefixes

/-!
# Where a source has no listing

A source has no listing if the reader comes to a place where no lexeme begins. Everything before is
read, and the place is told by its line and column.

* `Lexeme.Unreadable`: what stands at such a place.
* `Lexeme.unreadable_of_read`: the reader fails for nothing else.
* `Listing.unreadable_of_ofFile?`: the place that is told is the first one of them.
-/

namespace EnumText

namespace Lexeme

variable {c : Rune} {t rest : Text} {fault : Fault}

/-- What stands at a place where no lexeme begins, and the fault that is told: the opening mark of a
literal or of a comment that is not closed, or a rune that begins no lexeme whatever follows. -/
inductive Unreadable : Text → Fault → Prop
  | string {rest : Text} {fault : Fault} (unclosed : Unclosed (.scalar '"') rest fault) :
      Unreadable (.scalar '"' :: rest) fault
  | rune {rest : Text} {fault : Fault} (unclosed : Unclosed (.scalar '\x27') rest fault) :
      Unreadable (.scalar '\x27' :: rest) fault
  | rawString {rest : Text} (unclosed : .scalar '\x60' ∉ rest) :
      Unreadable (.scalar '\x60' :: rest) .openRawString
  | comment {rest : Text} (unclosed : ¬ text "*/" <:+: rest) :
      Unreadable (text "/*" ++ rest) .openComment
  | strange {c : Rune} (rest : Text) (beginsNone : ∀ more kind n, ¬ Reads c more kind n) :
      Unreadable (c :: rest) (.strange c)

/-! ## Faults of the reader -/

theorem not_mem_of_rawStringLength (h : rawStringLength t = .error fault) :
    .scalar '\x60' ∉ t ∧ fault = .openRawString := by
  induction t with
  | nil =>
    cases h
    exact ⟨List.not_mem_nil, rfl⟩
  | cons c t ih =>
    rw [rawStringLength] at h
    split at h
    · cases h
    · next other =>
      obtain ⟨bare, same⟩ := ih (map_eq_error_iff.1 h)
      exact ⟨List.not_mem_cons_of_ne_of_not_mem (Ne.symm other) bare, same⟩

theorem not_infix_of_blockCommentLength (h : blockCommentLength t = .error fault) :
    ¬ text "*/" <:+: t ∧ fault = .openComment := by
  induction t with
  | nil =>
    cases h
    exact ⟨fun inside => absurd inside.length_le (by decide), rfl⟩
  | cons c t ih =>
    unfold blockCommentLength at h
    split at h
    · next none => cases none
    · cases h
    · next d rest other same =>
      cases same
      obtain ⟨unclosed, same⟩ := ih (map_eq_error_iff.1 h)
      refine ⟨fun inside => ?_, same⟩
      rcases List.infix_cons_iff.1 inside with ⟨more, front⟩ | inside
      · obtain ⟨star, slash⟩ := List.cons.inj front
        exact other more star.symm slash.symm
      · exact unclosed inside

/-- Each operator that is no punctuation mark begins with an operator of one rune. -/
theorem operatorHeads_single : ∀ c ∈ operatorHeads,
    (punctuation? c).isSome = true ∨ [c] ∈ operators := by decide

/-- White space and quotes are the decisive runes. -/
theorem mem_decisive_iff : c ∈ decisive ↔ c = .scalar '\n' ∨ isSpace c = true ∨
    c = .scalar '"' ∨ c = .scalar '\x27' ∨ c = .scalar '\x60' := by
  simp [decisive, text, isSpace, or_assoc]

/-- A rune at which no rule of the reader applies begins no lexeme at all. -/
theorem not_reads_of_operator? (plain : c ∉ decisive) (digit : c.isDigit = false)
    (word : ¬ (c.isLetter = true ∨ c = .scalar '_')) (mark : punctuation? c = none)
    (none : operator? (c :: rest) = none) (more : Text) (kind : Kind) (n : Nat) :
    ¬ Reads c more kind n := by
  have head : c ∉ operatorHeads := by
    intro mem
    rcases operatorHeads_single c mem with known | known
    · rw [mark] at known
      cases known
    · have fails := List.find?_eq_none.1 none _ known
      simp [Text.startsWith] at fails
  intro reads
  cases reads with
  | newline | string | rune | rawString => exact plain (by decide)
  | blank _ space => exact plain (mem_decisive_iff.2 (.inr (.inl space)))
  | lineComment | blockComment => exact head (by decide)
  | number first =>
    rcases first with first | ⟨rfl, -⟩
    · rw [digit] at first
      cases first
    · cases mark
  | word first => exact word first
  | punctuation known =>
    rw [mark] at known
    cases known
  | operator found => exact head (mem_operatorHeads_of_operator? found)

/-- The reader fails only where nothing can be read. -/
theorem unreadable_of_read (h : read c rest = .error fault) : Unreadable (c :: rest) fault := by
  unfold read at h
  split at h
  · cases h
  next newline =>
  split at h
  · cases h
  next space =>
  split at h
  · cases h
  next line =>
  split at h
  · next block =>
    obtain ⟨rfl, star⟩ := block
    obtain ⟨tail, rfl⟩ := List.head?_eq_some_iff.1 star
    obtain ⟨unclosed, rfl⟩ := not_infix_of_blockCommentLength (map_eq_error_iff.1 h)
    exact .comment unclosed
  next block =>
  split at h
  · next mark =>
    subst mark
    exact .string (unclosed_of_quotedLength (map_eq_error_iff.1 h))
  next double =>
  split at h
  · next mark =>
    subst mark
    exact .rune (unclosed_of_quotedLength (map_eq_error_iff.1 h))
  next single =>
  split at h
  · next mark =>
    subst mark
    obtain ⟨bare, rfl⟩ := not_mem_of_rawStringLength (map_eq_error_iff.1 h)
    exact .rawString bare
  next raw =>
  split at h
  · cases h
  next number =>
  split at h
  · cases h
  next word =>
  split at h
  · cases h
  next marks =>
  split at h
  · cases h
  next none =>
  cases h
  simp only [Bool.or_eq_true, not_or, Bool.not_eq_true] at number
  refine .strange rest (not_reads_of_operator? ?_ number.1 (by simpa using word) ?_ none)
  · rw [mem_decisive_iff]
    simp only [not_or]
    exact ⟨newline, space, double, single, raw⟩
  · -- A mark that is not read as one begins an operator.
    cases mark : punctuation? c with
    | none => rfl
    | some kind =>
      exfalso
      cases long : startsOperator (c :: rest) with
      | false => exact marks kind mark long
      | true =>
        obtain ⟨op, mem, starts⟩ := startsOperator_eq_true_iff.1 long
        have known : ∀ op ∈ [text "...", text ":=", text "=="], op ∈ operators := by decide
        exact List.find?_eq_none.1 none op (known op mem) starts

/-- The lexemes of a text go up to a place where none begins. -/
theorem unreadable_of_split {lexemes : List Lexeme} (h : split t = (lexemes, some fault)) :
    ∃ rest, t = lexemes.flatMap spelling ++ rest ∧ Unreadable rest fault := by
  rw [← List.append_nil lexemes] at h
  obtain ⟨rest, whole, below⟩ := exists_of_split_append h
  refine ⟨rest, whole, ?_⟩
  cases rest with
  | nil => cases below
  | cons c rest =>
    cases first : read c rest with
    | error cause =>
      rw [split_of_read_error first] at below
      cases below
      exact unreadable_of_read first
    | ok here =>
      obtain ⟨kind, n⟩ := here
      rw [split_cons (Reads.of_read first)] at below
      cases below

end Lexeme

namespace Listing

open Lexeme

variable {source : Text} {fault : Fault}

theorem unreadable_of_ofText? {here : Cursor} (failed : ofText? source = .error (here, fault)) :
    ∃ p ≤ source.length, here = source.placeAt p ∧ (∃ l, ofText? (source.take p) = .ok l) ∧
      Unreadable (source.drop p) fault := by
  unfold ofText? at failed
  cases cut : split source with
  | mk lexemes ended =>
    rw [cut] at failed
    cases ended with
    | none => cases failed
    | some cause =>
      cases failed
      obtain ⟨rest, whole, unreadable⟩ := unreadable_of_split cut
      rw [← List.append_nil lexemes] at cut
      have before := split_flatMap_spelling cut
      refine ⟨(lexemes.flatMap spelling).length, ?_, ?_, ?_, ?_⟩
      · rw [whole, List.length_append]
        exact Nat.le_add_right _ _
      · rw [whole]
        exact Cursor.start_advance _ rest
      · rw [whole, List.take_left]
        exact ⟨_, ofText?_eq_ok_iff.2 ⟨_, before, rfl⟩⟩
      · rw [whole, List.drop_left]
        exact unreadable

/-- A source that has no listing goes wrong at a place where no lexeme begins, and the line and
column that are told are those of the place. Up to there it has a listing. -/
theorem unreadable_of_ofFile? {file : Path} {e : SyntaxError}
    (failed : ofFile? file source = .error e) :
    ∃ p fault, p ≤ source.length ∧
      e.site = .inText file source (source.lineAt p) (source.columnAt p) ∧
      e.cause = .lexical fault ∧ (∃ l, ofFile? file (source.take p) = .ok l) ∧
      Unreadable (source.drop p) fault := by
  unfold ofFile? at failed
  split at failed
  · cases failed
  · next cursor fault none =>
    cases failed
    obtain ⟨p, inside, rfl, ⟨l, listed⟩, unreadable⟩ := unreadable_of_ofText? none
    refine ⟨p, fault, inside, rfl, rfl, ⟨l, ?_⟩, unreadable⟩
    rw [ofFile?, listed]

/-- A text that is not closed, behind a raw string over two lines. -/
def openSource : Text := text "x := \x60a\nb\x60 + \"c"

theorem unreadable_of_ofFile?_openSource :
    ofFile? .here openSource = .error ⟨.inText .here openSource 2 6, .lexical .openString⟩ ∧
    ∃ p fault, openSource.lineAt p = 2 ∧ openSource.columnAt p = 6 ∧
      (∃ l, ofFile? .here (openSource.take p) = .ok l) ∧
      Unreadable (openSource.drop p) fault := by
  have failed : ofFile? .here openSource =
      .error ⟨.inText .here openSource 2 6, .lexical .openString⟩ := by
    decide +kernel
  obtain ⟨p, fault, -, site, -, before, unreadable⟩ := unreadable_of_ofFile? failed
  have line := Int.ofNat.inj (congrArg Site.line site)
  have column := Int.ofNat.inj (congrArg Site.column site)
  exact ⟨failed, p, fault, line.symm, column.symm, before, unreadable⟩

end Listing

end EnumText
