import EnumText.Proofs.Text.Returns
import EnumText.Proofs.Token.Splitting

/-!
# Lexemes of texts with carriage returns

A carriage return before a line feed is a blank of its own, unless it belongs to the comment or the
raw string that stands around it. So with carriage returns before its line feeds a text falls into
the same lexemes, if none of them is a quoted literal with a line feed in it.

* `Reads.withReturns`: one lexeme.
* `Returned`: the lexemes of a text beside those of the text with carriage returns.
* `split_withReturns`: the lexemes of a whole text.
-/

namespace EnumText.Lexeme

open EnumText.Text (withReturns)

/-! ## Readers -/

theorem head?_withReturns_iff {s : Rune} (newline : s ≠ .scalar '\n') (ret : s ≠ .scalar '\r')
    (t : Text) : t.withReturns.head? = some s ↔ t.head? = some s := by
  have same := Text.any_head?_withReturns (p := (· == s)) (beq_false_of_ne (Ne.symm newline))
    (beq_false_of_ne (Ne.symm ret)) t
  rw [Bool.eq_iff_iff, Option.any_eq_true, Option.any_eq_true] at same
  simpa using same

/-- The end mark is where it was if the carriage returns do not make another one. -/
theorem ClosedBy.returned {length : Text → Except Fault Nat} {mark t : Text}
    {Body : Text → Prop} {n : Nat} (h : ClosedBy length mark Body) (dark : .scalar '\n' ∉ mark)
    (closed : length t = .ok n)
    (keeps : ∀ body, t.take n = body ++ mark → Body body → Body (withReturns body)) :
    length t.withReturns = .ok (withReturns (t.take n)).length := by
  obtain ⟨body, more, rfl, form, rfl⟩ := (h t n).1 closed
  have taken : (body ++ (mark ++ more)).take (body ++ mark).length = body ++ mark := by
    rw [← List.append_assoc, List.take_left]
  have same : withReturns (body ++ mark) = withReturns body ++ mark := by
    rw [Text.withReturns_append, Text.withReturns_of_not_mem dark]
  refine (h _ _).2 ⟨withReturns body, withReturns more, ?_, keeps body taken form, ?_⟩
  · rw [Text.withReturns_append, Text.withReturns_append, Text.withReturns_of_not_mem dark]
  · rw [taken, same]

theorem infix_of_withReturns {t : Text} (h : text "*/" <:+: t.withReturns) : text "*/" <:+: t := by
  induction t with
  | nil => exact h
  | cons c t ih =>
    by_cases newline : c = .scalar '\n'
    · subst newline
      rw [Text.withReturns_newline, infix_cons_iff, infix_cons_iff] at h
      obtain ⟨star, -⟩ | ⟨star, -⟩ | below := h
      · cases star
      · cases star
      · exact infix_cons_iff.2 (.inr (ih below))
    · rw [Text.withReturns_cons newline, infix_cons_iff,
        head?_withReturns_iff (by decide) (by decide)] at h
      exact infix_cons_iff.2 (h.imp_right ih)

theorem blockCommentLength_withReturns {t : Text} {n : Nat} (h : blockCommentLength t = .ok n) :
    blockCommentLength t.withReturns = .ok (withReturns (t.take n)).length := by
  refine blockCommentLength_closedBy.returned (by decide) h fun body _ unclosed inside => ?_
  have star : withReturns body ++ text "*" = withReturns (body ++ text "*") := by
    rw [Text.withReturns_append, Text.withReturns_of_not_mem (t := text "*") (by decide)]
  exact unclosed (infix_of_withReturns (star ▸ inside))

theorem rawStringLength_withReturns {t : Text} {n : Nat} (h : rawStringLength t = .ok n) :
    rawStringLength t.withReturns = .ok (withReturns (t.take n)).length := by
  refine rawStringLength_closedBy.returned (by decide) h fun body _ bare mem => ?_
  exact bare ((Text.mem_withReturns_iff (by decide)).1 mem)

/-- A quoted literal on one line does not see what stands behind it. -/
theorem quotedLength_withReturns {q : Rune} {t : Text} {n : Nat} (newline : q ≠ .scalar '\n')
    (backslash : q ≠ .scalar '\\') (h : quotedLength q t = .ok n)
    (inline : .scalar '\n' ∉ t.take n) : quotedLength q t.withReturns = .ok n := by
  have closes := quotedLength_closedBy newline backslash
  have read := closes.returned (by simpa using Ne.symm newline) h fun body taken form => by
    rw [taken, List.mem_append, not_or] at inline
    rwa [Text.withReturns_of_not_mem inline.1]
  rwa [Text.withReturns_of_not_mem inline, List.length_take,
    Nat.min_eq_left (quoted_closes newline backslash h).le] at read

theorem numberLength_of_endsNumber {isHex afterMark : Bool} {s : Rune} (ends : endsNumber s = true)
    (rest : Text) : numberLength isHex afterMark (s :: rest) = 0 := by
  simp only [endsNumber, isIdentifierPart, Bool.not_eq_true', Bool.or_eq_false_iff] at ends
  obtain ⟨⟨⟨⟨alphanumeric, underscore⟩, dot⟩, plus⟩, minus⟩ := ends
  simp [numberLength, alphanumeric, underscore, dot, plus, minus]

theorem numberLength_withReturns (isHex afterMark : Bool) (t : Text) :
    numberLength isHex afterMark t.withReturns = numberLength isHex afterMark t := by
  induction t generalizing afterMark with
  | nil => rfl
  | cons c t ih =>
    by_cases newline : c = .scalar '\n'
    · subst newline
      rw [Text.withReturns_newline, numberLength_of_endsNumber (by decide),
        numberLength_of_endsNumber (by decide)]
    · rw [Text.withReturns_cons newline, numberLength, numberLength, ih, ih]

theorem isHexNumber_withReturns (c : Rune) (rest : Text) :
    isHexNumber c rest.withReturns = isHexNumber c rest := by
  rw [isHexNumber, isHexNumber, Text.any_head?_withReturns (by decide) (by decide)]

theorem identifierLength_withReturns (rest : Text) :
    identifierLength rest.withReturns = identifierLength rest := by
  rw [identifierLength, identifierLength,
    Text.takeWhile_withReturns (by decide) (by decide)]

theorem take_identifierLength_withReturns (rest : Text) :
    rest.withReturns.take (identifierLength rest) = rest.take (identifierLength rest) := by
  have parts (t : Text) : t.take (identifierLength t) = t.takeWhile isIdentifierPart :=
    (List.prefix_iff_eq_take.1 (List.takeWhile_prefix _)).symm
  rw [parts, ← identifierLength_withReturns, parts,
    Text.takeWhile_withReturns (by decide) (by decide)]

theorem operator?_withReturns (t : Text) : operator? t.withReturns = operator? t := by
  refine List.find?_congr fun op known => ?_
  have dark := (operators_runes op known).2.1
  exact Text.isPrefixOf_withReturns (fun mem => absurd (dark _ mem) (by decide))
    (fun mem => absurd (dark _ mem) (by decide)) t

theorem startsOperator_withReturns (t : Text) :
    startsOperator t.withReturns = startsOperator t := by
  have same (op : Text) (newline : .scalar '\n' ∉ op) (ret : .scalar '\r' ∉ op) :
      Text.startsWith t.withReturns op = Text.startsWith t op :=
    Text.isPrefixOf_withReturns newline ret t
  rw [startsOperator, startsOperator, same _ (by decide) (by decide),
    same _ (by decide) (by decide), same _ (by decide) (by decide)]

/-! ## One lexeme -/

theorem Reads.le_length {c : Rune} {rest : Text} {kind : Kind} {n : Nat}
    (h : Reads c rest kind n) : n ≤ rest.length := by
  have soft : Soft (c :: rest) [] := .inr fun _ mem => nomatch mem
  exact (h.append soft fun _ _ mem => nomatch mem).1

/-- A lexeme is read with the carriage returns in it, unless the next one would be part of it. -/
theorem Reads.withReturns {c : Rune} {rest : Text} {kind : Kind} {n : Nat}
    (h : Reads c rest kind n) (comment : kind = .lineComment → rest.drop n = [])
    (inline : kind ≠ .blockComment → kind ≠ .token .rawString → .scalar '\n' ∉ c :: rest.take n) :
    Reads c rest.withReturns kind (EnumText.Text.withReturns (rest.take n)).length := by
  have le := h.le_length
  have free := h.not_mem_newline
  -- on one line no length changes
  have single (inline : .scalar '\n' ∉ c :: rest.take n) :
      c ≠ .scalar '\n' ∧ (EnumText.Text.withReturns (rest.take n)).length = n := by
    rw [List.mem_cons, not_or] at inline
    refine ⟨Ne.symm inline.1, ?_⟩
    rw [Text.withReturns_of_not_mem inline.2, List.length_take, Nat.min_eq_left le]
  have digits : rest.withReturns.head?.any Rune.isDigit = rest.head?.any Rune.isDigit :=
    Text.any_head?_withReturns (by decide) (by decide) rest
  cases h with
  | newline => exact absurd List.mem_cons_self (inline (by decide) (by decide))
  | blank _ space => exact .blank _ space
  | lineComment slash =>
    have all : rest.take (lineCommentLength rest) = rest :=
      List.take_of_length_le (List.drop_eq_nil_iff.1 (comment rfl))
    obtain ⟨-, length⟩ := single (free rfl)
    rw [all] at free
    rw [length, Text.withReturns_of_not_mem fun mem => free rfl (List.mem_cons_of_mem _ mem)]
    exact .lineComment slash
  | @blockComment _ m star closed =>
    cases rest with
    | nil => cases star
    | cons d rest =>
      cases star
      rw [List.take_succ_cons, Text.withReturns_cons (by decide), Text.withReturns_cons (by decide)]
      exact .blockComment rfl (blockCommentLength_withReturns closed)
  | string closed =>
    obtain ⟨-, length⟩ := single (inline (by decide) (by decide))
    rw [length]
    exact .string (quotedLength_withReturns (by decide) (by decide) closed
      fun mem => inline (by decide) (by decide) (List.mem_cons_of_mem _ mem))
  | rune closed =>
    obtain ⟨-, length⟩ := single (inline (by decide) (by decide))
    rw [length]
    exact .rune (quotedLength_withReturns (by decide) (by decide) closed
      fun mem => inline (by decide) (by decide) (List.mem_cons_of_mem _ mem))
  | rawString closed => exact .rawString (rawStringLength_withReturns closed)
  | number first =>
    obtain ⟨newline, length⟩ := single (free rfl)
    rw [length, ← isHexNumber_withReturns, ← numberLength_withReturns,
      Text.withReturns_cons newline]
    exact .number (by rwa [digits])
  | word first digit =>
    obtain ⟨newline, length⟩ := single (free (spansLines_wordKind _))
    have longer : Reads c rest.withReturns _ _ := .word first digit
    rw [identifierLength_withReturns, take_identifierLength_withReturns] at longer
    rwa [length]
  | punctuation mark alone number =>
    obtain ⟨newline, -⟩ := single (free (spansLines_of_punctuation? mark))
    refine .punctuation mark ?_ ?_
    · rw [← Text.withReturns_cons newline, startsOperator_withReturns, alone]
    · rwa [digits]
  | @operator _ _ op found mark comment number =>
    obtain ⟨newline, length⟩ := single (free rfl)
    rw [length]
    refine .operator ?_ ?_ ?_ ?_
    · rw [← Text.withReturns_cons newline, operator?_withReturns, found]
    · rwa [← Text.withReturns_cons newline, startsOperator_withReturns]
    · rwa [head?_withReturns_iff (by decide) (by decide),
        head?_withReturns_iff (by decide) (by decide)]
    · rwa [digits]

/-! ## Whole texts -/

/-- The lexemes of a text beside those of the text with carriage returns. -/
inductive Returned : List Lexeme → List Lexeme → Prop
  | nil : Returned [] []
  | newline {xs ys : List Lexeme} (rest : Returned xs ys) :
      Returned (⟨.newline, text "\n"⟩ :: xs) (⟨.blank, text "\r"⟩ :: ⟨.newline, text "\n"⟩ :: ys)
  | lineComment {s : Text} {xs ys : List Lexeme} (inline : .scalar '\n' ∉ s)
      (rest : Returned xs ys) :
      Returned (⟨.lineComment, s⟩ :: ⟨.newline, text "\n"⟩ :: xs)
        (⟨.lineComment, s ++ text "\r"⟩ :: ⟨.newline, text "\n"⟩ :: ys)
  | same {x : Lexeme} {xs ys : List Lexeme}
      (inline : x.kind ≠ .blockComment → x.kind ≠ .token .rawString → .scalar '\n' ∉ x.spelling)
      (rest : Returned xs ys) : Returned (x :: xs) (⟨x.kind, x.spelling.withReturns⟩ :: ys)

theorem Reads.of_newline {rest : Text} {kind : Kind} {n : Nat}
    (h : Reads (.scalar '\n') rest kind n) : kind = .newline ∧ n = 0 := by
  have read := h.read
  rw [Reads.read (.newline rest)] at read
  cases read
  exact ⟨rfl, rfl⟩

theorem lineCommentLength_of_newline {s : Text} (inline : .scalar '\n' ∉ s) (more : Text) :
    lineCommentLength (s ++ .scalar '\n' :: more) = s.length := by
  have all : ∀ c ∈ s, decide (c ≠ .scalar '\n') = true := fun c mem =>
    decide_eq_true fun same => inline (same ▸ mem)
  rw [lineCommentLength, List.takeWhile_append_of_pos all, List.takeWhile_cons_of_neg (by simp),
    List.append_nil]

/-- The carriage return before the end of the line belongs to a line comment. -/
theorem split_lineComment_withReturns {rest more : Text} (slash : rest.head? = some (.scalar '/'))
    (after : rest.drop (lineCommentLength rest) = .scalar '\n' :: more) :
    split (EnumText.Text.withReturns (.scalar '/' :: rest)) =
      (⟨.lineComment, .scalar '/' :: rest.take (lineCommentLength rest) ++ text "\r"⟩ ::
        ⟨.newline, text "\n"⟩ :: (split more.withReturns).1, (split more.withReturns).2) := by
  have inline := (lineCommentLength_spec rest).1
  have inline' : .scalar '\n' ∉ rest.take (lineCommentLength rest) ++ text "\r" := by
    simp [inline, text]
  have longer : rest.withReturns = rest.take (lineCommentLength rest) ++ text "\r" ++
      .scalar '\n' :: withReturns more := by
    calc rest.withReturns
      _ = withReturns (rest.take (lineCommentLength rest)) ++
          withReturns (.scalar '\n' :: more) := by
        rw [← after, ← Text.withReturns_append, List.take_append_drop]
      _ = _ := by
        rw [Text.withReturns_of_not_mem inline, Text.withReturns_newline, List.append_assoc]
        rfl
  have reads := Reads.lineComment ((head?_withReturns_iff (by decide) (by decide) rest).2 slash)
  have line := split_cons (.newline (withReturns more))
  rw [List.drop_zero] at line
  rw [longer, lineCommentLength_of_newline inline'] at reads
  rw [Text.withReturns_cons (by decide), longer, split_cons reads, List.take_left, List.drop_left,
    line]
  rfl

theorem split_newline_withReturns (t : Text) :
    split (EnumText.Text.withReturns (.scalar '\n' :: t)) =
      (⟨.blank, text "\r"⟩ :: ⟨.newline, text "\n"⟩ :: (split t.withReturns).1,
        (split t.withReturns).2) := by
  have blank := split_cons (c := .scalar '\r') (.blank (.scalar '\n' :: t.withReturns) (by decide))
  have line := split_cons (.newline t.withReturns)
  rw [List.drop_zero] at blank line
  rw [Text.withReturns_newline, blank, line]
  rfl

/-- Any other lexeme has its carriage returns in it. -/
theorem split_cons_withReturns {c : Rune} {rest : Text} {kind : Kind} {n : Nat}
    (h : Reads c rest kind n) (comment : kind = .lineComment → rest.drop n = [])
    (inline : kind ≠ .blockComment → kind ≠ .token .rawString → .scalar '\n' ∉ c :: rest.take n) :
    split (EnumText.Text.withReturns (c :: rest)) =
      (⟨kind, withReturns (c :: rest.take n)⟩ :: (split (withReturns (rest.drop n))).1,
        (split (withReturns (rest.drop n))).2) := by
  have newline : c ≠ .scalar '\n' := by
    intro same
    subst same
    obtain ⟨rfl, -⟩ := h.of_newline
    exact inline (by decide) (by decide) List.mem_cons_self
  have reads := h.withReturns comment inline
  have whole : rest.withReturns = withReturns (rest.take n) ++ withReturns (rest.drop n) := by
    rw [← Text.withReturns_append, List.take_append_drop]
  rw [Text.withReturns_cons newline, split_cons reads, Text.withReturns_cons newline, whole,
    List.take_left, List.drop_left]

theorem Kind.isQuoted_of_spansLines {kind : Kind} (h : kind.spansLines = true)
    (newline : kind ≠ .newline) (block : kind ≠ .blockComment) (raw : kind ≠ .token .rawString) :
    kind = .token .string ∨ kind = .token .rune := by
  unfold Kind.spansLines at h
  split at h
  · exact absurd rfl newline
  · exact absurd rfl block
  · exact .inl rfl
  · exact .inr rfl
  · exact absurd rfl raw
  · cases h

theorem split_withReturns {t : Text} {lexemes : List Lexeme} (h : split t = (lexemes, none))
    (inline : ∀ x ∈ lexemes, x.kind = .token .string ∨ x.kind = .token .rune →
      .scalar '\n' ∉ x.spelling) :
    ∃ ys, split t.withReturns = (ys, none) ∧ Returned lexemes ys := by
  revert inline
  refine split_induction (motive := fun t lexemes => (∀ x ∈ lexemes,
    x.kind = .token .string ∨ x.kind = .token .rune → .scalar '\n' ∉ x.spelling) →
    ∃ ys, split t.withReturns = (ys, none) ∧ Returned lexemes ys) (fun _ => ⟨[], rfl, .nil⟩) ?_ h
  intro c rest kind n tail reads below ih inline
  have free := reads.not_mem_newline
  obtain ⟨ys, cut, returned⟩ := ih fun x mem => inline x (List.mem_cons_of_mem _ mem)
  by_cases newline : kind = .newline
  · subst newline
    cases reads
    rw [List.drop_zero] at cut
    exact ⟨_, by rw [split_newline_withReturns, cut], .newline returned⟩
  by_cases comment : kind = .lineComment → rest.drop n = []
  · have inside (block : kind ≠ .blockComment) (raw : kind ≠ .token .rawString) :
        .scalar '\n' ∉ c :: rest.take n := by
      cases spans : kind.spansLines with
      | false => exact free spans
      | true =>
        exact inline _ List.mem_cons_self (Kind.isQuoted_of_spansLines spans newline block raw)
    exact ⟨_, by rw [split_cons_withReturns reads comment inside, cut], .same inside returned⟩
  · -- the comment takes the carriage return from the line break
    obtain ⟨rfl, some⟩ := Classical.not_imp.1 comment
    cases reads with
    | lineComment slash =>
      obtain ⟨d, more, after⟩ := List.exists_cons_of_ne_nil some
      obtain rfl := (lineCommentLength_spec rest).2 d (by rw [after]; rfl)
      rw [after, split_newline_withReturns, Prod.mk.injEq] at cut
      rw [after, split_cons (.newline more), Prod.mk.injEq] at below
      obtain ⟨rfl, -⟩ := below
      obtain ⟨rfl, closed⟩ := cut
      cases returned with
      | newline returned =>
        exact ⟨_, by rw [split_lineComment_withReturns slash after, closed],
          .lineComment (free rfl) returned⟩

end EnumText.Lexeme
