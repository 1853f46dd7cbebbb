import EnumText.Proofs.Outcome
import EnumText.Token.Lexeme

/-!
# What the reader of lexemes can do

`Reads c rest kind n` lists the ways in which a lexeme begins with `c` and takes `n` of the runes
after it; `read_eq_ok_iff` says that these are the successes of `Lexeme.read`. The classes of first
runes are apart from each other, so a rule needs no word about the others, but for the marks that
begin several lexemes.
-/

namespace EnumText.Lexeme

/-- The ways in which a lexeme is read. -/
inductive Reads : Rune → Text → Kind → Nat → Prop
  | newline (rest : Text) : Reads (.scalar '\n') rest .newline 0
  | blank {c : Rune} (rest : Text) (space : isSpace c = true) : Reads c rest .blank 0
  | lineComment {rest : Text} (slash : rest.head? = some (.scalar '/')) :
      Reads (.scalar '/') rest .lineComment (lineCommentLength rest)
  | blockComment {rest : Text} {n : Nat} (star : rest.head? = some (.scalar '*'))
      (closed : blockCommentLength rest.tail = .ok n) :
      Reads (.scalar '/') rest .blockComment (n + 1)
  | string {rest : Text} {n : Nat} (closed : quotedLength (.scalar '"') rest = .ok n) :
      Reads (.scalar '"') rest (.token .string) n
  | rune {rest : Text} {n : Nat} (closed : quotedLength (.scalar '\x27') rest = .ok n) :
      Reads (.scalar '\x27') rest (.token .rune) n
  | rawString {rest : Text} {n : Nat} (closed : rawStringLength rest = .ok n) :
      Reads (.scalar '\x60') rest (.token .rawString) n
  | number {c : Rune} {rest : Text}
      (first : c.isDigit = true ∨ c = .scalar '.' ∧ rest.head?.any Rune.isDigit = true) :
      Reads c rest (.token .number) (numberLength (isHexNumber c rest) false (c :: rest) - 1)
  | word {c : Rune} {rest : Text} (first : c.isLetter = true ∨ c = .scalar '_')
      (digit : c.isDigit = false) :
      Reads c rest (.token (wordKind (c :: rest.take (identifierLength rest))))
        (identifierLength rest)
  | punctuation {c : Rune} {rest : Text} {kind : Token.Kind} (mark : punctuation? c = some kind)
      (alone : startsOperator (c :: rest) = false)
      (number : ¬ (c = .scalar '.' ∧ rest.head?.any Rune.isDigit = true)) :
      Reads c rest (.token kind) 0
  | operator {c : Rune} {rest op : Text} (found : operator? (c :: rest) = some op)
      (mark : punctuation? c = none ∨ startsOperator (c :: rest) = true)
      (comment : ¬ (c = .scalar '/' ∧
        (rest.head? = some (.scalar '/') ∨ rest.head? = some (.scalar '*'))))
      (number : ¬ (c = .scalar '.' ∧ rest.head?.any Rune.isDigit = true)) :
      Reads c rest (.token .operator) (op.length - 1)

theorem Reads.of_read {c : Rune} {rest : Text} {kind : Kind} {n : Nat}
    (h : read c rest = .ok (kind, n)) : Reads c rest kind n := by
  unfold read at h
  split at h
  · next newline =>
    cases h
    subst newline
    exact .newline rest
  split at h
  · next space =>
    cases h
    exact .blank rest space
  split at h
  · next line =>
    cases h
    obtain ⟨rfl, slash⟩ := line
    exact .lineComment slash
  split at h
  · next block =>
    obtain ⟨rfl, star⟩ := block
    rcases map_eq_ok_iff.1 h with ⟨m, closed, same⟩
    cases same
    exact .blockComment star closed
  split at h
  · next mark =>
    subst mark
    rcases map_eq_ok_iff.1 h with ⟨m, closed, same⟩
    cases same
    exact .string closed
  split at h
  · next mark =>
    subst mark
    rcases map_eq_ok_iff.1 h with ⟨m, closed, same⟩
    cases same
    exact .rune closed
  split at h
  · next mark =>
    subst mark
    rcases map_eq_ok_iff.1 h with ⟨m, closed, same⟩
    cases same
    exact .rawString closed
  split at h
  · next first =>
    cases h
    exact .number (by simpa using first)
  next line block _ _ _ number =>
  simp only [Bool.or_eq_true, Bool.and_eq_true, beq_iff_eq, not_or] at number
  split at h
  · next first =>
    cases h
    exact .word (by simpa using first) (by simpa using number.1)
  split at h
  · next mark alone =>
    cases h
    exact .punctuation mark alone number.2
  · next marks =>
    split at h
    · next op found =>
      cases h
      refine .operator found ?_ (fun ⟨slash, second⟩ => ?_) number.2
      · cases mark : punctuation? c with
        | none => exact .inl rfl
        | some kind =>
          cases alone : startsOperator (c :: rest) with
          | true => exact .inr rfl
          | false => exact (marks kind mark alone).elim
      · rcases second with second | second
        · exact line ⟨slash, second⟩
        · exact block ⟨slash, second⟩
    · cases h

/-! ## Each rule succeeds -/

/-- The runes by which a lexeme is known at once: white space and quotes. -/
def decisive : Text := text "\n \t\r\ufeff\"\x27\x60"

theorem read_of_not_decisive {c : Rune} {rest : Text} (plain : c ∉ decisive)
    (comment : ¬ (c = .scalar '/' ∧
      (rest.head? = some (.scalar '/') ∨ rest.head? = some (.scalar '*')))) :
    read c rest =
      if c.isDigit || (c == .scalar '.' && rest.head?.any Rune.isDigit) then
        .ok (.token .number, numberLength (isHexNumber c rest) false (c :: rest) - 1)
      else if c.isLetter || c == .scalar '_' then
        .ok (.token (wordKind (c :: rest.take (identifierLength rest))), identifierLength rest)
      else
        match punctuation? c, startsOperator (c :: rest) with
        | some kind, false => .ok (.token kind, 0)
        | _, _ =>
          match operator? (c :: rest) with
          | some op => .ok (.token .operator, op.length - 1)
          | none => .error (.strange c) := by
  have other (d : Rune) (mem : d ∈ decisive) : c ≠ d := fun same => plain (same ▸ mem)
  have space : isSpace c = false := by
    simp only [isSpace, Bool.or_eq_false_iff, beq_eq_false_iff_ne]
    exact ⟨⟨⟨other _ (by decide), other _ (by decide)⟩, other _ (by decide)⟩, other _ (by decide)⟩
  unfold read
  rw [if_neg (other _ (by decide)), if_neg (by simp [space]),
    if_neg fun h => comment ⟨h.1, .inl h.2⟩, if_neg fun h => comment ⟨h.1, .inr h.2⟩,
    if_neg (other _ (by decide)), if_neg (other _ (by decide))]
  exact if_neg (other _ (by decide))

theorem not_mem_decisive_of_isDigit {c : Rune} (h : c.isDigit = true) : c ∉ decisive := by
  have all : ∀ d ∈ decisive, d.isDigit = false := by decide
  intro mem
  rw [all c mem] at h
  cases h

theorem not_mem_decisive_of_isLetter {c : Rune} (h : c.isLetter = true ∨ c = .scalar '_') :
    c ∉ decisive := by
  have all : ∀ d ∈ decisive, d.isLetter = false ∧ d ≠ .scalar '_' := by decide +kernel
  intro mem
  rcases all c mem with ⟨letter, underscore⟩
  rcases h with h | h
  · rw [letter] at h
    cases h
  · exact underscore h

/-- The runes that are punctuation marks. -/
def marks : Text := text "()[]\x7b\x7d,:.=;"

theorem mem_marks_of_punctuation? {c : Rune} {kind : Token.Kind} (h : punctuation? c = some kind) :
    c ∈ marks := by
  unfold punctuation? at h
  split at h <;> first | decide | cases h

/-- The first runes of operators. -/
def operatorHeads : Text := operators.filterMap List.head?

theorem mem_operatorHeads_of_operator? {c : Rune} {rest op : Text}
    (h : operator? (c :: rest) = some op) : c ∈ operatorHeads := by
  have starts : Text.startsWith (c :: rest) op = true := List.find?_some h
  have all : ∀ op ∈ operators, op ≠ [] := by decide
  cases op with
  | nil => exact absurd rfl (all _ (List.mem_of_find?_eq_some h))
  | cons d op =>
    have same : d = c := by
      simp only [Text.startsWith, List.isPrefixOf, Bool.and_eq_true, beq_iff_eq] at starts
      exact starts.1
    subst same
    exact List.mem_filterMap.2 ⟨_, List.mem_of_find?_eq_some h, rfl⟩

/-- What begins with a mark or an operator begins neither a word nor a number. -/
theorem mark_apart : ∀ c ∈ marks ++ operatorHeads,
    c ∉ decisive ∧ c.isDigit = false ∧ c.isLetter = false ∧ c ≠ .scalar '_' := by decide

theorem Reads.read {c : Rune} {rest : Text} {kind : Kind} {n : Nat} (h : Reads c rest kind n) :
    read c rest = .ok (kind, n) := by
  cases h with
  | newline => rfl
  | blank _ space =>
    have newline : c ≠ .scalar '\n' := by
      intro same
      subst same
      cases space
    rw [Lexeme.read, if_neg newline, if_pos space]
  | lineComment slash =>
    rw [Lexeme.read, if_neg (by decide), if_neg (by decide), if_pos ⟨rfl, slash⟩]
  | blockComment star closed =>
    rw [Lexeme.read, if_neg (by decide), if_neg (by decide), if_neg (by simp [star]),
      if_pos ⟨rfl, star⟩, closed]
    rfl
  | string closed =>
    rw [Lexeme.read, if_neg (by decide), if_neg (by decide), if_neg (by simp), if_neg (by simp),
      if_pos rfl, closed]
    rfl
  | rune closed =>
    rw [Lexeme.read, if_neg (by decide), if_neg (by decide), if_neg (by simp), if_neg (by simp),
      if_neg (by decide), if_pos rfl, closed]
    rfl
  | rawString closed =>
    rw [Lexeme.read, if_neg (by decide), if_neg (by decide), if_neg (by simp), if_neg (by simp),
      if_neg (by decide), if_neg (by decide), if_pos rfl, closed]
    rfl
  | number first =>
    have plain : c ∉ decisive ∧ c ≠ .scalar '/' := by
      rcases first with digit | ⟨rfl, _⟩
      · refine ⟨not_mem_decisive_of_isDigit digit, ?_⟩
        intro same
        subst same
        cases digit
      · exact ⟨by decide, by decide⟩
    rw [read_of_not_decisive plain.1 fun h => plain.2 h.1, if_pos (by simpa using first)]
  | word first digit =>
    have plain : c ≠ .scalar '/' ∧ c ≠ .scalar '.' := by
      constructor <;>
      · intro same
        subst same
        revert first
        decide
    rw [read_of_not_decisive (not_mem_decisive_of_isLetter first) fun h => plain.1 h.1,
      if_neg (by simp [digit, plain.2]), if_pos (by simpa using first)]
  | @punctuation _ _ kind mark alone number =>
    obtain ⟨plain, digit, letter, underscore⟩ :=
      mark_apart c (List.mem_append_left _ (mem_marks_of_punctuation? mark))
    have slash : c ≠ .scalar '/' := by
      intro same
      subst same
      cases mark
    rw [read_of_not_decisive plain fun h => slash h.1, if_neg (by simpa [digit] using number),
      if_neg (by simp [letter, underscore]), mark, alone]
  | @operator _ _ op found mark comment number =>
    obtain ⟨plain, digit, letter, underscore⟩ :=
      mark_apart c (List.mem_append_right _ (mem_operatorHeads_of_operator? found))
    rw [read_of_not_decisive plain comment, if_neg (by simpa [digit] using number),
      if_neg (by simp [letter, underscore]), found]
    rcases mark with none | starts
    · rw [none]
    · rw [starts]
      cases punctuation? c <;> rfl

/-- The rules are the successes of the reader. -/
theorem read_eq_ok_iff {c : Rune} {rest : Text} {kind : Kind} {n : Nat} :
    read c rest = .ok (kind, n) ↔ Reads c rest kind n := ⟨.of_read, Reads.read⟩

end EnumText.Lexeme
