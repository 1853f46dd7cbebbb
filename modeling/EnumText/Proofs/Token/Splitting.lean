import Mathlib.Data.List.Find
import Mathlib.Data.List.TakeWhile
import EnumText.Proofs.Token.Closing
import EnumText.Proofs.Token.Identifier

/-!
# Lexemes of texts that are put together

A lexeme is read in the same way when the text goes on, unless the next rune would have belonged to
it. `Soft a more` says that no operator reaches from `a` into `more`, and `Kind.endsBefore` that the
other lexemes without an end mark do not.

* `Reads.append`: one lexeme.
* `split_append`: the lexemes of a text that goes on are those of the text and those of the rest.
* `flatMap_spelling`: the lexemes of a text make it up.
* `exists_newline_of_split`: a text that ends with a line break ends with the lexeme of one.
* `split_append_of_newline`: what follows a line break is cut by itself.
-/

namespace EnumText.Lexeme

/-! ## Lexemes without an end mark -/

theorem length_takeWhile_append {p : Rune → Bool} {t more : Text}
    (stop : (t.takeWhile p).length = t.length → ∀ s ∈ more.head?, p s = false) :
    ((t ++ more).takeWhile p).length = (t.takeWhile p).length := by
  rw [List.takeWhile_append]
  split
  · next all =>
    cases more with
    | nil => simp [all]
    | cons s more =>
      rw [List.takeWhile_cons_of_neg (by simp [stop all s rfl])]
      simp [all]
  · rfl

/-- A line comment goes on up to the end of its line. -/
theorem lineCommentLength_spec (rest : Text) :
    .scalar '\n' ∉ rest.take (lineCommentLength rest) ∧
      ∀ next ∈ (rest.drop (lineCommentLength rest)).head?, next = .scalar '\n' := by
  have whole : rest.take (lineCommentLength rest) = rest.takeWhile (· ≠ .scalar '\n') :=
    (List.prefix_iff_eq_take.1 (List.takeWhile_prefix _)).symm
  have after : rest.drop (lineCommentLength rest) = rest.dropWhile (· ≠ .scalar '\n') := by
    have both : rest.takeWhile (· ≠ .scalar '\n') ++ rest.drop (lineCommentLength rest) =
        rest.takeWhile (· ≠ .scalar '\n') ++ rest.dropWhile (· ≠ .scalar '\n') := by
      rw [List.takeWhile_append_dropWhile, ← whole, List.take_append_drop]
    exact List.append_cancel_left both
  constructor
  · rw [whole]
    intro mem
    simpa using List.mem_takeWhile_imp mem
  · rw [after]
    intro next first
    have stop := List.head?_dropWhile_not (fun c : Rune => decide (c ≠ .scalar '\n')) rest
    rw [Option.mem_def.1 first] at stop
    simpa using stop

/-- Whether a rune begins nothing that a number could go on with. -/
def endsNumber (s : Rune) : Bool :=
  !(isIdentifierPart s || s == .scalar '.' || s == .scalar '+' || s == .scalar '-')

theorem isIdentifierPart_of_endsNumber {s : Rune} (h : endsNumber s = true) :
    isIdentifierPart s = false := by
  simp only [endsNumber, Bool.not_eq_true', Bool.or_eq_false_iff] at h
  exact h.1.1.1

theorem numberLength_le (isHex afterMark : Bool) (t : Text) :
    numberLength isHex afterMark t ≤ t.length := by
  induction t generalizing afterMark with
  | nil => exact Nat.le_refl 0
  | cons c t ih =>
    unfold numberLength
    split
    · exact Nat.succ_le_succ (ih _)
    split
    · exact Nat.succ_le_succ (ih _)
    · exact Nat.zero_le _

theorem numberLength_append {isHex afterMark : Bool} {t more : Text}
    (stop : numberLength isHex afterMark t = t.length → ∀ s ∈ more.head?, endsNumber s = true) :
    numberLength isHex afterMark (t ++ more) = numberLength isHex afterMark t := by
  induction t generalizing afterMark with
  | nil =>
    cases more with
    | nil => rfl
    | cons s more =>
      have ends := stop rfl s rfl
      simp only [endsNumber, isIdentifierPart, Bool.not_eq_true', Bool.or_eq_false_iff] at ends
      obtain ⟨⟨⟨⟨alphanumeric, underscore⟩, dot⟩, plus⟩, minus⟩ := ends
      simp [numberLength, alphanumeric, underscore, dot, plus, minus]
  | cons c t ih =>
    rw [List.cons_append]
    unfold numberLength at stop ⊢
    split
    · next part =>
      rw [if_pos part] at stop
      rw [ih fun all => stop (congrArg (· + 1) all)]
    · next part =>
      rw [if_neg part] at stop
      split
      · next sign =>
        rw [if_pos sign] at stop
        rw [ih fun all => stop (congrArg (· + 1) all)]
      · rfl

/-! ## The boundary -/

/-- Whether a rune is white space. -/
def isWhite (c : Rune) : Bool := c == .scalar '\n' || isSpace c

/-- The runes that operators and comment markers have after their first. -/
def tails : Text := text "/*.<>=^&|+-"

/-- Whether a rune stands in no operator, comment marker or fraction but as its first. -/
def isLoose (s : Rune) : Bool := !(tails.contains s || s.isDigit)

/-- No operator, comment marker or fraction begins at the end of the first text and goes on in the
second. -/
def Soft (a more : Text) : Prop :=
  (∃ w ∈ a.getLast?, isWhite w = true) ∨ ∀ s ∈ more.head?, isLoose s = true

theorem Soft.drop {a more : Text} (soft : Soft a more) {n : Nat} (inside : n < a.length) :
    Soft (a.drop n) more := by
  rcases soft with ⟨w, last, white⟩ | loose
  · refine .inl ⟨w, ?_, white⟩
    rw [List.getLast?_drop, if_neg (by omega)]
    exact last
  · exact .inr loose

/-- A rune that is neither loose nor white is never the first after the boundary. -/
theorem Soft.head?_append {c : Rune} {rest more : Text} (soft : Soft (c :: rest) more)
    (dark : isWhite c = false) {s : Rune} (tight : isLoose s = false) :
    (rest ++ more).head? = some s ↔ rest.head? = some s := by
  cases rest with
  | cons d rest => rfl
  | nil =>
    refine ⟨fun next => ?_, fun next => nomatch next⟩
    rcases soft with ⟨w, last, white⟩ | loose
    · obtain rfl : c = w := by simpa using last
      rw [dark] at white
      cases white
    · rw [loose s next] at tight
      cases tight

theorem Soft.any_isDigit {c : Rune} {rest more : Text} (soft : Soft (c :: rest) more)
    (dark : isWhite c = false) :
    (rest ++ more).head?.any Rune.isDigit = rest.head?.any Rune.isDigit := by
  have tight (s : Rune) (digit : s.isDigit = true) : isLoose s = false := by simp [isLoose, digit]
  rw [Bool.eq_iff_iff, Option.any_eq_true, Option.any_eq_true]
  constructor
  · intro h
    rcases h with ⟨s, next, digit⟩
    exact ⟨s, (soft.head?_append dark (tight s digit)).1 next, digit⟩
  · intro h
    rcases h with ⟨s, next, digit⟩
    exact ⟨s, (soft.head?_append dark (tight s digit)).2 next, digit⟩

/-- Operators have runes other than white space, and those after the first are tails. -/
theorem operators_runes : ∀ op ∈ operators,
    op ≠ [] ∧ (∀ c ∈ op, isWhite c = false) ∧ ∀ s ∈ op.tail, s ∈ tails := by decide

theorem startsWith_append {a more op : Text} (soft : Soft a more) (nonempty : a ≠ [])
    (known : op ∈ operators) : Text.startsWith (a ++ more) op = Text.startsWith a op := by
  rcases operators_runes op known with ⟨-, dark, tail⟩
  rw [Bool.eq_iff_iff, Text.startsWith, Text.startsWith, List.isPrefixOf_iff_prefix,
    List.isPrefixOf_iff_prefix]
  refine ⟨fun starts => ?_, fun starts => starts.trans (List.prefix_append a more)⟩
  by_cases inside : op.length ≤ a.length
  · exact List.prefix_of_prefix_length_le starts (List.prefix_append a more) inside
  · -- The operator would have to reach over the boundary.
    exfalso
    obtain ⟨beyond, rfl⟩ := List.prefix_of_prefix_length_le (List.prefix_append a more) starts
      (by omega)
    cases beyond with
    | nil => simp at inside
    | cons s beyond =>
      rcases (List.prefix_append_right_inj a).1 starts with ⟨after, rfl⟩
      rcases soft with ⟨w, last, white⟩ | loose
      · rw [dark w (List.mem_append_left _ (List.mem_of_getLast? last))] at white
        cases white
      · have mem : s ∈ (a ++ s :: beyond).tail := by
          cases a with
          | nil => exact absurd rfl nonempty
          | cons c a => simp
        have loose := loose s rfl
        simp [isLoose, tail s mem] at loose

theorem operator?_append {a more : Text} (soft : Soft a more) (nonempty : a ≠ []) :
    operator? (a ++ more) = operator? a :=
  List.find?_congr fun _ known => startsWith_append soft nonempty known

theorem startsOperator_append {a more : Text} (soft : Soft a more) (nonempty : a ≠ []) :
    startsOperator (a ++ more) = startsOperator a := by
  unfold startsOperator
  rw [startsWith_append soft nonempty (by decide), startsWith_append soft nonempty (by decide),
    startsWith_append soft nonempty (by decide)]

/-- Whether a lexeme without an end mark ends before a rune. -/
def Kind.endsBefore (kind : Kind) (s : Rune) : Bool :=
  match kind with
  | .lineComment => s == .scalar '\n'
  | .token .identifier | .token .keyword => !isIdentifierPart s
  | .token .number => endsNumber s
  | _ => true

theorem endsBefore_wordKind (word : Text) (s : Rune) :
    Kind.endsBefore (.token (wordKind word)) s = !isIdentifierPart s := by
  unfold wordKind
  split <;> rfl

theorem isHexNumber_append {c : Rune} {rest more : Text}
    (ends : rest = [] → ∀ s ∈ more.head?, endsNumber s = true) :
    isHexNumber c (rest ++ more) = isHexNumber c rest := by
  cases rest with
  | cons d rest => rfl
  | nil =>
    cases more with
    | nil => rfl
    | cons s more =>
      have ends := ends rfl s rfl
      have lower : s ≠ .scalar 'x' := by
        intro same
        subst same
        revert ends
        decide
      have upper : s ≠ .scalar 'X' := by
        intro same
        subst same
        revert ends
        decide
      simp [isHexNumber, lower, upper]

/-- A lexeme is read in the same way when the text goes on softly, unless it reaches up to the
boundary and does not end there. -/
theorem Reads.append {c : Rune} {rest : Text} {kind : Kind} {n : Nat} (h : Reads c rest kind n)
    {more : Text} (soft : Soft (c :: rest) more)
    (ends : n = rest.length → ∀ s ∈ more.head?, kind.endsBefore s = true) :
    n ≤ rest.length ∧ Reads c (rest ++ more) kind n := by
  cases h with
  | newline => exact ⟨Nat.zero_le _, .newline _⟩
  | blank _ space => exact ⟨Nat.zero_le _, .blank _ space⟩
  | lineComment slash =>
    have same : lineCommentLength (rest ++ more) = lineCommentLength rest :=
      length_takeWhile_append fun all s next => by
        have newline := ends all s next
        simpa [Kind.endsBefore] using newline
    refine ⟨(List.takeWhile_prefix _).length_le, ?_⟩
    rw [← same]
    exact .lineComment ((soft.head?_append rfl rfl).2 slash)
  | @blockComment _ m star closed =>
    cases rest with
    | nil => cases star
    | cons d rest =>
      have closes := blockComment_closes closed
      exact ⟨Nat.succ_le_succ closes.le, .blockComment star (closes.append more)⟩
  | string closed =>
    have closes := quoted_closes (by decide) (by decide) closed
    exact ⟨closes.le, .string (closes.append more)⟩
  | rune closed =>
    have closes := quoted_closes (by decide) (by decide) closed
    exact ⟨closes.le, .rune (closes.append more)⟩
  | rawString closed =>
    have closes := rawString_closes closed
    exact ⟨closes.le, .rawString (closes.append more)⟩
  | number first =>
    have short := numberLength_le (isHexNumber c rest) false (c :: rest)
    have hex : isHexNumber c (rest ++ more) = isHexNumber c rest :=
      isHexNumber_append fun empty => ends (by subst empty; simp at short ⊢; omega)
    have same : numberLength (isHexNumber c rest) false (c :: (rest ++ more)) =
        numberLength (isHexNumber c rest) false (c :: rest) :=
      numberLength_append fun all => ends (by rw [all]; rfl)
    refine ⟨by simp at short; omega, ?_⟩
    rw [← same, ← hex]
    refine .number (first.imp_right fun ⟨dot, digit⟩ => ⟨dot, ?_⟩)
    subst dot
    rw [soft.any_isDigit rfl]
    exact digit
  | word first digit =>
    have short : identifierLength rest ≤ rest.length := (List.takeWhile_prefix _).length_le
    have same : identifierLength (rest ++ more) = identifierLength rest :=
      length_takeWhile_append fun all s next => by
        have stop := ends all s next
        rw [endsBefore_wordKind] at stop
        simpa using stop
    refine ⟨short, ?_⟩
    have longer : Reads c (rest ++ more) _ _ := .word first digit
    rw [same, List.take_append_of_le_length short] at longer
    exact longer
  | punctuation mark alone number =>
    refine ⟨Nat.zero_le _, .punctuation mark ?_ fun ⟨dot, digit⟩ => number ⟨dot, ?_⟩⟩
    · exact (startsOperator_append soft (List.cons_ne_nil _ _)).trans alone
    · subst dot
      rw [← soft.any_isDigit rfl]
      exact digit
  | @operator _ _ op found mark comment number =>
    have starts : Text.startsWith (c :: rest) op = true := List.find?_some found
    have short := (List.isPrefixOf_iff_prefix.1 starts).length_le
    refine ⟨by simp at short; omega, .operator ?_ ?_ (fun ⟨slash, next⟩ => comment ⟨slash, ?_⟩)
      fun ⟨dot, digit⟩ => number ⟨dot, ?_⟩⟩
    · exact (operator?_append soft (List.cons_ne_nil _ _)).trans found
    · rw [← startsOperator_append soft (List.cons_ne_nil _ _)] at mark
      exact mark
    · subst slash
      rwa [soft.head?_append rfl rfl, soft.head?_append rfl rfl] at next
    · subst dot
      rw [← soft.any_isDigit rfl]
      exact digit

/-! ## Whole texts -/

theorem splitAfter_eq (n : Nat) (t : Text) : splitAfter n t = split (t.drop n) := by
  induction t generalizing n with
  | nil => cases n <;> rfl
  | cons c t ih =>
    cases n with
    | zero => rfl
    | succ n => rw [splitAfter, ih, List.drop_succ_cons]

theorem split_cons {c : Rune} {rest : Text} {kind : Kind} {n : Nat} (h : Reads c rest kind n) :
    split (c :: rest) =
      (⟨kind, c :: rest.take n⟩ :: (split (rest.drop n)).1, (split (rest.drop n)).2) := by
  rw [split, splitAfter, h.read]
  dsimp only
  rw [splitAfter_eq]

theorem split_of_read_error {c : Rune} {rest : Text} {fault : Fault}
    (h : read c rest = .error fault) : split (c :: rest) = ([], some fault) := by
  rw [split, splitAfter, h]

theorem split_eq_none {c : Rune} {rest : Text} {lexemes : List Lexeme}
    (h : split (c :: rest) = (lexemes, none)) :
    ∃ kind n more, Reads c rest kind n ∧ split (rest.drop n) = (more, none) ∧
      lexemes = ⟨kind, c :: rest.take n⟩ :: more := by
  cases first : read c rest with
  | error fault =>
    rw [split_of_read_error first] at h
    cases h
  | ok read =>
    obtain ⟨kind, n⟩ := read
    have reads := Reads.of_read first
    rw [split_cons reads, Prod.mk.injEq] at h
    exact ⟨kind, n, _, reads, Prod.ext rfl h.2, h.1.symm⟩

/-- The first lexeme of a text is read there, and the others behind it. -/
theorem exists_reads_of_split {t : Text} {x : Lexeme} {xs : List Lexeme} {fault : Option Fault}
    (h : split t = (x :: xs, fault)) :
    ∃ c rest kind n, t = c :: rest ∧ Reads c rest kind n ∧ x = ⟨kind, c :: rest.take n⟩ ∧
      split (rest.drop n) = (xs, fault) := by
  cases t with
  | nil => cases h
  | cons c rest =>
    cases first : read c rest with
    | error fault =>
      rw [split_of_read_error first] at h
      cases h
    | ok read =>
      obtain ⟨kind, n⟩ := read
      have reads := Reads.of_read first
      rw [split_cons reads, Prod.mk.injEq, List.cons.injEq] at h
      obtain ⟨⟨same, others⟩, ended⟩ := h
      exact ⟨c, rest, kind, n, rfl, reads, same.symm, Prod.ext others ended⟩

/-- Each lexeme of a text is read somewhere. -/
theorem exists_reads_of_mem_split {t : Text} {lexemes : List Lexeme} {fault : Option Fault}
    (h : split t = (lexemes, fault)) :
    ∀ x ∈ lexemes, ∃ c rest n, Reads c rest x.kind n ∧ x.spelling = c :: rest.take n := by
  induction lexemes generalizing t with
  | nil => exact List.forall_mem_nil _
  | cons x xs ih =>
    obtain ⟨c, rest, kind, n, -, reads, rfl, below⟩ := exists_reads_of_split h
    exact List.forall_mem_cons.2 ⟨⟨c, rest, n, reads, rfl⟩, ih below⟩

/-- Behind its first lexemes, a text is cut by itself. -/
theorem exists_of_split_append {t : Text} {front back : List Lexeme} {fault : Option Fault}
    (h : split t = (front ++ back, fault)) :
    ∃ rest, t = front.flatMap spelling ++ rest ∧ split rest = (back, fault) := by
  induction front generalizing t with
  | nil => exact ⟨t, rfl, h⟩
  | cons x front ih =>
    obtain ⟨c, rest, kind, n, rfl, -, rfl, below⟩ := exists_reads_of_split h
    obtain ⟨more, drop, cut⟩ := ih below
    refine ⟨more, ?_, cut⟩
    rw [List.flatMap_cons, List.append_assoc, ← drop, List.cons_append, List.take_append_drop]

/-- Induction along the lexemes of a text. -/
theorem split_induction {motive : Text → List Lexeme → Prop} (nil : motive [] [])
    (cons : ∀ {c rest kind n tail}, Reads c rest kind n → split (rest.drop n) = (tail, none) →
      motive (rest.drop n) tail → motive (c :: rest) (⟨kind, c :: rest.take n⟩ :: tail))
    {t : Text} {lexemes : List Lexeme} (h : split t = (lexemes, none)) : motive t lexemes := by
  obtain ⟨bound, short⟩ : ∃ bound, t.length < bound := ⟨_, Nat.lt_succ_self _⟩
  induction bound generalizing t lexemes with
  | zero => omega
  | succ bound ih =>
    cases t with
    | nil =>
      cases h
      exact nil
    | cons c rest =>
      rcases split_eq_none h with ⟨kind, n, tail, reads, below, rfl⟩
      exact cons reads below (ih below (by simp at short ⊢; omega))

theorem flatMap_spelling {t : Text} {lexemes : List Lexeme} (h : split t = (lexemes, none)) :
    lexemes.flatMap Lexeme.spelling = t := by
  refine split_induction (motive := fun t lexemes => lexemes.flatMap Lexeme.spelling = t) rfl ?_ h
  intro c rest kind n tail _ _ ih
  rw [List.flatMap_cons, ih, List.cons_append, List.take_append_drop]

/-- Lexemes have some length, and only line breaks are those of line breaks. -/
theorem ne_nil_of_split {t : Text} {lexemes : List Lexeme}
    (h : split t = (lexemes, none)) :
    ∀ x ∈ lexemes, x.spelling ≠ [] ∧ (x.kind = .newline → .scalar '\n' ∈ t) := by
  refine split_induction (motive := fun t lexemes => ∀ x ∈ lexemes, x.spelling ≠ [] ∧
    (x.kind = .newline → .scalar '\n' ∈ t)) (fun _ mem => nomatch mem) ?_ h
  intro c rest kind n tail reads _ ih
  refine List.forall_mem_cons.2 ⟨⟨List.cons_ne_nil _ _, ?_⟩, fun x mem => ?_⟩
  · intro same
    subst same
    cases reads
    exact List.mem_cons_self
  · rcases ih x mem with ⟨ne_nil, newline⟩
    exact ⟨ne_nil, fun kind => List.mem_cons_of_mem _ (List.mem_of_mem_drop (newline kind))⟩

theorem split_append {a more : Text} {lexemes : List Lexeme} (h : split a = (lexemes, none))
    (soft : Soft a more)
    (ends : ∀ last ∈ lexemes.getLast?, ∀ s ∈ more.head?, last.kind.endsBefore s = true) :
    split (a ++ more) = (lexemes ++ (split more).1, (split more).2) := by
  revert soft ends
  refine split_induction (motive := fun a lexemes => Soft a more →
    (∀ last ∈ lexemes.getLast?, ∀ s ∈ more.head?, last.kind.endsBefore s = true) →
    split (a ++ more) = (lexemes ++ (split more).1, (split more).2)) (fun _ _ => rfl) ?_ h
  intro c rest kind n tail reads below ih soft ends
  have stop : n = rest.length → ∀ s ∈ more.head?, kind.endsBefore s = true := by
    intro same
    subst same
    rw [List.drop_length] at below
    cases below
    exact ends _ rfl
  rcases reads.append soft stop with ⟨inside, longer⟩
  rw [List.cons_append, split_cons longer, List.take_append_of_le_length inside,
    List.drop_append_of_le_length inside]
  by_cases all : n = rest.length
  · rw [all, List.drop_length] at below ⊢
    cases below
    rfl
  · rw [ih (soft.drop (n := n + 1) (by simp; omega))]
    · rfl
    · intro last mem
      apply ends last
      cases tail with
      | nil => cases mem
      | cons d tail => exact mem

theorem split_word {word : Text} (h : word.isIdentifier = true) :
    split word = ([⟨.token (wordKind word), word⟩], none) := by
  cases word with
  | nil => cases h
  | cons c rest =>
    simp only [Text.isIdentifier, Bool.and_eq_true, Bool.or_eq_true, beq_iff_eq,
      List.all_eq_true] at h
    have digit : c.isDigit = false := by
      rcases h.1 with letter | rfl
      · exact Rune.isDigit_of_isLetter letter
      · decide
    have whole : identifierLength rest = rest.length := by
      rw [identifierLength, List.takeWhile_eq_self_iff.2 h.2]
    have reads : Reads c rest _ _ := .word h.1 digit
    rw [whole, List.take_length] at reads
    rw [split_cons reads, List.take_length, List.drop_length]
    rfl

theorem split_word_append {word more : Text} (h : word.isIdentifier = true)
    (next : ∀ s ∈ more.head?, isLoose s = true ∧ isIdentifierPart s = false) :
    split (word ++ more) = (⟨.token (wordKind word), word⟩ :: (split more).1, (split more).2) := by
  apply split_append (split_word h) (.inr fun s mem => (next s mem).1)
  intro last mem s after
  obtain rfl : _ = last := Option.some.inj mem
  exact (endsBefore_wordKind word s).trans (by rw [(next s after).2]; rfl)

/-! ## Texts that end with a line break -/

theorem mem_take_numberLength {isHex afterMark : Bool} {t : Text} {c : Rune}
    (h : c ∈ t.take (numberLength isHex afterMark t)) : endsNumber c = false := by
  induction t generalizing afterMark with
  | nil => simp at h
  | cons d t ih =>
    unfold numberLength at h
    split at h
    · next part =>
      rcases List.mem_cons.1 h with rfl | h
      · simp only [endsNumber, isIdentifierPart]
        simp only [Bool.or_eq_true] at part
        rcases part with (part | part) | part <;> simp [part]
      · exact ih h
    split at h
    · next sign =>
      rcases List.mem_cons.1 h with rfl | h
      · simp only [Bool.and_eq_true, Bool.or_eq_true] at sign
        rcases sign.2 with sign | sign <;> simp [endsNumber, sign]
      · exact ih h
    · cases h

/-- Whether a line break can stand in a lexeme. -/
def Kind.spansLines : Kind → Bool
  | .newline | .blockComment | .token .string | .token .rune | .token .rawString => true
  | _ => false

theorem spansLines_wordKind (word : Text) : Kind.spansLines (.token (wordKind word)) = false := by
  unfold wordKind
  split <;> rfl

theorem spansLines_of_punctuation? {c : Rune} {kind : Token.Kind}
    (mark : punctuation? c = some kind) : Kind.spansLines (.token kind) = false := by
  unfold punctuation? at mark
  split at mark <;> cases mark <;> rfl

theorem Reads.not_mem_newline {c : Rune} {rest : Text} {kind : Kind} {n : Nat}
    (h : Reads c rest kind n) (single : kind.spansLines = false) :
    .scalar '\n' ∉ c :: rest.take n := by
  intro mem
  cases h with
  | newline | blockComment | string | rune | rawString => cases single
  | blank _ space =>
    simp at mem
    subst mem
    cases space
  | lineComment slash =>
    rcases List.mem_cons.1 mem with head | mem
    · cases head
    · exact (lineCommentLength_spec rest).1 mem
  | number first =>
    rcases List.mem_cons.1 mem with head | mem
    · subst head
      rcases first with digit | ⟨dot, -⟩
      · cases digit
      · cases dot
    · have mem : .scalar '\n' ∈
          (c :: rest).take (numberLength (isHexNumber c rest) false (c :: rest)) := by
        cases length : numberLength (isHexNumber c rest) false (c :: rest) with
        | zero =>
          rw [length] at mem
          cases mem
        | succ m =>
          rw [length] at mem
          exact List.mem_cons_of_mem _ mem
      have part := mem_take_numberLength mem
      revert part
      decide
  | word first digit =>
    rcases List.mem_cons.1 mem with head | mem
    · subst head
      rcases first with letter | underscore
      · revert letter
        decide
      · cases underscore
    · rw [identifierLength, ← List.prefix_iff_eq_take.1 (List.takeWhile_prefix _)] at mem
      have part := List.mem_takeWhile_imp mem
      revert part
      decide
  | punctuation mark =>
    simp at mem
    subst mem
    cases mark
  | @operator _ _ op found =>
    rcases operators_runes op (List.mem_of_find?_eq_some found) with ⟨some, dark, -⟩
    have starts : Text.startsWith (c :: rest) op = true := List.find?_some found
    cases op with
    | nil => exact some rfl
    | cons d op =>
      rw [Text.startsWith, List.isPrefixOf_iff_prefix] at starts
      have same := List.prefix_iff_eq_take.1 starts
      rw [List.length_cons, List.take_succ_cons] at same
      rw [List.length_cons, Nat.add_sub_cancel, ← same] at mem
      cases dark _ mem

/-- No other lexeme than a line break ends with one. -/
theorem Reads.eq_newline {c : Rune} {rest : Text} {kind : Kind} {n : Nat}
    (h : Reads c rest kind n) (last : (c :: rest.take n).getLast? = some (.scalar '\n')) :
    kind = .newline := by
  have mem : .scalar '\n' ∈ c :: rest.take n := List.mem_of_getLast? last
  have inline := h.not_mem_newline
  -- A lexeme with an end mark ends with the mark.
  have closed (body : Text) {q : Rune} (take : rest.take n = body ++ [q]) : q = .scalar '\n' := by
    rw [take, ← List.cons_append, List.getLast?_concat] at last
    exact Option.some.inj last
  cases h with
  | newline => rfl
  | @blockComment _ m star inside =>
    cases rest with
    | nil => cases star
    | cons d rest =>
      rcases (blockComment_closes inside).last with ⟨body, take⟩
      cases closed (d :: body) (by rw [List.take_succ_cons]; exact congrArg _ take)
  | string inside =>
    rcases (quoted_closes (by decide) (by decide) inside).last with ⟨body, take⟩
    cases closed body take
  | rune inside =>
    rcases (quoted_closes (by decide) (by decide) inside).last with ⟨body, take⟩
    cases closed body take
  | rawString inside =>
    rcases (rawString_closes inside).last with ⟨body, take⟩
    cases closed body take
  | blank | lineComment | number | operator => exact absurd mem (inline rfl)
  | word => exact absurd mem (inline (spansLines_wordKind _))
  | punctuation mark => exact absurd mem (inline (spansLines_of_punctuation? mark))

theorem exists_newline_of_split {t : Text} {lexemes : List Lexeme}
    (h : split t = (lexemes, none)) (last : t.getLast? = some (.scalar '\n')) :
    ∃ init, lexemes = init ++ [⟨.newline, text "\n"⟩] := by
  revert last
  refine split_induction (motive := fun t lexemes => t.getLast? = some (.scalar '\n') →
    ∃ init, lexemes = init ++ [⟨.newline, text "\n"⟩]) (fun last => nomatch last) ?_ h
  intro c rest kind n tail reads below ih last
  by_cases all : rest.drop n = []
  · rw [all] at below
    cases below
    have whole : rest.take n = rest := List.take_of_length_le (List.drop_eq_nil_iff.1 all)
    have newline := reads.eq_newline (by rw [whole]; exact last)
    subst newline
    cases reads
    exact ⟨[], rfl⟩
  · obtain ⟨init, same⟩ := ih (by
      rw [List.getLast?_drop, if_neg (by rwa [← List.drop_eq_nil_iff])]
      cases rest with
      | nil => simp at all
      | cons d rest => exact last)
    exact ⟨⟨kind, c :: rest.take n⟩ :: init, by rw [same]; rfl⟩

/-- Behind a line break, a text is cut by itself. -/
theorem split_append_of_newline {a more : Text} {lexemes : List Lexeme}
    (h : split a = (lexemes, none)) (last : a.getLast? = some (.scalar '\n')) :
    split (a ++ more) = (lexemes ++ (split more).1, (split more).2) := by
  rcases exists_newline_of_split h last with ⟨init, rfl⟩
  apply split_append h (.inl ⟨_, last, rfl⟩)
  intro newline mem s _
  rw [List.getLast?_concat] at mem
  cases mem
  rfl

end EnumText.Lexeme
