import EnumText.Literal
import EnumText.Proofs.Text.Numeral
import EnumText.Proofs.Text.Utf8

/-!
# The grammar of literals

A literal of Go is a text between back quotes, double quotes or single quotes. Between the latter
two it is a row of items, and each item stands for some bytes.

* `Sequence`, `Item`, `Items`: what may stand between interpreting quotes, with its bytes.
* `Denotes`: the literals, each with the text that it denotes.
* `escape?_eq_some_iff`, `bodyBytes?_eq_some_iff`: the reader takes escape sequences and rows of
  items for what they are, and nothing else.
* `unquote?_exact`: it reads the literals, and refuses every other text.
-/

namespace EnumText.Literal

/-- The letters of the short escapes, with what they stand for. -/
def letters : List (Char × Char) :=
  [('a', '\x07'), ('b', '\x08'), ('f', '\x0c'), ('n', '\n'), ('r', '\r'), ('t', '\t'),
    ('v', '\x0b'), ('\\', '\\')]

/-- The bytes of a hexadecimal or octal escape: in double quotes the number is a byte, in single
quotes it is a code point. -/
def coded (q : Rune) (n : Nat) : List UInt8 :=
  if q = .scalar '"' then [.ofNat n] else Rune.encode (Rune.ofCode n)

/-- An escape sequence, as it stands behind its backslash, and the bytes that it stands for. -/
inductive Sequence (q : Rune) : Text → List UInt8 → Prop
  | letter {e value : Char} (listed : (e, value) ∈ letters) :
    Sequence q [.scalar e] (Rune.encode (.scalar value))
  | mark : Sequence q [q] q.encode
  | hex {digits : Text} {n : Nat} (width : digits.length = 2) (number : Text.Writes 16 digits n) :
    Sequence q (.scalar 'x' :: digits) (coded q n)
  | octal {digits : Text} {n : Nat} (width : digits.length = 3) (number : Text.Writes 8 digits n)
    (small : n ≤ 255) : Sequence q digits (coded q n)
  | four {digits : Text} {n : Nat} (width : digits.length = 4) (number : Text.Writes 16 digits n)
    (surrogate : ¬ (0xD800 ≤ n ∧ n ≤ 0xDFFF)) :
    Sequence q (.scalar 'u' :: digits) (Rune.encode (Rune.ofCode n))
  | eight {digits : Text} {n : Nat} (width : digits.length = 8) (number : Text.Writes 16 digits n)
    (surrogate : ¬ (0xD800 ≤ n ∧ n ≤ 0xDFFF)) (most : n ≤ 0x10FFFF) :
    Sequence q (.scalar 'U' :: digits) (Rune.encode (Rune.ofCode n))

/-- One item between interpreting quotes, and the bytes that it stands for. -/
inductive Item (q : Rune) : Text → List UInt8 → Prop
  | plain {c : Rune} (mark : c ≠ q) (backslash : c ≠ .scalar '\\') (newline : c ≠ .scalar '\n') :
    Item q [c] c.encode
  | escaped {read : Text} {bytes : List UInt8} (sequence : Sequence q read bytes) :
    Item q (.scalar '\\' :: read) bytes

/-- A row of items, and the bytes that they stand for together. -/
inductive Items (q : Rune) : Text → List UInt8 → Prop
  | nil : Items q [] []
  | cons {written rest : Text} {bytes more : List UInt8} :
    Item q written bytes → Items q rest more → Items q (written ++ rest) (bytes ++ more)

/-- A literal, and the text that it denotes. -/
inductive Denotes : Text → Text → Prop
  | raw {body : Text} (bare : .scalar '\x60' ∉ body) :
    Denotes (.scalar '\x60' :: (body ++ [.scalar '\x60'])) (body.filter (· ≠ .scalar '\r'))
  | string {body : Text} {bytes : List UInt8} (items : Items (.scalar '"') body bytes) :
    Denotes (.scalar '"' :: (body ++ [.scalar '"'])) (Utf8.decode bytes)
  | rune {body : Text} {bytes : List UInt8} {c : Rune} (items : Items (.scalar '\x27') body bytes)
    (one : Utf8.decode bytes = [c]) : Denotes (.scalar '\x27' :: (body ++ [.scalar '\x27'])) [c]

variable {q c : Rune} {t read rest body : Text} {bytes : List UInt8} {n : Nat}

/-! ## Escape sequences -/

theorem simpleEscape?_eq_some_iff {value : Char} :
    simpleEscape? c = some value ↔ ∃ e, c = .scalar e ∧ (e, value) ∈ letters := by
  constructor
  · intro h
    unfold simpleEscape? at h
    split at h
    all_goals cases h
    all_goals exact ⟨_, rfl, by simp [letters]⟩
  · intro ⟨e, written, listed⟩
    have read : ∀ pair ∈ letters, simpleEscape? (.scalar pair.1) = some pair.2 := by decide
    rw [written]
    exact read (e, value) listed

theorem isValidChar_iff : n.isValidChar ↔ ¬ (0xD800 ≤ n ∧ n ≤ 0xDFFF) ∧ n ≤ 0x10FFFF := by
  unfold Nat.isValidChar
  omega

theorem numericBytes?_eq_some_iff {isByte : Bool} :
    numericBytes? isByte n = some bytes ↔
      if isByte then bytes = [.ofNat n]
      else n.isValidChar ∧ bytes = Rune.encode (Rune.ofCode n) := by
  cases isByte with
  | true =>
    simp only [numericBytes?, if_true]
    exact ⟨fun h => (Option.some.inj h).symm, fun h => congrArg _ h.symm⟩
  | false =>
    simp only [numericBytes?, Bool.false_eq_true, if_false]
    constructor
    · intro h
      split at h
      · next valid => exact ⟨valid, (Option.some.inj h).symm⟩
      · cases h
    · intro ⟨valid, same⟩
      rw [if_pos valid, same]

theorem eq_coded_of_numericBytes? (h : numericBytes? (q == .scalar '"') n = some bytes) :
    bytes = coded q n := by
  have form := numericBytes?_eq_some_iff.1 h
  unfold coded
  by_cases double : q = .scalar '"'
  · rw [if_pos double]
    rwa [if_pos (beq_iff_eq.2 double)] at form
  · rw [if_neg double]
    rw [if_neg (mt beq_iff_eq.1 double)] at form
    exact form.2

theorem numericBytes?_coded (small : n ≤ 255) :
    numericBytes? (q == .scalar '"') n = some (coded q n) := by
  rw [numericBytes?_eq_some_iff]
  unfold coded
  by_cases double : q = .scalar '"'
  · rw [if_pos double, if_pos (beq_iff_eq.2 double)]
  · rw [if_neg double, if_neg (mt beq_iff_eq.1 double)]
    exact ⟨isValidChar_iff.2 ⟨by omega, by omega⟩, rfl⟩

/-- What is read from the digits of a numeric escape. -/
theorem bind_numberOf?_eq_some_iff {base width count : Nat} {f : Nat → Option (List UInt8)}
    (most : base ≤ 16) :
    ((Text.numberOf? base width t).bind fun m => (f m).bind fun form => some (form, count)) =
        some (bytes, n) ↔
      ∃ digits rest m, t = digits ++ rest ∧ digits.length = width ∧ Text.Writes base digits m ∧
        f m = some bytes ∧ count = n := by
  constructor
  · intro h
    obtain ⟨m, number, h⟩ := Option.bind_eq_some_iff.1 h
    obtain ⟨form, numeric, h⟩ := Option.bind_eq_some_iff.1 h
    obtain ⟨digits, rest, split, wide, writes⟩ := (Text.numberOf?_eq_some_iff most).1 number
    cases h
    exact ⟨digits, rest, m, split, wide, writes, numeric, rfl⟩
  · intro ⟨digits, rest, m, split, wide, writes, numeric, same⟩
    rw [(Text.numberOf?_eq_some_iff most).2 ⟨digits, rest, split, wide, writes⟩,
      Option.bind_some, numeric, same]
    rfl

section Reading

variable (interprets : q = .scalar '"' ∨ q = .scalar '\x27')

include interprets

theorem escape?_mark (t : Text) : escape? q (q :: t) = some (q.encode, 1) := by
  obtain rfl | rfl := interprets <;> rfl

theorem escape?_x (t : Text) : escape? q (.scalar 'x' :: t) =
    (Text.numberOf? 16 2 t).bind fun m =>
      (numericBytes? (q == .scalar '"') m).bind fun form => some (form, 3) := by
  obtain rfl | rfl := interprets <;> rfl

theorem escape?_u (t : Text) : escape? q (.scalar 'u' :: t) =
    (Text.numberOf? 16 4 t).bind fun m =>
      (numericBytes? false m).bind fun form => some (form, 5) := by
  obtain rfl | rfl := interprets <;> rfl

theorem escape?_U (t : Text) : escape? q (.scalar 'U' :: t) =
    (Text.numberOf? 16 8 t).bind fun m =>
      (numericBytes? false m).bind fun form => some (form, 9) := by
  obtain rfl | rfl := interprets <;> rfl

omit interprets in
/-- Where no letter and no quote stands behind the backslash, octal digits have to. -/
theorem escape?_of_apart (short : simpleEscape? c = none) (mark : c ≠ q) (x : c ≠ .scalar 'x')
    (u : c ≠ .scalar 'u') (long : c ≠ .scalar 'U') (t : Text) : escape? q (c :: t) =
      (Text.numberOf? 8 3 (c :: t)).bind fun m =>
        (if m < 0x100 then numericBytes? (q == .scalar '"') m else none).bind fun form =>
          some (form, 3) := by
  simp only [escape?, short, if_neg mark, if_neg x, if_neg u, if_neg long]
  refine congrArg _ (funext fun m => ?_)
  split <;> rfl

theorem escape?_digit {low : Nat} (digit : c.IsDigit 8 low) (t : Text) : escape? q (c :: t) =
      (Text.numberOf? 8 3 (c :: t)).bind fun m =>
        (if m < 0x100 then numericBytes? (q == .scalar '"') m else none).bind fun form =>
          some (form, 3) := by
  have apart : ∀ k < 8, k.digitChar.toUpper = k.digitChar ∧
      simpleEscape? (.scalar k.digitChar) = none := by decide
  obtain ⟨same, short⟩ := apart low digit.1
  have written : c = .scalar low.digitChar := by
    have form := digit.2
    rwa [same, or_self] at form
  rw [written]
  refine escape?_of_apart short ?_ (by simp) (by simp) (by simp) t
  obtain rfl | rfl := interprets <;> simp

/-- What the reader takes for an escape sequence is one. -/
theorem exists_sequence_of_escape? (h : escape? q t = some (bytes, n)) :
    ∃ read rest, t = read ++ rest ∧ read.length = n ∧ Sequence q read bytes := by
  cases t with
  | nil => cases h
  | cons c rest =>
    cases short : simpleEscape? c with
    | some value =>
      simp only [escape?, short] at h
      cases h
      obtain ⟨e, rfl, listed⟩ := simpleEscape?_eq_some_iff.1 short
      exact ⟨[.scalar e], rest, rfl, rfl, .letter listed⟩
    | none =>
      by_cases mark : c = q
      · rw [mark, escape?_mark interprets] at h
        cases h
        exact ⟨[q], rest, congrArg (· :: rest) mark, rfl, .mark⟩
      by_cases x : c = .scalar 'x'
      · rw [x, escape?_x interprets] at h
        obtain ⟨digits, tail, m, rfl, wide, writes, numeric, rfl⟩ :=
          (bind_numberOf?_eq_some_iff (by decide)).1 h
        rw [x, eq_coded_of_numericBytes? numeric]
        exact ⟨.scalar 'x' :: digits, tail, rfl, congrArg _ wide, .hex wide writes⟩
      by_cases u : c = .scalar 'u'
      · rw [u, escape?_u interprets] at h
        obtain ⟨digits, tail, m, rfl, wide, writes, numeric, rfl⟩ :=
          (bind_numberOf?_eq_some_iff (by decide)).1 h
        obtain ⟨valid, rfl⟩ := numericBytes?_eq_some_iff.1 numeric
        rw [u]
        exact ⟨.scalar 'u' :: digits, tail, rfl, congrArg _ wide,
          .four wide writes (isValidChar_iff.1 valid).1⟩
      by_cases long : c = .scalar 'U'
      · rw [long, escape?_U interprets] at h
        obtain ⟨digits, tail, m, rfl, wide, writes, numeric, rfl⟩ :=
          (bind_numberOf?_eq_some_iff (by decide)).1 h
        obtain ⟨valid, rfl⟩ := numericBytes?_eq_some_iff.1 numeric
        obtain ⟨surrogate, most⟩ := isValidChar_iff.1 valid
        rw [long]
        exact ⟨.scalar 'U' :: digits, tail, rfl, congrArg _ wide,
          .eight wide writes surrogate most⟩
      · rw [escape?_of_apart short mark x u long] at h
        obtain ⟨digits, tail, m, split, wide, writes, numeric, rfl⟩ :=
          (bind_numberOf?_eq_some_iff (by decide)).1 h
        obtain ⟨small, numeric⟩ := Option.ite_none_right_eq_some.1 numeric
        rw [split, eq_coded_of_numericBytes? numeric]
        exact ⟨digits, tail, rfl, wide, .octal wide writes (Nat.le_of_lt_succ small)⟩

/-- An escape sequence is read as one, whatever follows it. -/
theorem Sequence.escape? (h : Sequence q read bytes) (rest : Text) :
    escape? q (read ++ rest) = some (bytes, read.length) := by
  cases h with
  | letter listed =>
    have short := simpleEscape?_eq_some_iff.2 ⟨_, rfl, listed⟩
    rw [List.singleton_append, Literal.escape?, short]
    rfl
  | mark => exact escape?_mark interprets rest
  | @hex digits n wide writes =>
    have small : n < 16 ^ 2 := wide ▸ writes.lt
    rw [List.cons_append, escape?_x interprets, List.length_cons, wide]
    exact (bind_numberOf?_eq_some_iff (by decide)).2
      ⟨digits, rest, n, rfl, wide, writes, numericBytes?_coded (Nat.le_of_lt_succ small), rfl⟩
  | @octal digits n wide writes small =>
    obtain ⟨c, digits, rfl⟩ := List.exists_cons_of_length_eq_add_one wide
    obtain ⟨low, digit⟩ := writes.isDigit_of_mem c List.mem_cons_self
    have numeric := numericBytes?_coded (q := q) small
    rw [List.cons_append, escape?_digit interprets digit, wide]
    exact (bind_numberOf?_eq_some_iff (by decide)).2
      ⟨c :: digits, rest, n, rfl, wide, writes,
        (if_pos (Nat.lt_succ_of_le small)).trans numeric, rfl⟩
  | @four digits n wide writes surrogate =>
    have small : n < 16 ^ 4 := wide ▸ writes.lt
    have valid := isValidChar_iff.2 ⟨surrogate, by omega⟩
    rw [List.cons_append, escape?_u interprets, List.length_cons, wide]
    exact (bind_numberOf?_eq_some_iff (by decide)).2
      ⟨digits, rest, n, rfl, wide, writes, numericBytes?_eq_some_iff.2 ⟨valid, rfl⟩, rfl⟩
  | @eight digits n wide writes surrogate most =>
    have valid := isValidChar_iff.2 ⟨surrogate, most⟩
    rw [List.cons_append, escape?_U interprets, List.length_cons, wide]
    exact (bind_numberOf?_eq_some_iff (by decide)).2
      ⟨digits, rest, n, rfl, wide, writes, numericBytes?_eq_some_iff.2 ⟨valid, rfl⟩, rfl⟩

/-- The reader takes for an escape sequence exactly what is one. -/
theorem escape?_eq_some_iff :
    escape? q t = some (bytes, n) ↔
      ∃ read rest, t = read ++ rest ∧ read.length = n ∧ Sequence q read bytes := by
  refine ⟨exists_sequence_of_escape? interprets, fun h => ?_⟩
  obtain ⟨read, rest, rfl, rfl, sequence⟩ := h
  exact sequence.escape? interprets rest

/-! ## Rows of items -/

omit interprets in
theorem bodyBytes?_append (q : Rune) (read rest : Text) :
    bodyBytes? q read.length (read ++ rest) = bodyBytes? q 0 rest := by
  induction read with
  | nil => rfl
  | cons c read ih => exact ih

omit interprets in
theorem bodyBytes?_plain (mark : c ≠ q) (backslash : c ≠ .scalar '\\') (newline : c ≠ .scalar '\n')
    (t : Text) : bodyBytes? q 0 (c :: t) = (bodyBytes? q 0 t).map (c.encode ++ ·) := by
  rw [bodyBytes?, if_neg (not_or.2 ⟨mark, newline⟩), if_neg backslash]
  simp only [bind, pure]
  cases bodyBytes? q 0 t <;> rfl

theorem bodyBytes?_backslash (t : Text) : bodyBytes? q 0 (.scalar '\\' :: t) =
    (escape? q t).bind fun form => (bodyBytes? q form.2 t).map (form.1 ++ ·) := by
  have other : ¬ (.scalar '\\' = q ∨ Rune.scalar '\\' = .scalar '\n') := by
    obtain rfl | rfl := interprets <;> simp
  rw [bodyBytes?, if_neg other, if_pos rfl]
  refine congrArg _ (funext fun form => ?_)
  simp only [bind, pure]
  cases bodyBytes? q form.2 t <;> rfl

/-- An item is read as one, whatever follows it. -/
theorem Item.bodyBytes? (h : Item q read bytes) (rest : Text) :
    bodyBytes? q 0 (read ++ rest) = (bodyBytes? q 0 rest).map (bytes ++ ·) := by
  cases h with
  | plain mark backslash newline => exact bodyBytes?_plain mark backslash newline rest
  | escaped sequence =>
    rw [List.cons_append, bodyBytes?_backslash interprets, sequence.escape? interprets,
      Option.bind_some, bodyBytes?_append]

theorem Items.bodyBytes? (h : Items q body bytes) : bodyBytes? q 0 body = some bytes := by
  induction h with
  | nil => rfl
  | cons item _ ih =>
    rw [item.bodyBytes? interprets, ih]
    rfl

theorem items_of_bodyBytes? {skip : Nat} (h : bodyBytes? q skip t = some bytes) :
    Items q (t.drop skip) bytes := by
  induction t generalizing skip bytes with
  | nil =>
    cases h
    rw [List.drop_nil]
    exact .nil
  | cons c t ih =>
    cases skip with
    | succ skip => exact ih h
    | zero =>
      by_cases ended : c = q ∨ c = .scalar '\n'
      · rw [bodyBytes?, if_pos ended] at h
        cases h
      obtain ⟨mark, newline⟩ := not_or.1 ended
      by_cases backslash : c = .scalar '\\'
      · rw [backslash, bodyBytes?_backslash interprets] at h
        obtain ⟨⟨form, count⟩, escape, h⟩ := Option.bind_eq_some_iff.1 h
        obtain ⟨more, below, rfl⟩ := Option.map_eq_some_iff.1 h
        obtain ⟨read, rest, rfl, rfl, sequence⟩ := exists_sequence_of_escape? interprets escape
        have items := ih below
        rw [List.drop_left] at items
        rw [backslash]
        exact .cons (.escaped sequence) items
      · rw [bodyBytes?_plain mark backslash newline] at h
        obtain ⟨more, below, rfl⟩ := Option.map_eq_some_iff.1 h
        exact .cons (.plain mark backslash newline) (ih below)

/-- The reader takes for a row of items exactly what is one. -/
theorem bodyBytes?_eq_some_iff : bodyBytes? q 0 body = some bytes ↔ Items q body bytes :=
  ⟨items_of_bodyBytes? interprets, Items.bodyBytes? interprets⟩

end Reading

/-! ## Literals -/

/-- A body without escapes is a row of plain items. -/
theorem bodyBytes?_of_plain
    (plain : ∀ c ∈ body, c ≠ q ∧ c ≠ .scalar '\\' ∧ c ≠ .scalar '\n') :
    bodyBytes? q 0 body = some (Text.encode body) := by
  induction body with
  | nil => rfl
  | cons c body ih =>
    obtain ⟨⟨mark, backslash, newline⟩, rest⟩ := List.forall_mem_cons.1 plain
    rw [bodyBytes?_plain mark backslash newline, ih rest]
    rfl

/-- A body is read item by item, unless all of it is plain. -/
theorem body?_cases (q : Rune) (body : Text) :
    body? q body = (bodyBytes? q 0 body).map Utf8.decode ∨
      (∀ c ∈ body, c ≠ q ∧ c ≠ .scalar '\\' ∧ c ≠ .scalar '\n') ∧ body? q body = some body := by
  unfold body?
  split
  · exact .inl rfl
  · next bare =>
    simp only [Bool.or_eq_true, List.contains_iff_mem, not_or] at bare
    obtain ⟨⟨backslash, newline⟩, mark⟩ := bare
    exact .inr ⟨fun c mem => ⟨ne_of_mem_of_not_mem mem mark, ne_of_mem_of_not_mem mem backslash,
      ne_of_mem_of_not_mem mem newline⟩, rfl⟩

/-- A plain body is read as it would be item by item. -/
theorem body?_eq (scalar : Text.isScalar body = true) :
    body? q body = (bodyBytes? q 0 body).map Utf8.decode := by
  obtain slow | ⟨plain, same⟩ := body?_cases q body
  · exact slow
  · rw [same, bodyBytes?_of_plain plain, Option.map_some, Text.decode_encode scalar]

theorem body?_eq_some_iff {value : Text} (interprets : q = .scalar '"' ∨ q = .scalar '\x27')
    (scalar : Text.isScalar body = true) :
    body? q body = some value ↔ ∃ bytes, Items q body bytes ∧ Utf8.decode bytes = value := by
  rw [body?_eq scalar, Option.map_eq_some_iff]
  simp only [bodyBytes?_eq_some_iff interprets]

theorem exists_enclosed_of_unquote? {literal value : Text} (h : unquote? literal = some value) :
    ∃ q body, literal = q :: (body ++ [q]) := by
  cases literal with
  | nil => cases h
  | cons q rest =>
    rw [unquote?] at h
    obtain ⟨last, -⟩ := Option.ite_none_right_eq_some.1 h
    obtain ⟨body, rfl⟩ := List.getLast?_eq_some_iff.1 last
    exact ⟨q, body, rfl⟩

theorem unquote?_enclosed (q : Rune) (body : Text) : unquote? (q :: (body ++ [q])) =
    if q = .scalar '\x60' then rawBody? body
    else if q = .scalar '"' then body? q body
    else if q = .scalar '\x27' then
      (body? q body).bind fun t => if t.length = 1 then some t else none
    else none := by
  rw [unquote?, List.getLast?_concat, if_pos rfl, List.dropLast_concat]

theorem isScalar_of_enclosed (scalar : Text.isScalar (q :: (body ++ [q])) = true) :
    Text.isScalar body = true := by
  simp only [Text.isScalar, List.all_cons, List.all_append, Bool.and_eq_true] at scalar
  exact scalar.2.1

theorem rawBody?_eq_some_iff {value : Text} : rawBody? body = some value ↔
    .scalar '\x60' ∉ body ∧ body.filter (· ≠ .scalar '\r') = value := by
  rw [rawBody?, Option.ite_none_left_eq_some, Option.some.injEq, List.contains_iff_mem]

theorem denotes_of_unquote? {literal value : Text} (scalar : Text.isScalar literal = true)
    (h : unquote? literal = some value) : Denotes literal value := by
  obtain ⟨q, body, rfl⟩ := exists_enclosed_of_unquote? h
  have inner := isScalar_of_enclosed scalar
  rw [unquote?_enclosed] at h
  by_cases raw : q = .scalar '\x60'
  · rw [if_pos raw] at h
    obtain ⟨bare, rfl⟩ := rawBody?_eq_some_iff.1 h
    subst raw
    exact .raw bare
  rw [if_neg raw] at h
  by_cases double : q = .scalar '"'
  · rw [if_pos double, body?_eq_some_iff (.inl double) inner] at h
    obtain ⟨bytes, items, rfl⟩ := h
    subst double
    exact .string items
  rw [if_neg double] at h
  by_cases single : q = .scalar '\x27'
  · rw [if_pos single] at h
    obtain ⟨t, read, h⟩ := Option.bind_eq_some_iff.1 h
    obtain ⟨one, same⟩ := Option.ite_none_right_eq_some.1 h
    obtain ⟨bytes, items, decoded⟩ := (body?_eq_some_iff (.inr single) inner).1 read
    obtain ⟨c, rfl⟩ := List.length_eq_one_iff.1 one
    cases same
    subst single
    exact .rune items decoded
  · rw [if_neg single] at h
    cases h

theorem Denotes.unquote? {literal value : Text} (scalar : Text.isScalar literal = true)
    (h : Denotes literal value) : unquote? literal = some value := by
  cases h with
  | raw bare =>
    rw [unquote?_enclosed, if_pos rfl]
    exact rawBody?_eq_some_iff.2 ⟨bare, rfl⟩
  | string items =>
    rw [unquote?_enclosed, if_neg (by decide), if_pos rfl]
    exact (body?_eq_some_iff (.inl rfl) (isScalar_of_enclosed scalar)).2 ⟨_, items, rfl⟩
  | rune items one =>
    have read := (body?_eq_some_iff (.inr rfl) (isScalar_of_enclosed scalar)).2 ⟨_, items, one⟩
    rw [unquote?_enclosed, if_neg (by decide), if_neg (by decide), if_pos rfl, read]
    rfl

/-- The reader of literals knows Go's grammar. For a text without stray bytes it returns what the
text denotes, and it refuses the text exactly if that denotes nothing. -/
theorem unquote?_exact {literal : Text} (scalar : Text.isScalar literal = true) :
    (∀ value, unquote? literal = some value ↔ Denotes literal value) ∧
      (unquote? literal = none ↔ ¬ ∃ value, Denotes literal value) := by
  have reads (value : Text) : unquote? literal = some value ↔ Denotes literal value :=
    ⟨denotes_of_unquote? scalar, Denotes.unquote? scalar⟩
  refine ⟨reads, ?_⟩
  rw [Option.eq_none_iff_forall_ne_some, not_exists]
  exact forall_congr' fun value => not_congr (reads value)

/-- Two bytes that only form a character together, and an escape of the other quote. -/
theorem unquote?_exact_quotes :
    Denotes (text "\"\\xc3\\251\"") (text "é") ∧ ¬ ∃ value, Denotes (text "\"\\'\"") value := by
  have joined : Text.isScalar (text "\"\\xc3\\251\"") = true := by decide +kernel
  have other : Text.isScalar (text "\"\\'\"") = true := by decide +kernel
  exact ⟨((unquote?_exact joined).1 (text "é")).1 (by decide +kernel),
    (unquote?_exact other).2.1 (by decide +kernel)⟩

end EnumText.Literal
