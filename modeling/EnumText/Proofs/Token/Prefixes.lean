import EnumText.Proofs.Token.Splitting

/-!
# Lexemes at the beginning of a text

What stands behind a lexeme says nothing but that the lexeme ends there, and so does the end of the
text. So the lexemes before any place where the reader stands are read in the same way when the
text is cut off at that place.

* `Reads.take`: one lexeme.
* `split_flatMap_spelling`: the lexemes before a place.
-/

namespace EnumText.Lexeme

variable {c : Rune} {t rest : Text} {n m : Nat}

/-! ## Lexemes without an end mark -/

theorem length_takeWhile_take {p : Rune → Bool} (inside : (t.takeWhile p).length ≤ m) :
    ((t.take m).takeWhile p).length = (t.takeWhile p).length := by
  rw [← List.take_takeWhile, List.take_of_length_le inside]

theorem numberLength_take {isHex afterMark : Bool} (inside : numberLength isHex afterMark t ≤ m) :
    numberLength isHex afterMark (t.take m) = numberLength isHex afterMark t := by
  induction t generalizing afterMark m with
  | nil => rw [List.take_nil]
  | cons c t ih =>
    cases m with
    | zero => rw [Nat.le_zero.1 inside, List.take_zero, numberLength]
    | succ m =>
      rw [List.take_succ_cons]
      unfold numberLength at inside ⊢
      split
      · next part =>
        rw [if_pos part] at inside
        rw [ih (Nat.le_of_succ_le_succ inside)]
      · next part =>
        rw [if_neg part] at inside
        split
        · next sign =>
          rw [if_pos sign] at inside
          rw [ih (Nat.le_of_succ_le_succ inside)]
        · rfl

theorem numberLength_cons {isHex : Bool} (part : c.isAlphanumeric = true ∨ c = .scalar '.')
    (afterMark : Bool) (t : Text) : numberLength isHex afterMark (c :: t) =
      numberLength isHex (isExponentMark isHex c) t + 1 := by
  rw [numberLength, if_pos]
  rcases part with part | dot
  · rw [part]
    rfl
  · subst dot
    rfl

/-- A number has a rune behind its first that tells what it is. -/
theorem one_le_numberLength {d : Rune} {isHex : Bool}
    (first : c.isAlphanumeric = true ∨ c = .scalar '.') (second : d.isAlphanumeric = true) :
    1 ≤ numberLength isHex false (c :: d :: t) - 1 := by
  rw [numberLength_cons first, numberLength_cons (.inl second)]
  exact Nat.le_add_left 1 _

/-! ## Operators -/

theorem startsWith_take {op : Text} :
    Text.startsWith (t.take m) op = true ↔ Text.startsWith t op = true ∧ op.length ≤ m := by
  rw [Text.startsWith, Text.startsWith, List.isPrefixOf_iff_prefix, List.isPrefixOf_iff_prefix,
    List.prefix_take_iff]

theorem operator?_take {op : Text} (h : operator? t = some op) (inside : op.length ≤ m) :
    operator? (t.take m) = some op := by
  obtain ⟨starts, before, after, whole, earlier⟩ := List.find?_eq_some_iff_append.1 h
  refine List.find?_eq_some_iff_append.2
    ⟨startsWith_take.2 ⟨starts, inside⟩, before, after, whole, fun other mem => ?_⟩
  have apart := earlier other mem
  rw [Bool.not_eq_true'] at apart ⊢
  rw [Bool.eq_false_iff] at apart ⊢
  exact fun starts => apart (startsWith_take.1 starts).1

theorem startsOperator_eq_true_iff :
    startsOperator t = true ↔
      ∃ op ∈ [text "...", text ":=", text "=="], t.startsWith op = true := by
  simp [startsOperator, or_assoc]

theorem startsOperator_mono {a : Text} (h : startsOperator a = true) (inside : a <+: t) :
    startsOperator t = true := by
  obtain ⟨op, mem, starts⟩ := startsOperator_eq_true_iff.1 h
  rw [Text.startsWith, List.isPrefixOf_iff_prefix] at starts
  refine startsOperator_eq_true_iff.2 ⟨op, mem, ?_⟩
  rw [Text.startsWith, List.isPrefixOf_iff_prefix]
  exact starts.trans inside

/-- The operators that begin with a punctuation mark. -/
theorem startsOperator_of_punctuation? : ∀ op ∈ operators,
    (op.head?.any fun c => (punctuation? c).isSome) = true → startsOperator op = true := by
  decide

/-! ## One lexeme -/

theorem head?_take_eq_some {s : Rune} (h : (rest.take m).head? = some s) :
    rest.head? = some s := by
  rw [List.head?_take] at h
  split at h
  · cases h
  · exact h

theorem head?_take_of_pos (some : 1 ≤ m) (rest : Text) : (rest.take m).head? = rest.head? := by
  rw [List.head?_take, if_neg (by omega)]

theorem isHexNumber_take
    (inside : numberLength (isHexNumber c rest) false (c :: rest) - 1 ≤ m) :
    isHexNumber c (rest.take m) = isHexNumber c rest := by
  by_cases some : 1 ≤ m
  · rw [isHexNumber, isHexNumber, head?_take_of_pos some]
  obtain rfl : m = 0 := by omega
  cases hex : isHexNumber c rest with
  | false => simp [isHexNumber]
  | true =>
    -- The mark of a hexadecimal number belongs to it.
    exfalso
    simp only [isHexNumber, Bool.and_eq_true, beq_iff_eq, Option.any_eq_true,
      Bool.or_eq_true] at hex
    obtain ⟨rfl, d, second, mark⟩ := hex
    obtain ⟨tail, rfl⟩ := List.head?_eq_some_iff.1 second
    have part : d.isAlphanumeric = true := by
      rcases mark with rfl | rfl <;> decide
    exact some (Nat.le_trans (one_le_numberLength (.inl (by decide)) part) inside)

/-- A lexeme is read in the same way when the text is cut off behind it. -/
theorem Reads.take {kind : Kind} (h : Reads c rest kind n) (inside : n ≤ m) :
    Reads c (rest.take m) kind n := by
  cases h with
  | newline => exact .newline _
  | blank _ space => exact .blank _ space
  | lineComment slash =>
    have same : lineCommentLength (rest.take m) = lineCommentLength rest :=
      length_takeWhile_take inside
    have some : 1 ≤ lineCommentLength rest := by
      obtain ⟨tail, rfl⟩ := List.head?_eq_some_iff.1 slash
      rw [lineCommentLength, List.takeWhile_cons_of_pos (by decide)]
      exact Nat.le_add_left 1 _
    rw [← same]
    exact .lineComment ((head?_take_of_pos (Nat.le_trans some inside) rest).trans slash)
  | @blockComment _ k star closed =>
    obtain ⟨tail, rfl⟩ := List.head?_eq_some_iff.1 star
    obtain ⟨m, rfl⟩ := Nat.exists_eq_add_of_le' (Nat.le_trans (Nat.le_add_left 1 k) inside)
    exact .blockComment rfl
      (blockCommentLength_closedBy.take closed (Nat.le_of_succ_le_succ inside))
  | string closed =>
    exact .string ((quotedLength_closedBy (by decide) (by decide)).take closed inside)
  | rune closed => exact .rune ((quotedLength_closedBy (by decide) (by decide)).take closed inside)
  | rawString closed => exact .rawString (rawStringLength_closedBy.take closed inside)
  | number first =>
    have hex := isHexNumber_take inside
    have same : numberLength (isHexNumber c rest) false (c :: rest.take m) =
        numberLength (isHexNumber c rest) false (c :: rest) :=
      numberLength_take (t := c :: rest) (m := m + 1) (by omega)
    rw [← same, ← hex]
    refine .number (first.imp_right fun byDot => ⟨byDot.1, ?_⟩)
    obtain ⟨rfl, digit⟩ := byDot
    obtain ⟨d, second, isDigit⟩ := (Option.any_eq_true _ _).1 digit
    obtain ⟨tail, rfl⟩ := List.head?_eq_some_iff.1 second
    have some : 1 ≤ numberLength (isHexNumber (.scalar '.') (d :: tail)) false
        (.scalar '.' :: d :: tail) - 1 :=
      one_le_numberLength (.inr rfl) (Rune.isAlphanumeric_of_isDigit isDigit)
    rwa [head?_take_of_pos (Nat.le_trans some inside)]
  | word first digit =>
    have same : identifierLength (rest.take m) = identifierLength rest :=
      length_takeWhile_take inside
    have reads : Reads c (rest.take m) _ _ := .word first digit
    rw [same, List.take_take, Nat.min_eq_left inside] at reads
    exact reads
  | punctuation mark alone number =>
    refine .punctuation mark ?_ fun byDot => number ⟨byDot.1, ?_⟩
    · rw [Bool.eq_false_iff] at alone ⊢
      refine fun starts => alone (startsOperator_mono starts ?_)
      exact List.cons_prefix_cons.2 ⟨rfl, List.take_prefix m rest⟩
    · obtain ⟨d, next, digit⟩ := (Option.any_eq_true _ _).1 byDot.2
      exact (Option.any_eq_true _ _).2 ⟨d, head?_take_eq_some next, digit⟩
  | @operator _ _ op found mark comment number =>
    have found' : operator? (c :: rest.take m) = some op :=
      operator?_take (t := c :: rest) (m := m + 1) found (by omega)
    have starts : Text.startsWith (c :: rest.take m) op = true := List.find?_some found'
    rw [Text.startsWith, List.isPrefixOf_iff_prefix] at starts
    refine .operator found' ?_ (fun bySlash => comment ⟨bySlash.1, ?_⟩) fun byDot =>
      number ⟨byDot.1, ?_⟩
    · cases isMark : punctuation? c with
      | none => exact .inl rfl
      | some kind =>
        have known := List.mem_of_find?_eq_some found
        obtain ⟨d, op, rfl⟩ := List.exists_cons_of_ne_nil (operators_runes _ known).1
        obtain ⟨rfl, -⟩ := List.cons_prefix_cons.1 starts
        have long := startsOperator_of_punctuation? _ known (by simp [isMark])
        exact .inr (startsOperator_mono long starts)
    · exact bySlash.2.imp head?_take_eq_some head?_take_eq_some
    · obtain ⟨d, next, digit⟩ := (Option.any_eq_true _ _).1 byDot.2
      exact (Option.any_eq_true _ _).2 ⟨d, head?_take_eq_some next, digit⟩

/-! ## Whole texts -/

/-- Where the reader stands before a lexeme, the text before is cut into the lexemes before. -/
theorem split_flatMap_spelling {front back : List Lexeme} {fault : Option Fault}
    (h : split t = (front ++ back, fault)) : split (front.flatMap spelling) = (front, none) := by
  induction front generalizing t with
  | nil => rfl
  | cons x front ih =>
    obtain ⟨c, rest, kind, n, rfl, reads, rfl, below⟩ := exists_reads_of_split h
    obtain ⟨more, drop, -⟩ := exists_of_split_append below
    have whole : rest.take (n + (front.flatMap spelling).length) =
        rest.take n ++ front.flatMap spelling := by
      rw [List.take_add, drop, List.take_left]
    have cut := split_cons (reads.take (Nat.le_add_right n (front.flatMap spelling).length))
    rw [List.take_take, Nat.min_eq_left (Nat.le_add_right _ _), List.drop_take,
      Nat.add_sub_cancel_left, drop, List.take_left, ih below, whole] at cut
    exact cut

end EnumText.Lexeme
