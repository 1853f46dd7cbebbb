import EnumText.Proofs.Literal.Grammar

/-!
# Quoted literals are read back

`Escape` lists the six ways in which a rune is written between double quotes, each with what makes
the reader understand it; `escape_isEscape` says that `escape` uses no other. Everything about
quoted text goes through this list.

* `Escape.item`: an escaped rune is an item of the grammar, with the bytes of the rune.
* `unquote?_quote`: a quoted text denotes what its bytes decode to.
* `unquote?_quote_of_isScalar`: for a text without stray bytes that is the text itself.
* `guarded_flatMap_escape`: nothing inside a quoted text ends it.
-/

namespace EnumText.Literal

/-- The ways in which a rune is written between double quotes. -/
inductive Escape : Rune → Text → Prop
  | plain {c : Char} (printable : Rune.isPrintable (.scalar c) = true) (ne_quote : c ≠ '"')
      (ne_backslash : c ≠ '\\') : Escape (.scalar c) [.scalar c]
  | letter {c e : Char} (read : simpleEscape? (.scalar e) = some c) :
      Escape (.scalar c) [.scalar '\\', .scalar e]
  | quote : Escape (.scalar '"') [.scalar '\\', .scalar '"']
  | byte {c : Rune} {n : Nat} (small : n < 0x100) (bytes : c.encode = [.ofNat n]) :
      Escape c (.scalar '\\' :: .scalar 'x' :: Text.hex 2 n)
  | four {c : Char} (small : c.toNat < 0x10000) :
      Escape (.scalar c) (.scalar '\\' :: .scalar 'u' :: Text.hex 4 c.toNat)
  | eight (c : Char) :
      Escape (.scalar c) (.scalar '\\' :: .scalar 'U' :: Text.hex 8 c.toNat)

theorem escape_isEscape (c : Rune) : Escape c (escape c) := by
  unfold escape
  split
  case h_9 => exact .quote
  case h_10 c _ _ _ _ _ _ _ ne_backslash ne_quote =>
    dsimp only
    by_cases printable : Rune.isPrintable (.scalar c) = true
    · rw [if_pos printable]
      exact .plain printable ne_quote ne_backslash
    rw [if_neg printable]
    by_cases control : c.toNat < 0x20 ∨ c.toNat = 0x7F
    · rw [if_pos control]
      refine .byte (by omega) ?_
      simp only [Rune.encode]
      rw [if_pos (by omega)]
    rw [if_neg control]
    by_cases small : c.toNat < 0x10000
    · rw [if_pos small]
      exact .four small
    · rw [if_neg small]
      exact .eight c
  case h_11 b =>
    refine .byte ?_ rfl
    simp only [Rune.strayByte]
    omega
  all_goals exact .letter rfl

theorem ne_newline_of_isPrintable {c : Char} (printable : Rune.isPrintable (.scalar c) = true) :
    c ≠ '\n' := by
  intro same
  subst same
  exact absurd printable (by decide)

/-! ## Reading an escaped rune -/

theorem ofCode_toNat (c : Char) : Rune.ofCode c.toNat = .scalar c := by
  rw [Rune.ofCode, Char.ofNat_toNat]

/-- An escaped rune is an item, and stands for the bytes of the rune. -/
theorem Escape.item {c : Rune} {written : Text} (form : Escape c written) :
    Item (.scalar '"') written c.encode := by
  cases form with
  | plain printable ne_quote ne_backslash =>
    have ne_newline := ne_newline_of_isPrintable printable
    exact .plain (by simpa using ne_quote) (by simpa using ne_backslash) (by simpa using ne_newline)
  | letter read =>
    obtain ⟨e, same, listed⟩ := simpleEscape?_eq_some_iff.1 read
    cases same
    exact .escaped (.letter listed)
  | quote => exact .escaped .mark
  | @byte c n small bytes =>
    have wide : (Text.hex 2 n).length = 2 := Text.length_hex (by decide) small
    rw [bytes]
    exact .escaped (.hex wide (Text.writes_hex 2 n))
  | @four c small =>
    have wide : (Text.hex 4 c.toNat).length = 4 := Text.length_hex (by decide) small
    rw [← ofCode_toNat c]
    exact .escaped (.four wide (Text.writes_hex 4 _) (isValidChar_iff.1 c.valid).1)
  | eight c =>
    have small : c.toNat < 16 ^ 8 := Nat.lt_trans (Utf8.scalar_bounds c).1 (by decide)
    have wide : (Text.hex 8 c.toNat).length = 8 := Text.length_hex (by decide) small
    obtain ⟨surrogate, most⟩ := isValidChar_iff.1 c.valid
    rw [← ofCode_toNat c]
    exact .escaped (.eight wide (Text.writes_hex 8 _) surrogate most)

theorem items_flatMap_escape (t : Text) :
    Items (.scalar '"') (t.flatMap escape) (Text.encode t) := by
  induction t with
  | nil => exact .nil
  | cons c t ih => exact .cons (escape_isEscape c).item ih

/-! ## Reading a quoted text -/

/-- A rune whose escape has no backslash is written as it is, and is no stray byte. -/
theorem Escape.eq_of_not_mem {c : Rune} {written : Text} (form : Escape c written)
    (bare : .scalar '\\' ∉ written) : written = [c] ∧ c.isScalar = true := by
  cases form with
  | plain => exact ⟨rfl, rfl⟩
  | _ => exact absurd List.mem_cons_self bare

theorem flatMap_escape_of_not_mem {t : Text} (bare : .scalar '\\' ∉ t.flatMap escape) :
    t.flatMap escape = t ∧ Text.isScalar t = true := by
  induction t with
  | nil => exact ⟨rfl, rfl⟩
  | cons c t ih =>
    rw [List.flatMap_cons, List.mem_append, not_or] at bare
    rcases (escape_isEscape c).eq_of_not_mem bare.1 with ⟨same, scalar⟩
    rcases ih bare.2 with ⟨sameRest, scalarRest⟩
    refine ⟨by rw [List.flatMap_cons, same, sameRest]; rfl, ?_⟩
    simp only [Text.isScalar, List.all_cons, scalar, Bool.true_and]
    exact scalarRest

/-- A quoted text denotes what its bytes decode to. -/
theorem unquote?_quote (t : Text) :
    unquote? (quote t) = some (Utf8.decode (Text.encode t)) := by
  have read : body? (.scalar '"') (t.flatMap escape) = some (Utf8.decode (Text.encode t)) := by
    obtain slow | ⟨plain, same⟩ := body?_cases (.scalar '"') (t.flatMap escape)
    · rw [slow, (items_flatMap_escape t).bodyBytes? (.inl rfl), Option.map_some]
    · have bare : .scalar '\\' ∉ t.flatMap escape := fun mem => (plain _ mem).2.1 rfl
      obtain ⟨written, scalar⟩ := flatMap_escape_of_not_mem bare
      rw [same, written, Text.decode_encode scalar]
  rw [quote, List.cons_append, unquote?_enclosed]
  exact read

theorem unquote?_quote_of_isScalar {t : Text} (h : Text.isScalar t = true) :
    unquote? (quote t) = some t := by
  rw [unquote?_quote, Text.decode_encode h]

/-! ## Where a quoted text ends -/

/-- A text that closes no double quotes around it: each quote stands after a backslash, and no line
breaks stand there at all. -/
inductive Guarded : Text → Prop
  | nil : Guarded []
  | plain {c : Rune} {rest : Text} (ne_quote : c ≠ .scalar '"') (ne_backslash : c ≠ .scalar '\\')
      (ne_newline : c ≠ .scalar '\n') : Guarded rest → Guarded (c :: rest)
  | backslash {c : Rune} {rest : Text} (ne_newline : c ≠ .scalar '\n') :
      Guarded rest → Guarded (.scalar '\\' :: c :: rest)

theorem Guarded.append {s t : Text} (hs : Guarded s) (ht : Guarded t) : Guarded (s ++ t) := by
  induction hs with
  | nil => exact ht
  | plain ne_quote ne_backslash ne_newline _ ih =>
    exact .plain ne_quote ne_backslash ne_newline ih
  | backslash ne_newline _ ih => exact .backslash ne_newline ih

theorem Guarded.ne_newline {t : Text} (h : Guarded t) : ∀ c ∈ t, c ≠ .scalar '\n' := by
  induction h with
  | nil => exact fun _ mem => nomatch mem
  | plain _ _ ne_newline _ ih => exact List.forall_mem_cons.2 ⟨ne_newline, ih⟩
  | backslash ne_newline _ ih =>
    exact List.forall_mem_cons.2 ⟨by decide, List.forall_mem_cons.2 ⟨ne_newline, ih⟩⟩

theorem guarded_of_plain {t : Text}
    (plain : ∀ c ∈ t, c ≠ .scalar '"' ∧ c ≠ .scalar '\\' ∧ c ≠ .scalar '\n') : Guarded t := by
  induction t with
  | nil => exact .nil
  | cons c t ih =>
    rcases List.forall_mem_cons.1 plain with ⟨⟨ne_quote, ne_backslash, ne_newline⟩, rest⟩
    exact .plain ne_quote ne_backslash ne_newline (ih rest)

theorem guarded_hex (width n : Nat) : Guarded (Text.hex width n) := by
  have all : ∀ d < 16, Rune.scalar d.digitChar ≠ .scalar '"' ∧
      Rune.scalar d.digitChar ≠ .scalar '\\' ∧ Rune.scalar d.digitChar ≠ .scalar '\n' := by decide
  apply guarded_of_plain
  intro c mem
  rcases Text.exists_digitChar_of_mem_hex mem with ⟨d, small, rfl⟩
  exact all d small

theorem Escape.guarded {c : Rune} {written : Text} (form : Escape c written) :
    Guarded written := by
  cases form with
  | plain printable ne_quote ne_backslash =>
    have ne_newline := ne_newline_of_isPrintable printable
    exact .plain (by simpa using ne_quote) (by simpa using ne_backslash)
      (by simpa using ne_newline) .nil
  | letter read =>
    refine .backslash ?_ .nil
    intro newline
    rw [newline] at read
    cases read
  | quote => exact .backslash (by decide) .nil
  | byte | four | eight => exact .backslash (by decide) (guarded_hex _ _)

/-- Between its outer quotes, a quoted text closes no quotes. -/
theorem guarded_flatMap_escape (t : Text) : Guarded (t.flatMap escape) := by
  induction t with
  | nil => exact .nil
  | cons c t ih => exact (escape_isEscape c).guarded.append ih

end EnumText.Literal
