import EnumText.Proofs.Token.Reading

/-!
# Between the quotes of an interpreted literal

A backslash between quotes protects the rune after it, whatever that is. So a literal goes on up to
the first quote that is not protected, and it may not get there: the line or the file can end
before.

* `Enclosed`: what stands between quotes.
* `Unclosed`: what follows an opening quote that is never closed.
* `quotedLength_eq_ok_iff`, `quotedLength_eq_error_iff`: the reader tells one from the other.
-/

namespace EnumText.Lexeme

/-- A text between quotes: neither the quote nor a line break stands in it, unless a backslash
protects it. -/
inductive Enclosed (q : Rune) : Text → Prop
  | nil : Enclosed q []
  | plain {c : Rune} {rest : Text} (newline : c ≠ .scalar '\n') (backslash : c ≠ .scalar '\\')
    (mark : c ≠ q) : Enclosed q rest → Enclosed q (c :: rest)
  | protect (c : Rune) {rest : Text} : Enclosed q rest → Enclosed q (.scalar '\\' :: c :: rest)

/-- The fault of a literal in which the line or the file ends. -/
def quoteFault (q : Rune) : Fault := if q = .scalar '\x27' then .openRune else .openString

/-- A text after an opening quote in which no closing one follows: the file ends, or the line does,
or a backslash at the end of the file protects nothing. -/
inductive Unclosed (q : Rune) : Text → Fault → Prop
  | file {body : Text} (enclosed : Enclosed q body) : Unclosed q body (quoteFault q)
  | line {body : Text} (enclosed : Enclosed q body) (more : Text) :
    Unclosed q (body ++ .scalar '\n' :: more) (quoteFault q)
  | backslash {body : Text} (enclosed : Enclosed q body) :
    Unclosed q (body ++ [.scalar '\\']) .openString

variable {q c : Rune} {a b t : Text} {n : Nat} {fault : Fault}

theorem Enclosed.append (h : Enclosed q a) (next : Enclosed q b) : Enclosed q (a ++ b) := by
  induction h with
  | nil => exact next
  | plain newline backslash mark _ ih => exact .plain newline backslash mark ih
  | protect c _ ih => exact .protect c ih

theorem enclosed_of_plain (plain : ∀ c ∈ t, c ≠ .scalar '\n' ∧ c ≠ .scalar '\\' ∧ c ≠ q) :
    Enclosed q t := by
  induction t with
  | nil => exact .nil
  | cons c t ih =>
    obtain ⟨⟨newline, backslash, mark⟩, rest⟩ := List.forall_mem_cons.1 plain
    exact .plain newline backslash mark (ih rest)

/-- A line break between quotes stands behind a backslash that is not protected itself. -/
theorem Enclosed.exists_of_newline (h : Enclosed q (a ++ .scalar '\n' :: b)) :
    ∃ inner, a = inner ++ [.scalar '\\'] ∧ Enclosed q inner := by
  generalize whole : a ++ .scalar '\n' :: b = t at h
  induction h generalizing a with
  | nil => simp at whole
  | plain newline backslash mark _ ih =>
    cases a with
    | nil =>
      obtain ⟨rfl, -⟩ := List.cons.inj whole
      exact absurd rfl newline
    | cons c a =>
      obtain ⟨rfl, below⟩ := List.cons.inj whole
      obtain ⟨inner, rfl, enclosed⟩ := ih below
      exact ⟨c :: inner, rfl, .plain newline backslash mark enclosed⟩
  | protect d _ ih =>
    match a, whole with
    | [_], whole =>
      obtain ⟨rfl, -⟩ := List.cons.inj whole
      exact ⟨[], rfl, .nil⟩
    | _ :: e :: a, whole =>
      obtain ⟨rfl, below⟩ := List.cons.inj whole
      obtain ⟨inner, rfl, enclosed⟩ := ih (List.cons.inj below).2
      exact ⟨.scalar '\\' :: e :: inner, rfl, .protect e enclosed⟩

/-! ## The reader -/

theorem quotedLength_backslash (q d : Rune) (t : Text) :
    quotedLength q (.scalar '\\' :: d :: t) = (quotedLength q t).map (· + 2) := by
  rw [quotedLength.eq_def]
  dsimp only
  rw [if_neg (by decide), if_pos rfl]

theorem quotedLength_mark {q : Rune} (newline : q ≠ .scalar '\n') (backslash : q ≠ .scalar '\\')
    (t : Text) : quotedLength q (q :: t) = .ok 1 := by
  unfold quotedLength
  rw [if_neg newline, if_neg backslash, if_pos rfl]

theorem quotedLength_plain {q c : Rune} (newline : c ≠ .scalar '\n')
    (backslash : c ≠ .scalar '\\') (mark : c ≠ q) (t : Text) :
    quotedLength q (c :: t) = (quotedLength q t).map (· + 1) := by
  rw [quotedLength.eq_def]
  dsimp only
  rw [if_neg newline, if_neg backslash, if_neg mark]

theorem Unclosed.plain (newline : c ≠ .scalar '\n') (backslash : c ≠ .scalar '\\') (mark : c ≠ q)
    (h : Unclosed q t fault) : Unclosed q (c :: t) fault := by
  cases h with
  | file enclosed => exact .file (.plain newline backslash mark enclosed)
  | line enclosed more => exact .line (.plain newline backslash mark enclosed) more
  | backslash enclosed => exact .backslash (.plain newline backslash mark enclosed)

theorem Unclosed.protect (c : Rune) (h : Unclosed q t fault) :
    Unclosed q (.scalar '\\' :: c :: t) fault := by
  cases h with
  | file enclosed => exact .file (.protect c enclosed)
  | line enclosed more => exact .line (.protect c enclosed) more
  | backslash enclosed => exact .backslash (.protect c enclosed)

theorem unclosed_of_quotedLength (h : quotedLength q t = .error fault) : Unclosed q t fault := by
  fun_induction quotedLength q t with
  | case1 =>
    cases h
    exact .file .nil
  | case2 rest =>
    cases h
    exact .line .nil rest
  | case3 =>
    cases h
    exact .backslash .nil
  | case4 d rest newline ih => exact .protect d (ih (map_eq_error_iff.1 h))
  | case5 => cases h
  | case6 c rest newline backslash mark ih =>
    exact .plain newline backslash mark (ih (map_eq_error_iff.1 h))

theorem exists_enclosed_of_quotedLength (h : quotedLength q t = .ok n) :
    ∃ body more, t = body ++ q :: more ∧ Enclosed q body ∧ n = body.length + 1 := by
  fun_induction quotedLength q t generalizing n with
  | case1 => cases h
  | case2 => cases h
  | case3 => cases h
  | case4 d rest newline ih =>
    obtain ⟨m, closed, rfl⟩ := map_eq_ok_iff.1 h
    obtain ⟨body, more, rfl, enclosed, rfl⟩ := ih closed
    exact ⟨.scalar '\\' :: d :: body, more, rfl, .protect d enclosed, rfl⟩
  | case5 rest =>
    cases h
    exact ⟨[], rest, rfl, .nil, rfl⟩
  | case6 c rest newline backslash mark ih =>
    obtain ⟨m, closed, rfl⟩ := map_eq_ok_iff.1 h
    obtain ⟨body, more, rfl, enclosed, rfl⟩ := ih closed
    exact ⟨c :: body, more, rfl, .plain newline backslash mark enclosed, rfl⟩

/-- What stands between quotes is passed over. -/
theorem Enclosed.quotedLength_append (h : Enclosed q a) (t : Text) :
    quotedLength q (a ++ t) = (quotedLength q t).map (· + a.length) := by
  induction h with
  | nil =>
    rw [List.nil_append]
    cases quotedLength q t <;> rfl
  | plain newline backslash mark _ ih =>
    rw [List.cons_append, quotedLength_plain newline backslash mark, ih]
    cases quotedLength q t <;> rfl
  | protect c _ ih =>
    rw [List.cons_append, List.cons_append, quotedLength_backslash, ih]
    cases quotedLength q t <;> rfl

/-- A literal is closed by the first quote that no backslash protects. -/
theorem quotedLength_eq_ok_iff (newline : q ≠ .scalar '\n') (backslash : q ≠ .scalar '\\') :
    quotedLength q t = .ok n ↔
      ∃ body more, t = body ++ q :: more ∧ Enclosed q body ∧ n = body.length + 1 := by
  refine ⟨exists_enclosed_of_quotedLength, fun h => ?_⟩
  obtain ⟨body, more, rfl, enclosed, rfl⟩ := h
  rw [enclosed.quotedLength_append, quotedLength_mark newline backslash]
  exact congrArg _ (Nat.add_comm _ _)

/-- A literal is not closed if the file or its line ends before such a quote. -/
theorem quotedLength_eq_error_iff : quotedLength q t = .error fault ↔ Unclosed q t fault := by
  refine ⟨unclosed_of_quotedLength, fun h => ?_⟩
  cases h with
  | file enclosed =>
    have ended := enclosed.quotedLength_append []
    rwa [List.append_nil] at ended
  | line enclosed more =>
    have ended : quotedLength q (.scalar '\n' :: more) = .error (quoteFault q) := by
      rw [quotedLength.eq_def]
      exact if_pos rfl
    rw [enclosed.quotedLength_append, ended]
    rfl
  | backslash enclosed => exact enclosed.quotedLength_append [.scalar '\\']

end EnumText.Lexeme
