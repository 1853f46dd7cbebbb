import EnumText.Proofs.Outcome
import EnumText.SourceFile

/-!
# What the readers of declarations can do

For each reader that is a chain of steps, one lemma says when it succeeds and with what: the tokens
that it takes, and what it leaves.

* `expect_eq_ok_iff`, `expectWord_eq_ok_iff`: one token.
* `collect_nil_eq_ok_iff`, `collect_cons_eq_ok_iff`, `collect_append`: balanced runs.
* `typeSpec_eq_ok_iff`, `varSpec_eq_ok_iff`: the parts of a declaration.
* `ofListing?_eq_ok_iff`, `ofText?_eq_ok_iff`: whole files.
-/

namespace EnumText.Listing

open Declaration

/-! ## One token -/

theorem expect_eq_ok_iff {l : Listing} {kind : Token.Kind} {ts rest : List Token} {t : Token} :
    l.expect kind ts = .ok (t, rest) ↔ ts = t :: rest ∧ t.kind = kind := by
  unfold expect
  split
  · split
    · next u us same =>
      constructor
      · intro h
        cases h
        exact ⟨rfl, same⟩
      · intro h
        rcases h with ⟨h, -⟩
        cases h
        rfl
    · next u us other =>
      constructor
      · intro h
        cases h
      · intro h
        rcases h with ⟨h, same⟩
        cases h
        exact absurd same other
  · constructor
    · intro h
      cases h
    · intro h
      rcases h with ⟨h, -⟩
      cases h

theorem expectWord_eq_ok_iff {l : Listing} {word : String} {ts rest : List Token} {t : Token} :
    l.expectWord word ts = .ok (t, rest) ↔ ts = t :: rest ∧ t.isWord word = true := by
  unfold expectWord
  split
  · split
    · next u us same =>
      constructor
      · intro h
        cases h
        exact ⟨rfl, same⟩
      · intro h
        rcases h with ⟨h, -⟩
        cases h
        rfl
    · next u us other =>
      constructor
      · intro h
        cases h
      · intro h
        rcases h with ⟨h, same⟩
        cases h
        exact absurd same other
  · constructor
    · intro h
      cases h
    · intro h
      rcases h with ⟨h, -⟩
      cases h

theorem kind_of_isWord {t : Token} {word : String} (h : t.isWord word = true) :
    t.kind = .keyword := by
  simp only [Token.isWord, Bool.and_eq_true, beq_iff_eq] at h
  exact h.1

theorem not_isWord_of_isWord {t : Token} {word other : String} (isWord : t.isWord word = true)
    (apart : text word ≠ text other) : ¬ t.isWord other = true := by
  simp only [Token.isWord, Bool.and_eq_true, beq_iff_eq] at isWord ⊢
  exact fun both => apart (isWord.2.symm.trans both.2)

theorem skipSemicolons_of_kind {t : Token} (other : t.kind ≠ .semicolon) (ts : List Token) :
    skipSemicolons (t :: ts) = t :: ts :=
  List.dropWhile_cons_of_neg (by simpa using other)

theorem skipSemicolon_suffix (ts : List Token) : skipSemicolon ts <:+ ts := by
  cases ts with
  | nil => exact List.suffix_refl _
  | cons t rest =>
    rw [skipSemicolon]
    split
    · exact List.suffix_cons t rest
    · exact List.suffix_refl _

/-! ## Balanced runs -/

/-- The number of open brackets after a token. -/
def depthAfter (depth : Nat) (t : Token) : Nat :=
  if t.kind.isOpening then depth + 1 else if t.kind.isClosing then depth - 1 else depth

theorem collect_nil_eq_ok_iff {l : Listing} {stops : List Token.Kind} {depth : Nat}
    {taken : Taken (List Token)} :
    l.collect stops depth [] = .ok taken ↔ depth = 0 ∧ taken = ([], []) := by
  rw [collect]
  split
  · next zero => simp [zero, eq_comm]
  · next deep => simp [deep]

/-- A run ends before a stop or closing bracket outside of brackets, and goes on over any other
token. -/
theorem collect_cons_eq_ok_iff {l : Listing} {stops : List Token.Kind} {depth : Nat} {t : Token}
    {ts run rest : List Token} :
    l.collect stops depth (t :: ts) = .ok (run, rest) ↔
      if depth = 0 ∧ (stops.contains t.kind ∨ t.kind.isClosing) then run = [] ∧ rest = t :: ts
      else ∃ inner, l.collect stops (depthAfter depth t) ts = .ok (inner, rest) ∧
        run = t :: inner := by
  rw [collect]
  split
  · simp [eq_comm]
  · constructor
    · intro h
      rcases bind_eq_ok_iff.1 h with ⟨⟨inner, after⟩, below, same⟩
      cases same
      exact ⟨inner, below, rfl⟩
    · intro h
      rcases h with ⟨inner, below, rfl⟩
      exact bind_eq_ok_iff.2 ⟨_, below, rfl⟩

theorem collect_append {l : Listing} {stops : List Token.Kind} {depth : Nat}
    {ts run rest : List Token} (h : l.collect stops depth ts = .ok (run, rest)) :
    ts = run ++ rest := by
  induction ts generalizing depth run with
  | nil =>
    cases (collect_nil_eq_ok_iff.1 h).2
    rfl
  | cons t ts ih =>
    rw [collect_cons_eq_ok_iff] at h
    split at h
    · obtain ⟨rfl, rfl⟩ := h
      rfl
    · obtain ⟨inner, below, rfl⟩ := h
      rw [ih below]
      rfl

/-! ## Specifications -/

/-- The tokens of a declared type after the equals sign of an alias. -/
def afterAssign (ts : List Token) : List Token := if at? .assign ts then ts.drop 1 else ts

/-- The fields of a declared type, and the tokens after them. -/
def typeFields (l : Listing) (ts : List Token) : Except Fault (Taken (List Field)) :=
  if ts.head?.any (·.isWord "struct") then l.structFields ts else .ok ([], ts)

theorem typeSpec_eq (l : Listing) (doc : List Text) (ts : List Token) :
    l.typeSpec doc ts = (do
      let (name, after) ← l.expect .identifier ts
      let params ← l.skipTypeParameters after
      let (fields, tail) ← l.typeFields (afterAssign params)
      let (_, last) ← l.collect [.semicolon, .closing .round] 0 tail
      return (⟨⟨name.spelling, doc, fields⟩,
        (afterAssign params).head?.any (·.isWord "struct"), name.line⟩, skipSemicolon last)) := by
  unfold typeSpec typeFields
  congr 1
  funext taken
  obtain ⟨name, after⟩ := taken
  dsimp only
  congr 1
  funext params
  rw [← afterAssign]
  split <;> rfl

theorem typeSpec_eq_ok_iff {l : Listing} {doc : List Text} {ts rest : List Token}
    {type : TypeDecl} :
    l.typeSpec doc ts = .ok (type, rest) ↔
      ∃ name after params fields tail run last, ts = name :: after ∧ name.kind = .identifier ∧
        l.skipTypeParameters after = .ok params ∧
        l.typeFields (afterAssign params) = .ok (fields, tail) ∧
        l.collect [.semicolon, .closing .round] 0 tail = .ok (run, last) ∧
        type = ⟨⟨name.spelling, doc, fields⟩,
          (afterAssign params).head?.any (·.isWord "struct"), name.line⟩ ∧
        rest = skipSemicolon last := by
  rw [typeSpec_eq]
  constructor
  · intro h
    rcases bind_eq_ok_iff.1 h with ⟨⟨name, after⟩, named, body⟩
    rcases bind_eq_ok_iff.1 body with ⟨params, skipped, body₁⟩
    rcases bind_eq_ok_iff.1 body₁ with ⟨⟨fields, tail⟩, read, body₂⟩
    rcases bind_eq_ok_iff.1 body₂ with ⟨⟨run, last⟩, collected, same⟩
    cases same
    rcases expect_eq_ok_iff.1 named with ⟨first, kind⟩
    exact ⟨name, after, params, fields, tail, run, last, first, kind, skipped, read, collected, rfl,
      rfl⟩
  · rintro ⟨name, after, params, fields, tail, run, last, first, kind, skipped, read, collected,
      rfl, rfl⟩
    exact bind_eq_ok_iff.2 ⟨_, expect_eq_ok_iff.2 ⟨first, kind⟩, bind_eq_ok_iff.2 ⟨_, skipped,
      bind_eq_ok_iff.2 ⟨_, read, bind_eq_ok_iff.2 ⟨_, collected, rfl⟩⟩⟩⟩

theorem varSpec_eq_ok_iff {l : Listing} {ts rest : List Token} {binding : Binding} :
    l.varSpec ts = .ok (binding, rest) ↔
      ∃ name after names tail type assigned values last, ts = name :: after ∧
        name.kind = .identifier ∧ l.moreNames after = .ok (names, tail) ∧
        l.collect [.assign, .semicolon, .closing .round] 0 tail = .ok (type, assigned) ∧
        l.varValues assigned = .ok (values, last) ∧
        binding = ⟨name.spelling :: names, values⟩ ∧ rest = skipSemicolon last := by
  constructor
  · intro h
    rcases bind_eq_ok_iff.1 h with ⟨⟨name, after⟩, named, body⟩
    rcases bind_eq_ok_iff.1 body with ⟨⟨names, tail⟩, others, body₁⟩
    rcases bind_eq_ok_iff.1 body₁ with ⟨⟨type, assigned⟩, collected, body₂⟩
    rcases bind_eq_ok_iff.1 body₂ with ⟨⟨values, last⟩, read, same⟩
    cases same
    rcases expect_eq_ok_iff.1 named with ⟨first, kind⟩
    exact ⟨name, after, names, tail, type, assigned, values, last, first, kind, others, collected,
      read, rfl, rfl⟩
  · rintro ⟨name, after, names, tail, type, assigned, values, last, first, kind, others, collected,
      read, rfl, rfl⟩
    exact bind_eq_ok_iff.2 ⟨_, expect_eq_ok_iff.2 ⟨first, kind⟩, bind_eq_ok_iff.2 ⟨_, others,
      bind_eq_ok_iff.2 ⟨_, collected, bind_eq_ok_iff.2 ⟨_, read, rfl⟩⟩⟩⟩

/-! ## Whole files -/

theorem ofText?_eq_ok_iff {t : Text} {l : Listing} :
    ofText? t = .ok l ↔
      ∃ lexemes, Lexeme.split t = (lexemes, none) ∧ l = ⟨Layout.place .start none lexemes, t⟩ := by
  unfold ofText?
  cases split : Lexeme.split t with
  | mk lexemes fault => cases fault <;> simp [eq_comm]

end EnumText.Listing

namespace EnumText.SourceFile

open Declaration

theorem ofListing?_eq_ok_iff {l : Listing} {f : SourceFile} :
    ofListing? l = .ok f ↔
      ∃ word name rest types bindings, Listing.skipSemicolons l.tokens = word :: name :: rest ∧
        word.isWord "package" = true ∧ name.kind = .identifier ∧
        l.declarations rest.length rest = .ok (types, bindings) ∧
        f = ⟨name.spelling, types, bindings⟩ := by
  constructor
  · intro h
    rcases bind_eq_ok_iff.1 h with ⟨⟨word, after⟩, package, body⟩
    rcases bind_eq_ok_iff.1 body with ⟨⟨name, rest⟩, named, body₁⟩
    rcases bind_eq_ok_iff.1 body₁ with ⟨⟨types, bindings⟩, found, same⟩
    rcases Listing.expectWord_eq_ok_iff.1 package with ⟨first, isWord⟩
    rcases Listing.expect_eq_ok_iff.1 named with ⟨rfl, kind⟩
    cases same
    exact ⟨word, name, rest, types, bindings, first, isWord, kind, found, rfl⟩
  · intro h
    rcases h with ⟨word, name, rest, types, bindings, first, isWord, kind, found, rfl⟩
    exact bind_eq_ok_iff.2 ⟨_, Listing.expectWord_eq_ok_iff.2 ⟨first, isWord⟩, bind_eq_ok_iff.2
      ⟨_, Listing.expect_eq_ok_iff.2 ⟨rfl, kind⟩, bind_eq_ok_iff.2 ⟨_, found, rfl⟩⟩⟩

theorem ofText?_eq_ok_iff {file : Path} {t : Text} {f : SourceFile} :
    ofText? file t = .ok f ↔ ∃ l, Listing.ofText? t = .ok l ∧ ofListing? l = .ok f := by
  unfold ofText? Listing.ofFile?
  cases Listing.ofText? t with
  | error e => simp
  | ok l =>
    cases read : ofListing? l with
    | error e => simp [read]
    | ok g => simp [read]

end EnumText.SourceFile
