import EnumText.Proofs.Declaration.Balance
import EnumText.Proofs.Declaration.Relocation.Declarations
import EnumText.Proofs.Listing.Yielding

/-!
# Statements that are passed over

`Declares bindings` says what the tokens up to the end of a file declare, and `Skipping depth Q`
that `Q` holds of them from the end of a statement on, inside of which `depth` brackets are open. A
statement is passed over piece by piece, each of which takes the number of open brackets to another.

* `Declares.statement`: nothing is declared by a statement that is passed over.
* `Yields.skipChunk`, `Yields.skipWord`, `Yields.skipQuoted`, `Yields.skipNewline`: the pieces.
-/

namespace EnumText.Listing

open Declaration
open Lexeme (signs split Soft Apart)

variable {l : Listing} {bindings : List Binding} {t : Token} {ts : List Token}
variable {ends ends' : Bool} {d e : Nat} {a more : Text} {Q : Listing → List Token → Prop}

/-- Tokens up to the end of a file declare no types, and some variables. -/
def Declares (bindings : List Binding) (l : Listing) (ts : List Token) : Prop :=
  ∃ fuel ≤ ts.length, l.declarations fuel ts = .ok ([], bindings)

theorem Declares.declarations (h : Declares bindings l ts) :
    l.declarations ts.length ts = .ok ([], bindings) := by
  obtain ⟨fuel, enough, read⟩ := h
  exact declarations_mono enough read

theorem declares_iff : Declares bindings l ts ↔ ∃ n ≤ ts.length, l.Decls n ts [] bindings := by
  constructor
  · intro h
    exact declarations_eq_ok_iff.1 h.declarations
  · rintro ⟨n, enough, h⟩
    exact ⟨n, enough, h.declarations (Nat.le_refl n)⟩

theorem declares_nil (l : Listing) : Declares [] l [] := ⟨0, Nat.le_refl _, rfl⟩

/-- The tokens after the end of a statement, with brackets open before, satisfy `Q`. -/
def Skipping (depth : Nat) (Q : Listing → List Token → Prop) (l : Listing) (ts : List Token) :
    Prop :=
  ∃ rest, l.skipStatement depth ts = .ok rest ∧ Q l rest

/-- Passing over a statement takes at least one token. -/
theorem length_le_of_skipStatement {rest : List Token}
    (h : l.skipStatement d (t :: ts) = .ok rest) : rest.length ≤ ts.length := by
  rw [skipStatement] at h
  split at h
  · exact (skipStatement_suffix h).length_le
  split at h
  · split at h
    · cases h
    · exact (skipStatement_suffix h).length_le
  split at h
  · cases h
    exact Nat.le_refl _
  · exact (skipStatement_suffix h).length_le

/-- A statement that begins with another keyword than `type` and `var` declares nothing. -/
theorem Declares.statement {word : Text} (isKeyword : t.sign = (.keyword, word))
    (noType : word ≠ text "type") (noVar : word ≠ text "var")
    (h : Skipping 0 (Declares bindings) l (t :: ts)) : Declares bindings l (t :: ts) := by
  obtain ⟨rest, skipped, below⟩ := h
  obtain ⟨n, enough, below⟩ := declares_iff.1 below
  rcases Prod.mk.inj isKeyword with ⟨kind, spelling⟩
  have other (name : String) (ne : word ≠ text name) : ¬ t.isWord name = true := by
    intro isWord
    simp only [Token.isWord, Bool.and_eq_true, beq_iff_eq] at isWord
    exact ne (spelling.symm.trans isWord.2)
  have fewer := length_le_of_skipStatement skipped
  exact declares_iff.2 ⟨n + 1, by rw [List.length_cons]; omega, .statement (by rw [kind]; decide)
    (other _ noType) (other _ noVar) skipped below⟩

/-! ## Pieces of a statement -/

theorem map_kind_of_sign {found : List Token.Sign} (h : ts.map Token.sign = found) :
    ts.map (·.kind) = found.map Prod.fst := by
  rw [← h, List.map_map]
  rfl

theorem After.skip {found : List Token.Sign}
    (moves : openAfter [.semicolon] d (found.map Prod.fst) = some e)
    (h : After found (Skipping e Q) l ts) : Skipping d Q l ts := by
  obtain ⟨front, rest, rfl, found, last, skipped, below⟩ := h
  rw [← map_kind_of_sign found] at moves
  exact ⟨last, (skipStatement_openAfter l moves rest).trans skipped, below⟩

/-- A piece that is always the same takes one number of open brackets to another, inside of a
statement. -/
def Moves (ends : Bool) (d : Nat) (a : Text) (ends' : Bool) (e : Nat) : Prop :=
  ((chunk? ends a).bind fun found =>
    (openAfter [.semicolon] d (found.1.map Prod.fst)).map (found.2, ·)) = some (ends', e)

instance (ends : Bool) (d : Nat) (a : Text) (ends' : Bool) (e : Nat) :
    Decidable (Moves ends d a ends' e) := inferInstanceAs (Decidable (_ = some (ends', e)))

theorem Yields.skipChunk (moves : Moves ends d a ends' e) (soft : Soft a more)
    (h : Yields ends' more (Skipping e Q)) : Yields ends (a ++ more) (Skipping d Q) := by
  rcases Option.bind_eq_some_iff.1 moves with ⟨⟨found, state⟩, check, counted⟩
  rcases Option.map_eq_some_iff.1 counted with ⟨depth, counted, same⟩
  cases same
  exact (Yields.chunk check soft h).imp fun _ _ => After.skip counted

theorem Yields.skipWord {word : Text} (name : word.isName = true) (next : Apart more)
    (h : Yields true more (Skipping d Q)) : Yields ends (word ++ more) (Skipping d Q) := by
  refine (Yields.word name next h).imp fun _ _ => After.skip ?_
  exact openAfter_cons (.other rfl rfl (.inr (by simp)))

theorem Yields.skipQuoted {body : Text} (guarded : Literal.Guarded body)
    (h : Yields true more (Skipping d Q)) :
    Yields ends (.scalar '"' :: (body ++ [.scalar '"']) ++ more) (Skipping d Q) := by
  refine (Yields.quoted guarded h).imp fun _ _ => After.skip ?_
  exact openAfter_cons (.other rfl rfl (.inr (by simp)))

theorem Yields.skipNewline (inside : d ≠ 0) (h : Yields false more (Skipping d Q)) :
    Yields ends (text "\n" ++ more) (Skipping d Q) := by
  refine (Yields.newline h).imp fun _ _ => After.skip ?_
  cases ends with
  | false => rfl
  | true => exact openAfter_cons (.other rfl rfl (.inl inside))

/-- The closing bracket of a statement and the line break after it end the statement. -/
theorem Yields.skipEnd {bracket : Bracket} (closing : Chunk false a [(.closing bracket, a)] true)
    (h : Yields false more Q) : Yields false (a ++ (text "\n" ++ more)) (Skipping 1 Q) := by
  have line := Lexeme.apart_newline more
  apply (Yields.chunk closing line.soft (Yields.newline h)).imp
  intro l ts found
  obtain ⟨last, _, rfl, closes, -, found₁⟩ := found.one
  obtain ⟨semicolon, rest, rfl, ends, -, below⟩ := found₁.one
  refine ⟨rest, ?_, below⟩
  have one : openAfter [.semicolon] 1 ([last].map (·.kind)) = some 0 := by
    rw [List.map_singleton, closes]
    exact openAfter_cons (.closing rfl rfl)
  have passed := skipStatement_openAfter l one (semicolon :: rest)
  rw [List.singleton_append] at passed
  rw [passed, skipStatement, ends]
  rfl

/-- The beginning of a statement that is passed over. -/
theorem Yields.statement {word : Text} {found : List Token.Sign}
    (check : Chunk false a ((.keyword, word) :: found) ends') (soft : Soft a more)
    (noType : word ≠ text "type") (noVar : word ≠ text "var")
    (moves : openAfter [.semicolon] 0 (found.map Prod.fst) = some e)
    (h : Yields ends' more (Skipping e (Declares bindings))) :
    Yields false (a ++ more) (Declares bindings) := by
  apply (Yields.chunk check soft h).imp
  intro l ts after
  obtain ⟨front, rest, rfl, found, below⟩ := after
  rcases List.map_eq_cons_iff.1 found with ⟨t, front, rfl, sign, found⟩
  refine Declares.statement sign noType noVar (After.skip ?_ ⟨t :: front, rest, rfl, rfl, below⟩)
  rw [List.map_cons, List.map_cons, sign, found]
  exact (openAfter_cons (.other rfl rfl (.inr (by simp)))).trans moves

end EnumText.Listing
