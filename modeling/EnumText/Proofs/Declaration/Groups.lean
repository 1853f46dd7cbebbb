import EnumText.Proofs.Declaration.Statements
import EnumText.Proofs.Declaration.WrittenLiterals

/-!
# Groups of variables as they are written

Variables on lines of their own, whose values are literals with expressions after keys, are read
back from a group: each of the names, keys and expressions is found again.

* `Yields.literal`: a literal whose elements have keys.
* `Yields.variableLine`: a variable on a line of its own.
* `Yields.groupOpening`, `Yields.groupClosing`: the brackets around the lines.
-/

namespace EnumText

open Declaration
open Lexeme (Apart)

namespace Listing

variable {ends : Bool} {more : Text} {Q : Listing → List Token → Prop}

/-! ## Literals -/

/-- Elements with keys as they are written. -/
def elementsText (pairs : List (Text × Text)) : Text :=
  List.intercalate (text ", ") (pairs.map fun p => p.1 ++ text ": " ++ p.2)

/-- Elements with keys. -/
def elementsOf (pairs : List (Text × Text)) : List Composite.Element :=
  pairs.map fun p => ⟨some p.1, p.2⟩

/-- A literal of a plain type name as it is written. -/
def literalText (typeName : Text) (pairs : List (Text × Text)) : Text :=
  typeName ++ text "\x7b" ++ elementsText pairs ++ text "\x7d"

theorem literalText_eq (typeName : Text) (pairs : List (Text × Text)) :
    literalText typeName pairs = Composite.written ⟨typeName, elementsOf pairs⟩ := by
  rw [literalText, elementsText, Composite.written, elementsOf, List.map_map]
  rfl

theorem Yields.literal {typeName : Text} {pairs : List (Text × Text)}
    (name : typeName.isName = true) (each : ∀ p ∈ pairs, p.1.isName = true ∧ p.2.IsExpression)
    (next : Apart more) (h : Yields true more Q) :
    Yields ends (literalText typeName pairs ++ more) fun l ts =>
      ∃ value rest, ts = value ++ rest ∧ IsComposite l value ⟨typeName, elementsOf pairs⟩ ∧
        Q l rest := by
  have readable : Composite.IsReadable ⟨typeName, elementsOf pairs⟩ := by
    refine ⟨name, List.forall_mem_map.2 fun p mem => ?_⟩
    obtain ⟨isName, expression⟩ := each p mem
    refine ⟨fun key given => ?_, expression, nofun⟩
    cases given
    exact isName
  rw [literalText_eq]
  exact Yields.composite readable next h

/-! ## Variables -/

theorem Yields.spaces (n : Nat) (h : Yields ends more Q) :
    Yields ends (Text.spaces n ++ more) Q := by
  refine Yields.blanks (fun c mem => ?_) h
  rw [List.eq_of_mem_replicate mem]
  rfl

/-- A variable on a line of its own, with its name padded to a width. -/
def variableLine (width : Nat) (name typeName : Text) (pairs : List (Text × Text)) : Text :=
  text "\t" ++ name.padRight width ++ text " = " ++ literalText typeName pairs

theorem Yields.variableLine {width : Nat} {name typeName : Text} {pairs : List (Text × Text)}
    {bindings : List Binding} (isName : name.isName = true) (isType : typeName.isName = true)
    (each : ∀ p ∈ pairs, p.1.isName = true ∧ p.2.IsExpression)
    (h : Yields false more (Grouping bindings Q)) :
    Yields false (Listing.variableLine width name typeName pairs ++ (text "\n" ++ more))
      (Grouping (⟨[name], [some ⟨typeName, elementsOf pairs⟩]⟩ :: bindings) Q) := by
  have tab : Chunk false (text "\t") [] false := by decide
  have assign : Chunk true (text " = ") [(.assign, text "=")] false := by decide
  have line := Lexeme.apart_newline more
  have padding (n : Nat) (more : Text) : Apart (Text.spaces n ++ (text " = " ++ more)) := by
    cases n with
    | zero => exact Lexeme.apart_append (by decide) more
    | succ n =>
      have blank : Apart [.scalar ' '] := by decide
      exact Lexeme.apart_append ⟨List.cons_ne_nil _ _, blank⟩
        (Text.spaces n ++ (text " = " ++ more))
  have assigned := Yields.chunk assign (.inl ⟨.scalar ' ', rfl, rfl⟩) <|
    Yields.literal isType each line (Yields.newline h)
  have whole : Listing.variableLine width name typeName pairs ++ (text "\n" ++ more) =
      text "\t" ++ (name ++ (Text.spaces (width - name.length) ++ (text " = " ++
        (literalText typeName pairs ++ (text "\n" ++ more))))) := by
    simp only [Listing.variableLine, Text.padRight, List.append_assoc]
  rw [whole]
  refine (Yields.chunk tab (.inl ⟨.scalar '\t', rfl, rfl⟩) <|
    Yields.word isName (padding _ _) (Yields.spaces _ assigned)).imp fun l ts found => ?_
  rcases (after_nil found).one with ⟨first, _, rfl, isFirst, rfl, found₁⟩
  obtain ⟨assign, _, rfl, isAssign, -, value, _, rfl, literal, found₂⟩ := found₁.one
  obtain ⟨semicolon, rest, rfl, isEnd, -, below⟩ := found₂.one
  have read (more : List Token) : l.varSpec (first :: (assign :: (value ++ [semicolon]) ++ more)) =
      .ok (⟨[first.spelling], [some ⟨typeName, elementsOf pairs⟩]⟩, more) := by
    rw [List.cons_append, List.append_assoc]
    exact varSpec_of_isComposite isFirst isAssign literal isEnd more
  have spec := below.spec isFirst read
  rw [List.cons_append, List.append_assoc] at spec
  exact spec

/-! ## Groups -/

/-- A group of variables is declared before what comes after it. -/
theorem Declares.group {l : Listing} {word opening : Token} {ts : List Token}
    {bindings more : List Binding} (isWord : word.sign = (.keyword, text "var"))
    (opens : opening.kind = .opening .round) (h : Grouping bindings (Declares more) l ts) :
    Declares (bindings ++ more) l (word :: opening :: ts) := by
  obtain ⟨rest, shorter, group, below⟩ := h
  obtain ⟨n, enough, below⟩ := declares_iff.1 below
  rcases Prod.mk.inj isWord with ⟨kind, spelling⟩
  have isVar : word.isWord "var" = true := by simp [Token.isWord, kind, spelling]
  obtain ⟨fits, found⟩ := varGroup_eq_ok_iff.1 (group _ (Nat.lt_succ_self _))
  have decl := varDecl_eq_ok_iff.2 (.group isVar opens (Nat.le_of_lt fits) found)
  exact declares_iff.2 ⟨n + 1, by simp only [List.length_cons]; omega, .vars isVar decl below⟩

theorem Declares.semicolon {l : Listing} {t : Token} {ts : List Token} {bindings : List Binding}
    (isSemicolon : t.kind = .semicolon) (h : Declares bindings l ts) :
    Declares bindings l (t :: ts) := by
  obtain ⟨n, enough, below⟩ := declares_iff.1 h
  exact declares_iff.2 ⟨n + 1, Nat.succ_le_succ enough, .semicolon isSemicolon below⟩

theorem Yields.groupOpening {bindings later : List Binding}
    (h : Yields false more (Grouping bindings (Declares later))) :
    Yields false (text "var (" ++ (text "\n" ++ more)) (Declares (bindings ++ later)) := by
  have opening : Chunk false (text "var (") [(.keyword, text "var"), (.opening .round, text "(")]
      false := by decide
  have line := Lexeme.apart_newline more
  apply (Yields.chunk opening line.soft (Yields.blankLine h)).imp
  intro l ts found
  obtain ⟨front, rest, rfl, signs, below⟩ := found
  rcases List.map_eq_cons_iff.1 signs with ⟨word, _, rfl, isWord, others⟩
  rcases List.map_eq_singleton_iff.1 others with ⟨bracket, rfl, sign⟩
  exact Declares.group isWord (Prod.mk.inj sign).1 below

theorem Yields.groupClosing {bindings : List Binding} (h : Yields false more (Declares bindings)) :
    Yields false (text ")" ++ (text "\n" ++ more)) (Grouping [] (Declares bindings)) := by
  have closing : Chunk false (text ")") [(.closing .round, text ")")] true := by decide
  have line := Lexeme.apart_newline more
  apply (Yields.chunk closing line.soft (Yields.newline h)).imp
  intro l ts found
  obtain ⟨bracket, _, rfl, closes, -, found₁⟩ := found.one
  obtain ⟨semicolon, rest, rfl, ends, -, below⟩ := found₁.one
  exact Grouping.close closes (below.semicolon ends)

end Listing

end EnumText
