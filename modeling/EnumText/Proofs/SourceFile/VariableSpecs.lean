import EnumText.Proofs.Declaration.Relocation.Declarations
import EnumText.Proofs.Declaration.WrittenLiterals
import EnumText.Proofs.SourceFile.PackageClause

/-!
# Variables with their values, written and read

A declaration of variables on one line is read back as it is written: the names, and for each
expression on the right-hand side the composite literal that it is, or that it is none.

* `writes_expression`: an expression is one value, and known by its first tokens.
* `varSpec_of_written`: the tokens of a declaration.
* `SourceFile.ofText?_variables`: a file with such a declaration.
-/

namespace EnumText

open Lexeme (Apart)

/-- The right-hand side of a variable: a composite literal, or the text of any other expression. -/
inductive Expression where
  | literal (c : Composite)
  | other (v : Text)
deriving DecidableEq, Inhabited

namespace Expression

/-- An expression as it is written. -/
def written : Expression → Text
  | literal c => c.written
  | other v => v

/-- The composite literal that an expression is. -/
def composite? : Expression → Option Composite
  | literal c => some c
  | other _ => none

/-- An expression that is read as it is written. One that is no literal must not begin like one. -/
inductive IsReadable : Expression → Prop
  | literal {c : Composite} (readable : c.IsReadable) : IsReadable (literal c)
  | other {v : Text} (expression : v.IsExpression)
    (apart : ¬ v.StartsAs [.identifier, .opening .curly]) : IsReadable (other v)

instance : (x : Expression) → Decidable x.IsReadable
  | literal c => decidable_of_iff c.IsReadable ⟨.literal, fun | .literal h => h⟩
  | other v => decidable_of_iff (v.IsExpression ∧ ¬ v.StartsAs [.identifier, .opening .curly])
    ⟨fun h => .other h.1 h.2, fun | .other h apart => ⟨h, apart⟩⟩

end Expression

/-- Variables that are declared with their values. -/
structure VariableSpec where
  names : List Text
  values : List Expression
deriving DecidableEq, Inhabited

namespace VariableSpec

/-- The declaration as it is written, on one line. -/
def written (s : VariableSpec) : Text :=
  text "var " ++ List.intercalate (text ", ") s.names ++ text " = " ++
    List.intercalate (text ", ") (s.values.map Expression.written)

/-- What a file declares by it. -/
def binding (s : VariableSpec) : Binding := ⟨s.names, s.values.map Expression.composite?⟩

/-- A declaration that is read as it is written. -/
structure IsReadable (s : VariableSpec) : Prop where
  some : s.names ≠ []
  names : ∀ name ∈ s.names, name.isName = true
  values : ∀ x ∈ s.values, x.IsReadable

instance (s : VariableSpec) : Decidable s.IsReadable :=
  decidable_of_iff (s.names ≠ [] ∧ (∀ name ∈ s.names, name.isName = true) ∧
    ∀ x ∈ s.values, x.IsReadable)
    ⟨fun h => ⟨h.1, h.2.1, h.2.2⟩, fun h => ⟨h.some, h.names, h.values⟩⟩

end VariableSpec

namespace Listing

open Declaration

variable {l : Listing} {ends : Bool} {more : Text} {ts rest : List Token}

/-! ## Values -/

/-- Tokens that are an expression between commas. -/
structure IsExpressionOf (l : Listing) (run : List Token) (x : Expression) : Prop where
  value : IsValue run
  read : l.composite? run = x.composite?

/-- Tokens that do not begin with a name and a curly bracket are no literal. -/
theorem composite?_eq_none
    (apart : ¬ [.identifier, .opening .curly] <+: ts.map (·.kind)) : l.composite? ts = none := by
  unfold composite?
  split
  · next name brace rest =>
    rw [if_neg]
    rintro ⟨isName, opens, -⟩
    exact apart ⟨rest.map (·.kind), by simp [isName, opens]⟩
  · rfl

theorem writes_expression {x : Expression} (readable : x.IsReadable) :
    Writes x.written fun l run => IsExpressionOf l run x := by
  intro ends more Q next h
  cases readable with
  | literal readable =>
    apply (Yields.composite readable next (h true)).imp
    intro l ts found
    obtain ⟨value, rest, same, composite, below⟩ := found
    have apart : openAfter [.comma, .semicolon] 0 (value.map (·.kind)) = some 0 :=
      composite.apart (by simp) (by simp)
    refine ⟨value, rest, same, ⟨⟨?_, apart⟩, composite.read⟩, below⟩
    obtain ⟨⟩ := composite
    exact List.cons_ne_nil _ _
  | other expression noLiteral =>
    apply (Yields.value expression next h).imp
    intro l ts found
    obtain ⟨value, rest, same, some, apart, starts, -, below⟩ := found
    have read : l.composite? value = none := composite?_eq_none fun front =>
      noLiteral (starts _ front)
    exact ⟨value, rest, same, ⟨⟨some, apart⟩, read⟩, below⟩

theorem Separated.exists_values {xs : List Expression}
    (h : Separated (IsExpressionOf l) xs ts) :
    ∃ runs, Listed runs ts ∧ (∀ run ∈ runs, IsValue run) ∧
      runs.map l.composite? = xs.map Expression.composite? := by
  induction h with
  | nil => exact ⟨[], .nil, List.forall_mem_nil _, rfl⟩
  | @last run x item =>
    refine ⟨[run], .last run, List.forall_mem_singleton.2 item.value, ?_⟩
    rw [List.map_singleton, List.map_singleton, item.read]
  | @cons run ts x y xs comma item isComma _ ih =>
    obtain ⟨runs, listed, each, read⟩ := ih
    refine ⟨run :: runs, .cons run isComma listed, List.forall_mem_cons.2 ⟨item.value, each⟩, ?_⟩
    rw [List.map_cons, List.map_cons, item.read, read]

/-! ## Declarations -/

/-- Tokens of a declaration of variables, with semicolons at most after it. -/
inductive IsVariableSpec (s : VariableSpec) (l : Listing) : List Token → Prop
  | mk {word assign : Token} {ns vs rest : List Token} (isVar : word.isWord "var" = true)
    (names : NameList s.names ns) (isAssign : assign.kind = .assign)
    (values : Separated (IsExpressionOf l) s.values vs)
    (ended : ∀ t ∈ rest, t.kind = .semicolon) :
    IsVariableSpec s l (word :: (ns ++ assign :: (vs ++ rest)))

theorem IsVariableSpec.append {s : VariableSpec} (h : IsVariableSpec s l ts)
    (ended : ∀ t ∈ rest, t.kind = .semicolon) : IsVariableSpec s l (ts ++ rest) := by
  obtain ⟨isVar, names, isAssign, values, ended'⟩ := h
  have all := List.forall_mem_append.2 ⟨ended', ended⟩
  have whole := IsVariableSpec.mk isVar names isAssign values all
  simpa using whole

theorem decls_of_semicolons (all : ∀ t ∈ ts, t.kind = .semicolon) :
    l.Decls ts.length ts [] [] := by
  induction ts with
  | nil => exact .nil
  | cons t ts ih =>
    obtain ⟨first, others⟩ := List.forall_mem_cons.1 all
    exact .semicolon first (ih others)

/-- Names and values with an equals sign between them are read as they are. -/
theorem varSpec_of_written {s : VariableSpec} {assign : Token} {ns vs : List Token}
    (names : NameList s.names ns) (isAssign : assign.kind = .assign)
    (values : Separated (IsExpressionOf l) s.values vs) (ended : ∀ t ∈ rest, t.kind = .semicolon) :
    l.varSpec (ns ++ assign :: (vs ++ rest)) = .ok (s.binding, skipSemicolon rest) := by
  obtain ⟨runs, listed, each, read⟩ := values.exists_values
  have stop : ∀ t ∈ rest.head?, t.kind = .semicolon ∨ t.kind = .closing .round := fun t mem =>
    .inl (ended t (List.mem_of_head? mem))
  have assigned := varValues_of_listed (l := l) isAssign listed each stop
  rw [read] at assigned
  have noComma : ∀ t ∈ (assign :: (vs ++ rest)).head?, t.kind ≠ .comma := by simp [isAssign]
  obtain ⟨first, tail, others, rfl, all, isName, more⟩ := names.exists_moreNames (l := l) noComma
  have noType : l.collect [.assign, .semicolon, .closing .round] 0 (assign :: (vs ++ rest)) =
      .ok ([], assign :: (vs ++ rest)) := by
    rw [collect_cons_eq_ok_iff, if_pos ⟨rfl, .inl (by simp [isAssign])⟩]
    exact ⟨rfl, rfl⟩
  refine varSpec_eq_ok_iff.2 ⟨first, _, others, _, [], _, _, rest, rfl, isName, more, noType,
    assigned, ?_, rfl⟩
  rw [VariableSpec.binding, all]

/-- The tokens of a declaration declare its names with its values. -/
theorem IsVariableSpec.declarations {s : VariableSpec} (h : IsVariableSpec s l ts) :
    l.declarations ts.length ts = .ok ([], [s.binding]) := by
  obtain @⟨word, assign, ns, vs, rest, isVar, names, isAssign, values, ended⟩ := h
  have spec := varSpec_of_written names isAssign values ended
  have noComma : ∀ t ∈ [assign].head?, t.kind ≠ .comma := by simp [isAssign]
  obtain ⟨first, tail, -, rfl, -, isName, -⟩ := names.exists_moreNames (l := l) noComma
  have alone : ¬ at? (.opening .round) (first :: tail ++ assign :: (vs ++ rest)) = true := by
    simp [at?, isName]
  have decl := varDecl_eq_ok_iff.2 (.single isVar alone spec)
  have suffix := skipSemicolon_suffix rest
  have below := decls_of_semicolons (l := l) fun t mem => ended t (suffix.subset mem)
  have fewer := suffix.length_le
  exact declarations_eq_ok_iff.2 ⟨_, by simp; omega, .vars isVar decl below⟩

/-- A line break implies a semicolon at most. -/
theorem yields_lineEnd (ends : Bool) :
    Yields ends (text "\n") fun _ ts => ∀ t ∈ ts, t.kind = .semicolon := by
  have below : Yields false [] fun _ ts => ts = [] := yields_nil fun _ => rfl
  have line : Yields ends (text "\n" ++ []) _ := Yields.newline below
  apply line.imp
  intro l ts found t mem
  obtain ⟨front, rest, rfl, signs, rfl⟩ := found
  rw [List.append_nil] at mem
  have sign := List.mem_map_of_mem (f := Token.sign) mem
  rw [signs] at sign
  cases ends with
  | false => cases sign
  | true => exact congrArg Prod.fst (List.mem_singleton.1 sign)

theorem Yields.variableSpec {s : VariableSpec} (readable : s.IsReadable) (next : Apart more)
    (h : ∀ ends, Yields ends more fun _ ts => ∀ t ∈ ts, t.kind = .semicolon) :
    Yields false (s.written ++ more) (IsVariableSpec s) := by
  have keyword : Chunk false (text "var ") [(.keyword, text "var")] false := by decide +kernel
  have assign (ends : Bool) : Chunk ends (text " = ") [(.assign, text "=")] false := by
    cases ends <;> decide +kernel
  have start : Apart (text " = " ++ (List.intercalate (text ", ")
      (s.values.map Expression.written) ++ more)) := Lexeme.apart_append (by decide +kernel) _
  have values := writes_separated (fun x mem => writes_expression (readable.values x mem)) false
    more _ next h
  have names := writes_names readable.names false _ _ start fun ends =>
    Yields.chunk (assign ends) (.inl ⟨.scalar ' ', rfl, rfl⟩) values
  have whole : s.written ++ more = text "var " ++
      (List.intercalate (text ", ") s.names ++ (text " = " ++
        (List.intercalate (text ", ") (s.values.map Expression.written) ++ more))) := by
    simp only [VariableSpec.written, List.append_assoc]
  rw [whole]
  apply (Yields.chunk keyword (.inl ⟨.scalar ' ', rfl, rfl⟩) names).imp
  intro l ts found
  obtain ⟨word, _, rfl, isKeyword, spelling, ns, _, rfl, separated, found₁⟩ := found.one
  obtain ⟨assign, _, rfl, isAssign, -, vs, rest, rfl, values, ended⟩ := found₁.one
  have isVar : word.isWord "var" = true := by simp [Token.isWord, isKeyword, spelling]
  exact .mk isVar (separated.nameList readable.some) isAssign values ended

end Listing

namespace SourceFile

/-- A file of a package clause and a declaration of variables on one line, with or without a line
break at its end: it declares variables of exactly these names, with one value for each expression,
in order. A literal has exactly these keys and values, and another expression has no value. -/
theorem ofText?_variables {p : Text} (name : p.isName = true) {s : VariableSpec}
    (readable : s.IsReadable) {ending : Text} (ends : ending = [] ∨ ending = text "\n")
    (file : Path) :
    ofText? file (packageClause p ++ s.written ++ ending) = .ok ⟨p, [], [s.binding]⟩ := by
  obtain ⟨identifier, kind⟩ := Text.isName_iff.1 name
  have next : Apart ending := by
    rcases ends with rfl | rfl
    · exact fun _ none => nomatch none
    · decide +kernel
  have ended (state : Bool) :
      Listing.Yields state ending fun _ ts => ∀ t ∈ ts, t.kind = .semicolon := by
    rcases ends with rfl | rfl
    · exact Listing.yields_nil fun _ => List.forall_mem_nil _
    · exact Listing.yields_lineEnd state
  obtain ⟨lexemes, cut, all⟩ := Listing.Yields.variableSpec readable next ended
  have listed := (Listing.ofText?_packageClause identifier).2 ⟨lexemes, cut, rfl⟩
  have found := all (Listing.belowClause p (s.written ++ ending) lexemes) (packageClause p) none rfl
    rfl
  rw [List.append_assoc]
  refine ofText?_eq_ok_iff.2 ⟨_, listed, (ofListing?_clauseTokens rfl).2 ⟨kind, [], [s.binding], ?_,
    rfl⟩⟩
  rw [Layout.place_eq_run]
  refine (found.append fun t mem => ?_).declarations
  rw [Layout.eq_of_mem_impliedSemicolon mem]
  rfl

/-- Variables with literals, of which one has a literal as an element, and with other expressions,
which have commas, semicolons and brackets inside. -/
def hands : VariableSpec where
  names := [text "Ace", text "Pair", text "None", text "Dealt", text "Top"]
  values := [
    .literal ⟨text "Card", [⟨some (text "Name"), text "\"Ace, \x7b1: 2\x7d\""⟩,
      ⟨some (text "Less"), text "func(a, b int) bool \x7b c := a; return c < b \x7d"⟩]⟩,
    .literal ⟨text "Hand", [⟨none, text "Card\x7bName: \"K\", Less: nil\x7d"⟩,
      ⟨none, text "[]int\x7b1, 2\x7d"⟩]⟩,
    .literal ⟨text "Hand", []⟩,
    .other (text "cards.Deal(Hand\x7b\x7d, func() \x7b shuffle(); wait() \x7d)"),
    .other (text "&Card\x7bName: \"Q\"\x7d")]

theorem ofText?_variables_hands :
    Text.isName (text "cards") = true ∧ hands.IsReadable ∧
      ofText? .here (packageClause (text "cards") ++ hands.written ++ text "\n") =
        .ok ⟨text "cards", [], [⟨hands.names, [
          some ⟨text "Card", [⟨some (text "Name"), text "\"Ace, \x7b1: 2\x7d\""⟩,
            ⟨some (text "Less"), text "func(a, b int) bool \x7b c := a; return c < b \x7d"⟩]⟩,
          some ⟨text "Hand", [⟨none, text "Card\x7bName: \"K\", Less: nil\x7d"⟩,
            ⟨none, text "[]int\x7b1, 2\x7d"⟩]⟩,
          some ⟨text "Hand", []⟩, none, none]⟩]⟩ := by
  have name : Text.isName (text "cards") = true := by decide +kernel
  have readable : hands.IsReadable := by decide +kernel
  exact ⟨name, readable, ofText?_variables name readable (.inr rfl) .here⟩

end SourceFile

end EnumText
