import EnumText.Proofs.Declaration.Literals
import EnumText.Proofs.Declaration.Slots

/-!
# Variables with positional literals

`PositionalLiteral` says that tokens are a composite literal whose elements have no keys, and
`LiteralSpec` that they declare variables, one of them with such a literal as its value. The
elements are the tokens between the commas, and nothing else is read of them.

* `Listed`, `IsValue`, `IsPositional`: values between commas.
* `PositionalLiteral.isComposite`: the elements of a literal are read as they stand.
* `LiteralSpec.exists_index`: the variable has the literal.
-/

namespace EnumText.Listing

open Declaration

variable {l : Listing} {t : Token} {ts rest more run : List Token} {runs : List (List Token)}

/-! ## Values between commas -/

/-- Runs of tokens with commas between them, and perhaps one after the last. -/
inductive Listed : List (List Token) → List Token → Prop
  | nil : Listed [] []
  | last (run : List Token) : Listed [run] run
  | cons (run : List Token) {comma : Token} {runs : List (List Token)} {ts : List Token}
    (isComma : comma.kind = .comma) (others : Listed runs ts) :
    Listed (run :: runs) (run ++ comma :: ts)

/-- Tokens that hang together between commas. -/
structure IsValue (ts : List Token) : Prop where
  ne_nil : ts ≠ []
  apart : openAfter [.comma, .semicolon] 0 (ts.map (·.kind)) = some 0

/-- A value without a key before it. -/
structure IsPositional (ts : List Token) : Prop extends IsValue ts where
  unkeyed (key colon : Token) (rest : List Token) : ts = key :: colon :: rest →
    ¬ (key.kind = .identifier ∧ colon.kind = .colon)

theorem Listed.splitOutside (listed : Listed runs ts) (each : ∀ run ∈ runs, IsValue run) :
    splitOutside .comma ts = runs := by
  induction listed with
  | nil => rfl
  | last run =>
    have value := each run (List.mem_singleton.2 rfl)
    exact splitOutside_of_apart value.ne_nil value.apart (by simp)
  | cons run isComma _ ih =>
    obtain ⟨value, others⟩ := List.forall_mem_cons.1 each
    rw [splitOutside_cons value.ne_nil value.apart (by simp) isComma, ih others]

theorem Listed.apart (listed : Listed runs ts) (each : ∀ run ∈ runs, IsValue run) :
    openAfter [.semicolon] 0 (ts.map (·.kind)) = some 0 := by
  have cover : Covers [.comma, .semicolon] [.semicolon] 0 := .inr (by simp)
  induction listed with
  | nil => rfl
  | last run => exact openAfter_cover (each run (List.mem_singleton.2 rfl)).apart cover
  | cons run isComma _ ih =>
    obtain ⟨value, others⟩ := List.forall_mem_cons.1 each
    have first := openAfter_cover value.apart cover
    rw [List.map_append, openAfter_append first, List.map_cons, isComma]
    exact ih others

/-- A value without a key is an element of a literal as it stands. -/
theorem IsPositional.isElement (h : IsPositional run) : IsElement l run ⟨none, l.textOf run⟩ where
  ne_nil := h.ne_nil
  apart := h.apart
  read := by
    have whole := textOf_filter (l := l) h.apart (by simp)
    obtain ⟨a, tail, rfl⟩ := List.exists_cons_of_ne_nil h.ne_nil
    have keep : a.kind ≠ .semicolon := kind_ne_semicolon h.apart (by simp) (.inl rfl)
    rw [List.filter_cons_of_pos (by simpa using keep)] at whole
    rw [element?, List.filter_cons_of_pos (by simpa using keep)]
    split
    · next same => cases same
    · next key colon first rest same =>
      obtain ⟨rfl, below⟩ := List.cons.inj same
      rw [if_neg, ← same, whole]
      -- after a name at the beginning, no semicolon comes before the first token of those kept
      rintro ⟨isName, isColon⟩
      have apart := h.apart
      rw [List.map_cons, isName, openAfter_cons (.other rfl rfl (.inr (by simp)))] at apart
      cases tail with
      | nil => cases below
      | cons b tail =>
        have keep : b.kind ≠ .semicolon := kind_ne_semicolon apart (by simp) (.inl rfl)
        rw [List.filter_cons_of_pos (by simpa using keep)] at below
        obtain ⟨rfl, -⟩ := List.cons.inj below
        exact h.unkeyed _ _ _ rfl ⟨isName, isColon⟩
    · rw [whole]

/-! ## Literals -/

/-- A composite literal of a plain type name, with the tokens of its elements. They have no
keys. -/
inductive PositionalLiteral : Text → List (List Token) → List Token → Prop
  | mk {name opening closing : Token} {runs : List (List Token)} {inner : List Token}
    (isName : name.kind = .identifier) (opens : opening.kind = .opening .curly)
    (listed : Listed runs inner) (each : ∀ run ∈ runs, IsPositional run)
    (closes : closing.kind = .closing .curly) :
    PositionalLiteral name.spelling runs (name :: opening :: (inner ++ [closing]))

theorem Listed.elements (listed : Listed runs ts) (each : ∀ run ∈ runs, IsPositional run) :
    Elements l ts (runs.map fun run => ⟨none, l.textOf run⟩) := by
  induction listed with
  | nil => exact .nil
  | last run => exact .last (each run (List.mem_singleton.2 rfl)).isElement
  | cons run isComma _ ih =>
    obtain ⟨first, others⟩ := List.forall_mem_cons.1 each
    exact .cons first.isElement isComma (ih others)

/-- The composite literal of a type whose elements are the texts of tokens. -/
def positional (l : Listing) (typeName : Text) (runs : List (List Token)) : Composite :=
  ⟨typeName, runs.map fun run => ⟨none, l.textOf run⟩⟩

/-- The elements of a literal without keys are read in order, each as it stands. -/
theorem PositionalLiteral.isComposite {name : Text} (h : PositionalLiteral name runs ts) :
    IsComposite l ts (l.positional name runs) := by
  obtain ⟨isName, opens, listed, each, closes⟩ := h
  exact .mk isName opens (listed.elements each) closes

/-! ## Variables -/

/-- Variables that are declared with their values, of which one is a literal without keys. -/
inductive LiteralSpec (name typeName : Text) (runs : List (List Token)) : List Token → Prop
  | mk {names : List Text} {ns type vs literal rest : List Token} {assign : Token}
    {values : List (List Token)} {i : Nat} (list : NameList names ns)
    (apart : openAfter [.assign, .semicolon] 0 (type.map (·.kind)) = some 0)
    (first : ∀ t ∈ type.head?, t.kind ≠ .comma) (isAssign : assign.kind = .assign)
    (listed : Listed values vs) (each : ∀ run ∈ values, IsValue run)
    (ends : ∀ t ∈ rest.head?, t.kind = .semicolon ∨ t.kind = .closing .round)
    (named : names[i]? = some name) (valued : values[i]? = some literal)
    (isLiteral : PositionalLiteral typeName runs literal) :
    LiteralSpec name typeName runs (ns ++ (type ++ assign :: (vs ++ rest)))

variable {names : List Text} {ns : List Token} {name typeName : Text} {binding : Binding}

theorem NameList.exists_moreNames (list : NameList names ns)
    (other : ∀ t ∈ more.head?, t.kind ≠ .comma) :
    ∃ t tail others, ns = t :: tail ∧ names = t.spelling :: others ∧ t.kind = .identifier ∧
      l.moreNames (tail ++ more) = .ok (others, more) := by
  induction list with
  | @last t isName => exact ⟨t, [], [], rfl, rfl, isName, moreNames_of_head? other⟩
  | @cons t comma names ts isName isComma _ ih =>
    obtain ⟨u, tail, others, rfl, rfl, isName', read⟩ := ih
    refine ⟨t, comma :: u :: tail, u.spelling :: others, rfl, rfl, isName, ?_⟩
    rw [List.cons_append, List.cons_append, moreNames, if_pos isComma, if_pos isName', read]
    rfl

theorem LiteralSpec.exists_cons (h : LiteralSpec name typeName runs ts) :
    ∃ t rest, ts = t :: rest ∧ t.kind = .identifier := by
  obtain ⟨list⟩ := h
  cases list with
  | last isName => exact ⟨_, _, rfl, isName⟩
  | cons isName => exact ⟨_, _, rfl, isName⟩

theorem varValues_of_listed {assign : Token} {vs : List Token} {values : List (List Token)}
    (isAssign : assign.kind = .assign) (listed : Listed values vs)
    (each : ∀ run ∈ values, IsValue run)
    (ends : ∀ t ∈ rest.head?, t.kind = .semicolon ∨ t.kind = .closing .round) :
    l.varValues (assign :: (vs ++ rest)) = .ok (values.map l.composite?, rest) := by
  have apart : openAfter [.semicolon, .closing .round] 0 (vs.map (·.kind)) = some 0 :=
    openAfter_closing (listed.apart each) .round
  have taken := collect_of_apart l apart rest (by simpa using ends)
  rw [varValues, if_pos (by simp [at?, isAssign])]
  refine bind_eq_ok_iff.2 ⟨_, taken, ?_⟩
  dsimp only
  rw [listed.splitOutside each]
  rfl

/-- A variable is read with the literal that stands at its place among the values. -/
theorem LiteralSpec.exists_index (h : LiteralSpec name typeName runs ts)
    (read : l.varSpec ts = .ok (binding, rest)) :
    ∃ i : Nat, binding.names[i]? = some name ∧
      binding.values[i]? = some (some (l.positional typeName runs)) := by
  obtain @⟨names, ns, type, vs, literal, last, assign, values, i, list, apart, first, isAssign,
    listed, each, ends, named, valued, isLiteral⟩ := h
  have other : ∀ t ∈ (type ++ assign :: (vs ++ last)).head?, t.kind ≠ .comma := by
    cases type with
    | nil => simp [isAssign]
    | cons t type => exact first
  obtain ⟨t, tail, others, rfl, rfl, isName, more⟩ := list.exists_moreNames (l := l) other
  have stopped : openAfter [.assign, .semicolon, .closing .round] 0 (type.map (·.kind)) = some 0 :=
    openAfter_closing apart .round
  have typed := collect_of_apart l stopped (assign :: (vs ++ last)) (by simp [isAssign])
  have whole : l.varSpec (t :: tail ++ (type ++ assign :: (vs ++ last))) =
      .ok (⟨t.spelling :: others, values.map l.composite?⟩, skipSemicolon last) :=
    varSpec_eq_ok_iff.2 ⟨t, _, others, _, type, _, _, _, rfl, isName, more, typed,
      varValues_of_listed isAssign listed each ends, rfl, rfl⟩
  cases whole.symm.trans read
  refine ⟨i, named, ?_⟩
  rw [List.getElem?_map, valued, Option.map_some, isLiteral.isComposite.read]

end EnumText.Listing
