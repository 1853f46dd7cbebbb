import EnumText.Proofs.Declaration.Balance
import EnumText.Proofs.Declaration.Reading

/-!
# Variables with composite literals

`IsElement`, `Elements` and `IsComposite` say that tokens are written as an element, as elements
between commas and as a composite literal, and each has a lemma that they are read as such.

* `isElement_keyed`: a key and a value in which no comma or semicolon stands outside of brackets.
* `Elements.read`, `IsComposite.read`: the elements are found again.
* `varSpec_of_isComposite`: a variable with such a value.
-/

namespace EnumText.Listing

open Declaration

variable {l : Listing} {ts more value : List Token} {e : Composite.Element}
variable {es : List Composite.Element} {c : Composite} {stops : List Token.Kind}

/-! ## Elements -/

/-- Tokens that are read as an element of a literal, and hang together between commas. -/
structure IsElement (l : Listing) (ts : List Token) (e : Composite.Element) : Prop where
  ne_nil : ts ≠ []
  apart : openAfter [.comma, .semicolon] 0 (ts.map (·.kind)) = some 0
  read : l.element? ts = some e

theorem textOf_congr {a b : List Token} (head : a.head? = b.head?)
    (last : a.getLast? = b.getLast?) : l.textOf a = l.textOf b := by
  unfold textOf
  rw [head, last]

/-- The semicolons inside of a value do not count for its text. -/
theorem textOf_filter (apart : openAfter stops 0 (value.map (·.kind)) = some 0)
    (stop : .semicolon ∈ stops) :
    l.textOf (value.filter (·.kind ≠ .semicolon)) = l.textOf value := by
  refine textOf_congr ?_ ?_
  · cases value with
    | nil => rfl
    | cons t rest =>
      have keep := kind_ne_semicolon apart stop (.inl rfl)
      rw [List.filter_cons_of_pos (by simpa using keep)]
      rfl
  · cases last : value.getLast? with
    | none =>
      rw [List.getLast?_eq_none_iff.1 last]
      rfl
    | some t =>
      have keep := kind_ne_semicolon apart stop (.inr last)
      rcases List.getLast?_eq_some_iff.1 last with ⟨init, rfl⟩
      rw [List.filter_append, List.filter_cons_of_pos (by simpa using keep)]
      exact List.getLast?_concat

theorem isElement_keyed {key colon : Token} (isName : key.kind = .identifier)
    (isColon : colon.kind = .colon) (nonempty : value ≠ [])
    (apart : openAfter [.comma, .semicolon] 0 (value.map (·.kind)) = some 0) :
    IsElement l (key :: colon :: value) ⟨some key.spelling, l.textOf value⟩ where
  ne_nil := List.cons_ne_nil _ _
  apart := by
    rw [List.map_cons, List.map_cons, isName, isColon]
    exact apart
  read := by
    rcases List.exists_cons_of_ne_nil nonempty with ⟨first, rest, rfl⟩
    have keep : first.kind ≠ .semicolon := kind_ne_semicolon apart (by simp) (.inl rfl)
    have same := textOf_filter (l := l) apart (by simp)
    rw [List.filter_cons_of_pos (by simpa using keep)] at same
    rw [element?, List.filter_cons_of_pos (by simp [isName]),
      List.filter_cons_of_pos (by simp [isColon]), List.filter_cons_of_pos (by simpa using keep)]
    simp only [isName, isColon, and_self, if_true, same]

/-- Tokens that are elements with commas between them. -/
inductive Elements (l : Listing) : List Token → List Composite.Element → Prop
  | nil : Elements l [] []
  | last {ts : List Token} {e : Composite.Element} (element : IsElement l ts e) : Elements l ts [e]
  | cons {ts more : List Token} {e : Composite.Element} {es : List Composite.Element}
    {comma : Token} (element : IsElement l ts e) (isComma : comma.kind = .comma)
    (others : Elements l more es) : Elements l (ts ++ comma :: more) (e :: es)

theorem Elements.balanced (h : Elements l ts es) :
    openAfter [.semicolon] 0 (ts.map (·.kind)) = some 0 := by
  have inner {ts : List Token} {e : Composite.Element} (element : IsElement l ts e) :
      openAfter [.semicolon] 0 (ts.map (·.kind)) = some 0 := by
    have cover : Covers [.comma, .semicolon] [.semicolon] 0 := .inr (by simp)
    exact openAfter_cover element.apart cover
  induction h with
  | nil => rfl
  | last element => exact inner element
  | cons element isComma _ ih =>
    rw [List.map_append, openAfter_append (inner element), List.map_cons, isComma]
    exact ih

/-- Tokens between commas are one piece. -/
theorem splitOutside_of_apart (nonempty : ts ≠ [])
    (apart : openAfter stops 0 (ts.map (·.kind)) = some 0) (stop : .comma ∈ stops) :
    splitOutside .comma ts = [ts] := by
  have piece : piecesFrom .comma 0 (ts ++ []) = [ts ++ []] := piecesFrom_openAfter apart stop []
  rw [List.append_nil] at piece
  rw [splitOutside, piece, List.filter_cons_of_pos (by simpa using nonempty)]
  rfl

theorem splitOutside_cons {comma : Token} (nonempty : ts ≠ [])
    (apart : openAfter stops 0 (ts.map (·.kind)) = some 0) (stop : .comma ∈ stops)
    (isComma : comma.kind = .comma) (more : List Token) :
    splitOutside .comma (ts ++ comma :: more) = ts :: splitOutside .comma more := by
  have between : piecesFrom .comma 0 (comma :: more) = [] :: piecesFrom .comma 0 more := by
    have depth : 0 + depthChange comma = 0 := by
      rw [depthChange, isComma]
      rfl
    rw [piecesFrom, depth, if_pos ⟨isComma, rfl⟩]
  have piece : piecesFrom .comma 0 (ts ++ comma :: more) =
      (ts ++ (piecesFrom .comma 0 (comma :: more)).headD []) ::
        (piecesFrom .comma 0 (comma :: more)).tail :=
    piecesFrom_openAfter apart stop (comma :: more)
  rw [splitOutside, piece, between, List.headD_cons, List.append_nil,
    List.filter_cons_of_pos (by simpa using nonempty)]
  rfl

theorem Elements.read (h : Elements l ts es) :
    (splitOutside .comma ts).filterMap l.element? = es := by
  induction h with
  | nil => rfl
  | last element =>
    rw [splitOutside_of_apart element.ne_nil element.apart (by simp), List.filterMap_cons,
      element.read]
    rfl
  | cons element isComma _ ih =>
    rw [splitOutside_cons element.ne_nil element.apart (by simp) isComma, List.filterMap_cons,
      element.read, ih]

/-! ## Literals -/

/-- Tokens that are a composite literal of a plain type name. -/
inductive IsComposite (l : Listing) : List Token → Composite → Prop
  | mk {name opening closing : Token} {inner : List Token} {es : List Composite.Element}
    (isName : name.kind = .identifier) (opens : opening.kind = .opening .curly)
    (elements : Elements l inner es) (closes : closing.kind = .closing .curly) :
    IsComposite l (name :: opening :: (inner ++ [closing])) ⟨name.spelling, es⟩

/-- A literal hangs together wherever no name and no curly bracket is a stop. -/
theorem IsComposite.apart (h : IsComposite l ts c) (noName : .identifier ∉ stops)
    (noBrace : .opening .curly ∉ stops) :
    openAfter stops 0 (ts.map (·.kind)) = some 0 := by
  obtain ⟨isName, opens, elements, closes⟩ := h
  have cover : Covers [.semicolon] stops 1 := .inl (by decide)
  have inside := openAfter_cover elements.balanced cover
  rw [List.map_cons, List.map_cons, isName, opens, openAfter_cons (.other rfl rfl (.inr noName)),
    openAfter_cons (.opening rfl rfl (.inr noBrace)), List.map_append, openAfter_append inside,
    List.map_singleton, closes]
  exact openAfter_cons (.closing rfl rfl)

theorem IsComposite.read (h : IsComposite l ts c) : l.composite? ts = some c := by
  cases h with
  | @mk name opening closing inner es isName opens elements closes =>
    have atEnd : closesAtEnd 1 (inner ++ [closing]) = closesAtEnd 1 [closing] :=
      closesAtEnd_openAfter elements.balanced [closing]
    have last : closesAtEnd 1 [closing] = true := by
      rw [closesAtEnd, closes]
      rfl
    rw [composite?, List.getLast?_concat, List.dropLast_concat, elements.read, atEnd, last,
      if_pos ⟨isName, opens, by simp [closes], rfl⟩]

/-- A literal is one value. -/
theorem IsComposite.splitOutside (h : IsComposite l ts c) :
    Declaration.splitOutside .comma ts = [ts] := by
  have nonempty : ts ≠ [] := by
    obtain ⟨⟩ := h
    exact List.cons_ne_nil _ _
  have apart : openAfter [.comma] 0 (ts.map (·.kind)) = some 0 := h.apart (by simp) (by simp)
  exact splitOutside_of_apart nonempty apart (by simp)

/-! ## Variables -/

theorem moreNames_of_head? (other : ∀ t ∈ ts.head?, t.kind ≠ .comma) :
    l.moreNames ts = .ok ([], ts) := by
  match ts with
  | [] => rfl
  | [t] =>
    have other := other t rfl
    simp only [moreNames, if_neg other]
  | t :: u :: rest =>
    have other := other t rfl
    simp only [moreNames, if_neg other]

/-- A variable whose value is a literal, up to the semicolon after it. -/
theorem varSpec_of_isComposite {name assign semicolon : Token} (isName : name.kind = .identifier)
    (isAssign : assign.kind = .assign) (value : IsComposite l ts c)
    (ends : semicolon.kind = .semicolon) (more : List Token) :
    l.varSpec (name :: assign :: (ts ++ semicolon :: more)) =
      .ok (⟨[name.spelling], [some c]⟩, more) := by
  have noMore : l.moreNames (assign :: (ts ++ semicolon :: more)) =
      .ok ([], assign :: (ts ++ semicolon :: more)) := by
    apply moreNames_of_head?
    intro t first
    cases first
    rw [isAssign]
    decide
  have noType : l.collect [.assign, .semicolon, .closing .round] 0
      (assign :: (ts ++ semicolon :: more)) = .ok ([], assign :: (ts ++ semicolon :: more)) := by
    apply collect_cons_eq_ok_iff.2
    rw [if_pos ⟨rfl, .inl (by simp [isAssign])⟩]
    exact ⟨rfl, rfl⟩
  have apart : openAfter [.semicolon, .closing .round] 0 (ts.map (·.kind)) = some 0 :=
    value.apart (by simp) (by simp)
  have taken : l.collect [.semicolon, .closing .round] 0 (ts ++ semicolon :: more) =
      .ok (ts, semicolon :: more) := collect_of_apart l apart _ (by simp [ends])
  have values : l.varValues (assign :: (ts ++ semicolon :: more)) =
      .ok ([some c], semicolon :: more) := by
    rw [varValues, if_pos (by simp [at?, isAssign])]
    refine bind_eq_ok_iff.2 ⟨_, taken, ?_⟩
    dsimp only
    rw [value.splitOutside, List.map_singleton, value.read]
    rfl
  have after : more = skipSemicolon (semicolon :: more) := by rw [skipSemicolon, if_pos ends]
  exact varSpec_eq_ok_iff.2 ⟨name, _, [], _, [], _, [some c], _, rfl, isName, noMore, noType,
    values, rfl, after⟩

/-! ## Groups of variables -/

/-- The tokens of a group are variables up to its closing bracket, and those after it satisfy
`Q`. -/
def Grouping (bindings : List Binding) (Q : Listing → List Token → Prop) (l : Listing)
    (ts : List Token) : Prop :=
  ∃ rest, rest.length ≤ ts.length ∧
    (∀ fuel, ts.length < fuel → l.varGroup fuel ts = .ok (bindings, rest)) ∧ Q l rest

variable {bindings : List Binding} {binding : Binding} {Q : Listing → List Token → Prop}

theorem Grouping.close {t : Token} (closes : t.kind = .closing .round) (h : Q l ts) :
    Grouping [] Q l (t :: ts) := by
  refine ⟨ts, Nat.le_succ _, fun fuel enough => ?_, h⟩
  rcases Nat.exists_eq_add_one_of_ne_zero (Nat.ne_zero_of_lt enough) with ⟨fuel, rfl⟩
  rw [varGroup, skipSemicolons_of_kind (by simp [closes]), if_pos (by simp [at?, closes])]
  rfl

theorem Grouping.spec {t : Token} {front : List Token} (isName : t.kind = .identifier)
    (read : ∀ more, l.varSpec (t :: (front ++ more)) = .ok (binding, more))
    (h : Grouping bindings Q l ts) : Grouping (binding :: bindings) Q l (t :: (front ++ ts)) := by
  obtain ⟨rest, shorter, group, below⟩ := h
  have longer : ts.length ≤ (front ++ ts).length := by simp
  refine ⟨rest, by rw [List.length_cons]; omega, fun fuel enough => ?_, below⟩
  rw [List.length_cons] at enough
  rcases Nat.exists_eq_add_one_of_ne_zero (Nat.ne_zero_of_lt enough) with ⟨fuel, rfl⟩
  rw [varGroup, skipSemicolons_of_kind (by simp [isName]), if_neg (by simp [at?, isName])]
  exact bind_eq_ok_iff.2 ⟨_, read ts, bind_eq_ok_iff.2 ⟨_, group fuel (by omega), rfl⟩⟩

end EnumText.Listing
