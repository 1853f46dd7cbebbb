import EnumText.Proofs.Declaration.Expressions
import EnumText.Proofs.Declaration.Positional

/-!
# Composite literals as they are written

`Writes a R` says that the tokens of a text satisfy `R` wherever it is written. Texts with commas
between them are written one by one, so a literal is read back from its elements: each key and each
value is found again.

* `writes_separated`: texts with commas between them.
* `writes_names`: names with commas between them.
* `writes_element`: an element, with or without a key.
* `Yields.composite`: a literal.
-/

namespace EnumText

open Declaration
open Lexeme (Apart)

namespace Composite

/-- An element as it is written: the value, after the key if there is one. -/
def Element.written (e : Element) : Text :=
  match e.key with
  | none => e.value
  | some key => key ++ text ": " ++ e.value

/-- A literal as it is written. -/
def written (c : Composite) : Text :=
  c.typeName ++ text "\x7b" ++ List.intercalate (text ", ") (c.elements.map Element.written) ++
    text "\x7d"

/-- An element that is read as it is written. Without a key, the value must not begin as if it had
one. -/
structure Element.IsReadable (e : Element) : Prop where
  key : ∀ key ∈ e.key, key.isName = true
  value : e.value.IsExpression
  unkeyed : e.key = none → ¬ e.value.StartsAs [.identifier, .colon]

/-- A literal that is read as it is written. -/
structure IsReadable (c : Composite) : Prop where
  typeName : c.typeName.isName = true
  elements : ∀ e ∈ c.elements, e.IsReadable

instance (e : Element) : Decidable e.IsReadable :=
  decidable_of_iff ((∀ key ∈ e.key, key.isName = true) ∧ e.value.IsExpression ∧
    (e.key = none → ¬ e.value.StartsAs [.identifier, .colon]))
    ⟨fun h => ⟨h.1, h.2.1, h.2.2⟩, fun h => ⟨h.key, h.value, h.unkeyed⟩⟩

instance (c : Composite) : Decidable c.IsReadable :=
  decidable_of_iff (c.typeName.isName = true ∧ ∀ e ∈ c.elements, e.IsReadable)
    ⟨fun h => ⟨h.1, h.2⟩, fun h => ⟨h.typeName, h.elements⟩⟩

end Composite

namespace Listing

variable {α : Type} {l : Listing} {ends : Bool} {a more v : Text} {ts : List Token}
variable {Q : Listing → List Token → Prop}

/-! ## Texts with commas between them -/

/-- Wherever a text stands before something that its last lexeme does not go on into, its tokens
satisfy `R`. -/
def Writes (a : Text) (R : Listing → List Token → Prop) : Prop :=
  ∀ (ends : Bool) (more : Text) (Q : Listing → List Token → Prop), Apart more →
    (∀ ends, Yields ends more Q) →
      Yields ends (a ++ more) fun l ts => ∃ run rest, ts = run ++ rest ∧ R l run ∧ Q l rest

/-- Tokens that are items with commas between them. -/
inductive Separated (R : List Token → α → Prop) : List α → List Token → Prop
  | nil : Separated R [] []
  | last {run : List Token} {x : α} (item : R run x) : Separated R [x] run
  | cons {run ts : List Token} {x y : α} {xs : List α} {comma : Token} (item : R run x)
    (isComma : comma.kind = .comma) (others : Separated R (y :: xs) ts) :
    Separated R (x :: y :: xs) (run ++ comma :: ts)

theorem writes_separated {written : α → Text} {R : α → Listing → List Token → Prop} {xs : List α}
    (each : ∀ x ∈ xs, Writes (written x) (R x)) :
    Writes (List.intercalate (text ", ") (xs.map written)) fun l ts =>
      Separated (fun run x => R x l run) xs ts := by
  intro ends more Q next h
  induction xs generalizing ends with
  | nil => exact (h ends).imp fun l ts below => ⟨[], ts, rfl, .nil, below⟩
  | cons x xs ih =>
    obtain ⟨first, others⟩ := List.forall_mem_cons.1 each
    cases xs with
    | nil =>
      rw [List.map_singleton, List.intercalate_singleton]
      apply (first ends more Q next h).imp
      intro l ts found
      obtain ⟨run, rest, same, item, below⟩ := found
      exact ⟨run, rest, same, .last item, below⟩
    | cons y xs =>
      have comma (ends : Bool) : Chunk ends (text ", ") [(.comma, text ",")] false := by
        cases ends <;> decide
      have start : Apart (text ", " ++ (List.intercalate (text ", ") ((y :: xs).map written) ++
          more)) := Lexeme.apart_append (by decide) _
      rw [List.map_cons, List.map_cons, List.intercalate_cons_cons, List.append_assoc,
        List.append_assoc]
      refine (first ends _ _ start fun ends => Yields.chunk (comma ends)
        (.inl ⟨.scalar ' ', rfl, rfl⟩) (ih others false)).imp fun l ts found => ?_
      obtain ⟨run, _, rfl, item, found₁⟩ := found
      obtain ⟨comma, _, rfl, isComma, -, inner, rest, rfl, separated, below⟩ := found₁.one
      exact ⟨run ++ comma :: inner, rest, by simp, .cons item isComma separated, below⟩

/-! ## Names -/

/-- Tokens that are one name. -/
def IsWord (run : List Token) (name : Text) : Prop :=
  ∃ t, run = [t] ∧ t.kind = .identifier ∧ t.spelling = name

theorem writes_name {name : Text} (isName : name.isName = true) :
    Writes name fun _ run => IsWord run name := by
  intro ends more Q next h
  apply (Yields.word isName next (h true)).imp
  intro l ts found
  obtain ⟨t, rest, rfl, kind, spelling, below⟩ := found.one
  exact ⟨[t], rest, rfl, ⟨t, rfl, kind, spelling⟩, below⟩

theorem writes_names {names : List Text} (isName : ∀ name ∈ names, name.isName = true) :
    Writes (List.intercalate (text ", ") names) fun _ ts => Separated IsWord names ts := by
  have each : ∀ name ∈ names, Writes (id name) fun _ run => IsWord run name := fun name mem =>
    writes_name (isName name mem)
  have all := writes_separated each
  rwa [List.map_id_fun, id] at all

theorem Separated.nameList {names : List Text} (h : Separated IsWord names ts)
    (some : names ≠ []) : NameList names ts := by
  induction h with
  | nil => exact absurd rfl some
  | last item =>
    obtain ⟨t, rfl, isName, rfl⟩ := item
    exact .last isName
  | cons item isComma _ ih =>
    obtain ⟨t, rfl, isName, rfl⟩ := item
    exact .cons isName isComma (ih (List.cons_ne_nil _ _))

/-! ## Elements -/

theorem writes_element {e : Composite.Element} (readable : e.IsReadable) :
    Writes e.written fun l run => IsElement l run e := by
  obtain ⟨key, v⟩ := e
  obtain ⟨isName, expression, unkeyed⟩ := readable
  intro ends more Q next h
  cases key with
  | none =>
    apply (Yields.value expression next h).imp
    intro l ts found
    obtain ⟨value, rest, rfl, some, apart, starts, rfl, below⟩ := found
    have positional : IsPositional value := by
      refine ⟨⟨some, apart⟩, ?_⟩
      rintro key colon rest rfl ⟨isKey, isColon⟩
      exact unkeyed rfl (starts _ ⟨rest.map (·.kind), by simp [isKey, isColon]⟩)
    exact ⟨value, rest, rfl, positional.isElement, below⟩
  | some key =>
    have colon : Chunk true (text ": ") [(.colon, text ":")] false := by decide
    have value := Yields.chunk colon (.inl ⟨.scalar ' ', rfl, rfl⟩) <|
      Yields.expression expression next h
    have start : Apart (text ": " ++ (v ++ more)) := Lexeme.apart_append (by decide) _
    have whole : Composite.Element.written ⟨some key, v⟩ ++ more =
        key ++ (text ": " ++ (v ++ more)) := by
      simp only [Composite.Element.written, List.append_assoc]
    rw [whole]
    apply (Yields.word (isName key rfl) start value).imp
    intro l ts found
    obtain ⟨key, _, rfl, isKey, rfl, found₁⟩ := found.one
    obtain ⟨colon, _, rfl, isColon, -, tokens, rest, rfl, some, apart, rfl, below⟩ := found₁.one
    exact ⟨key :: colon :: tokens, rest, rfl, isElement_keyed isKey isColon some apart, below⟩

theorem Separated.elements {es : List Composite.Element} (h : Separated (IsElement l) es ts) :
    Elements l ts es := by
  induction h with
  | nil => exact .nil
  | last item => exact .last item
  | cons item isComma _ ih => exact .cons item isComma ih

/-! ## Literals -/

/-- No lexeme begins with an opening curly bracket and goes on. -/
theorem Yields.openingCurly (h : Yields false more Q) :
    Yields ends (text "\x7b" ++ more) (After [(.opening .curly, text "\x7b")] Q) := by
  have reads (more : Text) :
      Lexeme.Reads (.scalar '\x7b') ([] ++ more) (.token (.opening .curly)) 0 :=
    .punctuation rfl rfl fun dot => absurd dot.1 (by decide)
  exact Yields.lexeme reads h

theorem Yields.composite {c : Composite} (readable : c.IsReadable) (next : Apart more)
    (h : Yields true more Q) :
    Yields ends (c.written ++ more) fun l ts =>
      ∃ value rest, ts = value ++ rest ∧ IsComposite l value c ∧ Q l rest := by
  have closing (ends : Bool) : Chunk ends (text "\x7d") [(.closing .curly, text "\x7d")] true := by
    cases ends <;> decide
  have brace : Apart (text "\x7d" ++ more) := Lexeme.apart_append (by decide) more
  have inside : Yields true _ _ := Yields.openingCurly <|
    writes_separated (fun e mem => writes_element (readable.elements e mem)) false _ _ brace
      fun ends => Yields.chunk (closing ends) next.soft h
  have start : Apart (text "\x7b" ++ (List.intercalate (text ", ")
      (c.elements.map Composite.Element.written) ++ (text "\x7d" ++ more))) :=
    Lexeme.apart_append (by decide) _
  have whole : c.written ++ more = c.typeName ++ (text "\x7b" ++ (List.intercalate (text ", ")
      (c.elements.map Composite.Element.written) ++ (text "\x7d" ++ more))) := by
    simp only [Composite.written, List.append_assoc]
  rw [whole]
  apply (Yields.word readable.typeName start inside).imp
  intro l ts found
  obtain ⟨type, _, rfl, isType, name, found₁⟩ := found.one
  obtain ⟨first, _, rfl, opens, -, inner, _, rfl, separated, found₂⟩ := found₁.one
  obtain ⟨last, rest, rfl, closes, -, below⟩ := found₂.one
  have literal := IsComposite.mk isType opens separated.elements closes
  rw [name] at literal
  exact ⟨type :: first :: (inner ++ [last]), rest, by simp, literal, below⟩

end Listing

end EnumText
