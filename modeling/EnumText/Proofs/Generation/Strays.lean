import EnumText.Proofs.Generation.Batches
import EnumText.Proofs.Generation.Readable

/-!
# Stray bytes in the generated code

A file in UTF-8 has no place for a stray byte. Declared names have none, and in literals they are
escaped. But a directive names instances with any text, and gives a field that is not of strings any
text as its value: such a text stands in the code as it is.

* `View.isScalar_code_iff`, `Enumeration.isScalar_code_iff`: the code of an enumeration.
* `Source.isScalar_body_iff`: the code of a type.
* `Source.isScalar_code_iff`: the generated file.
-/

namespace EnumText

namespace Text

theorem isScalar_append (a b : Text) : (a ++ b).isScalar = (a.isScalar && b.isScalar) :=
  List.all_append

theorem isScalar_text (s : String) : (text s).isScalar = true := by
  rw [text, isScalar, List.all_map]
  exact List.all_eq_true.2 fun _ _ => rfl

theorem isScalar_flatten {parts : List Text} :
    Text.isScalar parts.flatten = true ↔ ∀ part ∈ parts, part.isScalar = true := by
  simp only [isScalar, List.all_flatten, List.all_eq_true]

theorem forall_isScalar_iff {α β : Type} {f : α → Text} {g : β → Text} {xs : List α} {ys : List β}
    (same : xs.map f = ys.map g) :
    (∀ x ∈ xs, (f x).isScalar = true) ↔ ∀ y ∈ ys, (g y).isScalar = true := by
  have all : xs.all (isScalar ∘ f) = ys.all (isScalar ∘ g) := by
    rw [← List.all_map, ← List.all_map, same]
  rw [← List.all_eq_true, ← List.all_eq_true]
  exact iff_of_eq (congrArg (· = true) all)

theorem isScalar_intercalate {separator : Text} (scalar : separator.isScalar = true)
    (parts : List Text) : Text.isScalar (List.intercalate separator parts) = true ↔
      ∀ part ∈ parts, part.isScalar = true := by
  induction parts with
  | nil => simp [isScalar]
  | cons part rest ih =>
    cases rest with
    | nil => simp
    | cons next rest =>
      rw [List.intercalate_cons_cons, isScalar_append, isScalar_append, scalar, Bool.and_true,
        Bool.and_eq_true, ih]
      exact (List.forall_mem_cons (p := fun part => Text.isScalar part = true)).symm

theorem isScalar_padRight (width : Nat) (t : Text) : (t.padRight width).isScalar = t.isScalar := by
  have spaces : (Text.spaces (width - t.length)).isScalar = true :=
    List.all_eq_true.2 fun c mem => (List.mem_replicate.1 mem).2 ▸ rfl
  rw [padRight, isScalar_append, spaces, Bool.and_true]

theorem isScalar_of_isName {t : Text} (h : t.isName = true) : t.isScalar = true := by
  refine List.all_eq_true.2 fun c mem => ?_
  cases c with
  | scalar c => rfl
  | stray b => exact absurd mem (not_mem_of_isIdentifier (isName_iff.1 h).1 rfl)

end Text

theorem isScalar_unlines {lines : List Text} :
    (unlines lines).isScalar = true ↔ ∀ line ∈ lines, line.isScalar = true := by
  have newline : (text "\n").isScalar = true := rfl
  rw [unlines, List.flatMap_def, Text.isScalar_flatten, List.forall_mem_map]
  simp only [Text.isScalar_append, newline, Bool.and_true]

/-- A stray byte is escaped. -/
theorem Literal.Escape.isScalar {c : Rune} {written : Text} (form : Escape c written) :
    written.isScalar = true := by
  have digits (width n : Nat) : (Text.hex width n).isScalar = true := by
    refine List.all_eq_true.2 fun c mem => ?_
    rcases Text.exists_digitChar_of_mem_hex mem with ⟨d, -, rfl⟩
    rfl
  cases form with
  | plain | letter | quote => rfl
  | byte | four | eight => exact digits _ _

theorem Literal.isScalar_quote (t : Text) : (quote t).isScalar = true := by
  refine List.all_eq_true.2 fun c mem => ?_
  rcases List.mem_cons.1 mem with rfl | mem
  · rfl
  rcases List.mem_append.1 mem with mem | mem
  · obtain ⟨d, -, own⟩ := List.mem_flatMap.1 mem
    exact List.all_eq_true.1 (escape_isEscape d).isScalar c own
  · rw [List.mem_singleton.1 mem]
    rfl

example : Literal.quote [.scalar 'a', .stray 0xFF] = text "\"a\\xff\"" := by decide

/-! ## Code -/

namespace Enumeration

namespace View

variable {v : View}

theorem isScalar_varBlock_iff : (∀ line ∈ v.varBlock, line.isScalar = true) ↔
    ∀ m ∈ v.members, m.paddedName.isScalar = true ∧ m.initializer.isScalar = true := by
  simp only [varBlock, List.forall_mem_append, List.forall_mem_map, Text.isScalar_append,
    Bool.and_eq_true]
  constructor
  · rintro ⟨⟨-, members⟩, -⟩ m mem
    exact ⟨(members m mem).1.1.2, (members m mem).2⟩
  · intro members
    refine ⟨⟨by decide, fun m mem => ?_⟩, by decide⟩
    exact ⟨⟨⟨rfl, (members m mem).1⟩, rfl⟩, (members m mem).2⟩

variable (typeName : v.typeName.isScalar = true)
  (literals : ∀ m ∈ v.members, m.encoding.isScalar = true ∧ m.decodeKey.isScalar = true)

include typeName literals

/-- The methods show names as they are. -/
theorem isScalar_methods_iff :
    (∀ line ∈ v.stringMethod ++ v.marshalMethod ++ v.unmarshalMethod, line.isScalar = true) ↔
      ∀ m ∈ v.members, m.name.isScalar = true := by
  have zero : ∀ p ∈ (if v.allowZero then [(text "\"\"", v.typeName ++ text "\x7b\x7d")] else []),
      p.1.isScalar = true ∧ p.2.isScalar = true := by
    split
    · refine List.forall_mem_singleton.2 ⟨rfl, ?_⟩
      rw [Text.isScalar_append, typeName]
      rfl
    · exact List.forall_mem_nil _
  have empty : Text.isScalar [] = true := rfl
  simp only [stringMethod, marshalMethod, unmarshalMethod, decodeCases, List.forall_mem_append,
    List.forall_mem_flatMap, List.forall_mem_cons, List.forall_mem_map, Text.isScalar_append,
    Text.isScalar_text, empty, typeName, Bool.and_eq_true, List.not_mem_nil, false_imp_iff,
    implies_true, true_and, and_true]
  constructor
  · rintro ⟨cases, -⟩ m mem
    exact (cases m mem).1
  · intro names
    exact ⟨fun m mem => ⟨names m mem, (literals m mem).1⟩, zero,
      fun m mem => ⟨(literals m mem).2, names m mem⟩⟩

/-- The declaration of the variables shows their values too. -/
theorem isScalar_code_iff : v.code.isScalar = true ↔
    (∀ m ∈ v.members, m.name.isScalar = true) ∧ (v.generateVars = true → ∀ m ∈ v.members,
      m.paddedName.isScalar = true ∧ m.initializer.isScalar = true) := by
  have methods := isScalar_methods_iff typeName literals
  rw [List.append_assoc] at methods
  rw [code, lines, isScalar_unlines, List.append_assoc, List.append_assoc, List.forall_mem_append,
    methods, and_comm]
  refine and_congr_right fun _ => ?_
  split
  · next generated => simp only [generated, isScalar_varBlock_iff, true_imp_iff]
  · next none => simp [none]

end View

variable {e : Enumeration} {v : View} {texts : List Text}

/-- The value of an instance is shown with the values of the declared fields. -/
theorem isScalar_initializer_iff {i : Instance} {fields : List Field}
    (names : ∀ f ∈ fields, f.name.isScalar = true) : (i.initializer fields).isScalar = true ↔
      ∀ f ∈ fields, ∀ value ∈ i.fields.get? f.name, value.isScalar = true := by
  have colon : (text ": ").isScalar = true := rfl
  rw [Instance.initializer, Text.isScalar_intercalate (by decide)]
  simp only [List.forall_mem_filterMap, Option.map_eq_some_iff, forall_exists_index, and_imp]
  constructor
  · intro all f mem value set
    have shown := all f mem _ value set rfl
    rw [Text.isScalar_append, Bool.and_eq_true] at shown
    exact shown.2
  · rintro values f mem _ value set rfl
    simp only [Text.isScalar_append, names f mem, colon, values f mem value set, Bool.and_self]

/-- Only what instances are called, and what is declared of them, can have stray bytes. -/
theorem isScalar_code_iff (shows : v.Shows e texts) (typeName : e.typeName.isScalar = true)
    (fields : ∀ f ∈ e.fields, f.name.isScalar = true) : v.code.isScalar = true ↔
      (∀ i ∈ e.instances, i.name.isScalar = true) ∧ (e.generateVars = true →
        ∀ i ∈ e.instances, ∀ f ∈ e.fields, ∀ value ∈ i.fields.get? f.name,
          value.isScalar = true) := by
  have literals : ∀ m ∈ v.members, m.encoding.isScalar = true ∧ m.decodeKey.isScalar = true := by
    intro m mem
    obtain ⟨t, encoding⟩ := shows.exists_encoding mem
    obtain ⟨key, decodeKey⟩ := shows.exists_decodeKey mem
    rw [encoding, decodeKey]
    exact ⟨Literal.isScalar_quote t, Literal.isScalar_quote key⟩
  have names : (∀ m ∈ v.members, m.name.isScalar = true) ↔
      ∀ i ∈ e.instances, i.name.isScalar = true := Text.forall_isScalar_iff shows.names
  have padded : (∀ m ∈ v.members, m.paddedName.isScalar = true) ↔
      ∀ i ∈ e.instances, i.name.isScalar = true := by
    rw [Text.forall_isScalar_iff shows.paddedNames]
    simp only [Text.isScalar_padRight]
  have values : (∀ m ∈ v.members, m.initializer.isScalar = true) ↔ ∀ i ∈ e.instances,
      ∀ f ∈ e.fields, ∀ value ∈ i.fields.get? f.name, value.isScalar = true := by
    rw [Text.forall_isScalar_iff shows.initializers]
    simp only [Text.isScalar_append, Text.isScalar_text, typeName, Bool.true_and, Bool.and_true,
      isScalar_initializer_iff fields]
  rw [View.isScalar_code_iff (shows.typeName ▸ typeName) literals, names, shows.generateVars]
  refine and_congr_right fun scalar => imp_congr_right fun _ => ?_
  rw [← values, forall₂_and, padded, and_iff_right scalar]

end Enumeration

/-! ## Files -/

/-- A directive names an instance with a stray byte, or gives one to a declared field. -/
def TypeInfo.HasStray (type : TypeInfo) : Prop :=
  ∃ i ∈ Source.directed type, i.name.isScalar = false ∨
    ∃ f ∈ type.fields, ∃ value ∈ i.fields.get? f.name, value.isScalar = false

namespace Source

variable {s : Source} {form : TextForm} {typeName body code : Text} {typeNames : List Text}
  (named : s.IsNamed)

include named

/-- The code for a type has a stray byte exactly if its directives have one. -/
theorem isScalar_body_iff (made : s.body form typeName = .ok body) :
    body.isScalar = false ↔
      ∃ type, s.find? typeName = .ok (some type) ∧ type.HasStray := by
  obtain ⟨e, found⟩ := exists_body_iff.1 ⟨body, made⟩
  obtain ⟨type, r, declared, resolved, -, rfl, accepted⟩ := enumeration_eq_ok_iff.1 found
  obtain ⟨mem, -, -⟩ := find?_eq_some declared
  obtain ⟨name, fields⟩ := named.types type mem
  obtain ⟨texts, read, -⟩ := Enumeration.check_eq_ok_iff.1 accepted
  obtain ⟨v, view, shows⟩ := Enumeration.exists_view read
  rw [body_of_enumeration found view] at made
  cases made
  have scalar := Enumeration.isScalar_code_iff shows (Text.isScalar_of_isName name)
    fun f mem => Text.isScalar_of_isName (fields f mem)
  have only : (∃ type, s.find? typeName = .ok (some type) ∧ type.HasStray) ↔
      type.HasStray := by
    simp [declared]
  rw [only, ← not_iff_not, Bool.not_eq_false, scalar]
  rw [resolve_eq_ok_iff] at resolved
  split at resolved
  · next none =>
    obtain ⟨-, -, rfl⟩ := resolved
    -- variables are named by identifiers
    have names : ∀ i ∈ s.scan type.name type.fields, i.name.isScalar = true :=
      fun i mem => Text.isScalar_of_isName (isName_of_mem_scan named mem)
    refine iff_of_true ⟨names, fun generated => nomatch generated⟩ ?_
    rintro ⟨i, mem, -⟩
    rw [none] at mem
    cases mem
  · obtain ⟨-, rfl⟩ := resolved
    unfold TypeInfo.HasStray
    push Not
    simp only [Bool.not_eq_false]
    constructor
    · rintro ⟨names, values⟩ i mem
      exact ⟨names i mem, values rfl i mem⟩
    · intro each
      exact ⟨fun i mem => (each i mem).1, fun _ i mem => (each i mem).2⟩

/-- A generated file has a stray byte exactly if the directives of one of its types have one. -/
theorem isScalar_code_iff
    (generated : (s.generate form typeNames).outcome = .ok (some code)) :
    code.isScalar = false ↔ ∃ typeName ∈ typeNames, ∃ type,
      s.find? typeName = .ok (some type) ∧ type.HasStray := by
  have nonempty : typeNames ≠ [] := by
    rintro rfl
    cases generated
  rw [outcome_generate nonempty] at generated
  obtain ⟨bodies, made, same⟩ := map_eq_ok_iff.1 generated
  cases same
  have header : (codeHeader s.package).isScalar = true := by
    have empty : Text.isScalar [] = true := rfl
    have package : s.package.isScalar = true := Text.isScalar_of_isName named.package
    rw [codeHeader, headerLines, isScalar_unlines]
    simp [Text.isScalar_append, Text.isScalar_text, package, empty]
  have all : Text.isScalar (codeHeader s.package ++ bodies.flatten) = false ↔
      ∃ b ∈ bodies, Text.isScalar b = false := by
    rw [← not_iff_not, Bool.not_eq_false, Text.isScalar_append, Bool.and_eq_true,
      and_iff_right header, Text.isScalar_flatten]
    simp
  rw [all]
  constructor
  · rintro ⟨b, mem, stray⟩
    obtain ⟨typeName, asked, own⟩ := exists_of_mem_mapM made b mem
    exact ⟨typeName, asked, (isScalar_body_iff named own).1 stray⟩
  · rintro ⟨typeName, asked, stray⟩
    obtain ⟨b, mem, own⟩ := exists_mem_of_mapM made typeName asked
    exact ⟨b, mem, (isScalar_body_iff named own).2 stray⟩

end Source

end EnumText
