import EnumText.Proofs.Enumeration.Methods
import EnumText.Proofs.Generation.Readable

/-!
# What a generated file declares

A file declares a variable for each instance that a directive defines, and three methods for each
type. Names are only compared within a type. So a file declares a name twice where the directives of
two types have it, or where one type with directives is asked for twice.

* `SourceFile.variableNames` and `View.receivers` are the names that a file declares.
* `Source.names_bindings_of_enumeration`, `View.receivers_lines`: what is declared for one type.
* `Source.declares_of_generate`, `Generator.run_declared`: what is declared in a whole file.
-/

namespace EnumText

/-- The names of the variables that a file declares, in their order. -/
def SourceFile.variableNames (f : SourceFile) : List Text := f.bindings.flatMap (·.names)

namespace Enumeration.View

/-- The receiver in the head of a method that has a given end. -/
def receiver? (tail head : Text) : Option Text :=
  if head.endsWith tail then some (head.take (head.length - tail.length)) else none

/-- The receivers of the methods whose heads have a given end, in file order. -/
def receivers (tail : Text) (lines : List Text) : List Text :=
  (marked (text "func (t ") lines).filterMap (receiver? tail)

/-- How the head of the method ends that writes an instance as a string. -/
def stringTail : Text := text ") String() string \x7b"

/-- How the head of the method ends that writes an instance as bytes. -/
def marshalTail : Text := text ") MarshalText() ([]byte, error) \x7b"

/-- How the head of the method ends that reads an instance. -/
def unmarshalTail : Text := text ") UnmarshalText(text []byte) error \x7b"

variable {mark : Text} {ls : List Text}

/-! ## Methods -/

theorem marked_append (mark : Text) (a b : List Text) :
    marked mark (a ++ b) = marked mark a ++ marked mark b := List.filterMap_append

theorem marked_eq_nil (h : ∀ line ∈ ls, line.startsWith mark = false) : marked mark ls = [] := by
  refine List.filterMap_eq_nil_iff.2 fun line mem => ?_
  rw [h line mem]
  rfl

theorem marked_flatMap_eq_nil {α : Type} {f : α → List Text}
    (h : ∀ x, ∀ line ∈ f x, line.startsWith mark = false) (xs : List α) :
    marked mark (xs.flatMap f) = [] :=
  marked_eq_nil (List.forall_mem_flatMap.2 fun x _ => h x)

/-- Three lines of the code begin a method. -/
theorem marked_lines (v : View) : marked (text "func (t ") v.lines =
    [v.typeName ++ stringTail, v.typeName ++ marshalTail,
      text "*" ++ v.typeName ++ unmarshalTail] := by
  have block : marked (text "func (t ") (if v.generateVars then v.varBlock else []) = [] := by
    apply marked_eq_nil
    split
    · simp only [varBlock, List.forall_mem_append, List.forall_mem_map]
      exact ⟨⟨by decide, fun m _ => rfl⟩, by decide⟩
    · exact List.forall_mem_nil _
  have writes : marked (text "func (t ") v.stringMethod = [v.typeName ++ stringTail] := by
    rw [stringMethod, marked_append, marked_append, marked_flatMap_eq_nil]
    · rfl
    · exact fun m => List.forall_mem_cons.2 ⟨rfl, List.forall_mem_singleton.2 rfl⟩
  have reads : marked (text "func (t ") v.unmarshalMethod =
      [text "*" ++ v.typeName ++ unmarshalTail] := by
    rw [unmarshalMethod, marked_append, marked_append, marked_flatMap_eq_nil]
    · rfl
    · exact fun p => List.forall_mem_cons.2 ⟨rfl, List.forall_mem_singleton.2 rfl⟩
  rw [lines, marked_append, marked_append, marked_append, block, writes, reads]
  rfl

theorem receivers_append (tail : Text) (a b : List Text) :
    receivers tail (a ++ b) = receivers tail a ++ receivers tail b := by
  rw [receivers, marked_append, List.filterMap_append]
  rfl

/-- No method begins in the lines before the code of the first type. -/
theorem receivers_headerLines (tail package : Text) :
    receivers tail (headerLines package) = [] := by
  have none : marked (text "func (t ") (headerLines package) = [] := by
    apply marked_eq_nil
    rw [headerLines, List.forall_mem_cons, List.forall_mem_cons, List.forall_mem_cons]
    exact ⟨by decide, by decide, rfl, by decide⟩
  rw [receivers, none]
  rfl

theorem receivers_flatMap (tail : Text) (views : List View) :
    receivers tail (views.flatMap lines) = views.flatMap fun v => receivers tail v.lines := by
  induction views with
  | nil => rfl
  | cons v views ih => rw [List.flatMap_cons, receivers_append, ih, List.flatMap_cons]

theorem receiver?_append (receiver tail : Text) :
    receiver? tail (receiver ++ tail) = some receiver := by
  rw [receiver?, Text.endsWith, if_pos (List.isSuffixOf_iff_suffix.2 (List.suffix_append _ _)),
    List.length_append, Nat.add_sub_cancel, List.take_left]

/-- Ends are told apart from behind, before any receiver is reached. -/
theorem receiver?_append_of_apart (tail other receiver : Text)
    (apart : ∀ t : Text, tail.reverse.isPrefixOf (other.reverse ++ t) = false) :
    receiver? tail (receiver ++ other) = none := by
  have wrong : (receiver ++ other).endsWith tail = false := by
    rw [Text.endsWith, List.isSuffixOf, List.reverse_append]
    exact apart _
  rw [receiver?, wrong]
  rfl

/-- The code declares each of the methods once. -/
theorem receivers_lines (v : View) :
    receivers stringTail v.lines = [v.typeName] ∧ receivers marshalTail v.lines = [v.typeName] ∧
      receivers unmarshalTail v.lines = [text "*" ++ v.typeName] := by
  unfold receivers
  rw [marked_lines]
  refine ⟨?_, ?_, ?_⟩
  · simp only [List.filterMap_cons, List.filterMap_nil, receiver?_append,
      receiver?_append_of_apart stringTail marshalTail _ fun _ => rfl,
      receiver?_append_of_apart stringTail unmarshalTail _ fun _ => rfl]
  · simp only [List.filterMap_cons, List.filterMap_nil, receiver?_append,
      receiver?_append_of_apart marshalTail stringTail _ fun _ => rfl,
      receiver?_append_of_apart marshalTail unmarshalTail _ fun _ => rfl]
  · simp only [List.filterMap_cons, List.filterMap_nil, receiver?_append,
      receiver?_append_of_apart unmarshalTail stringTail _ fun _ => rfl,
      receiver?_append_of_apart unmarshalTail marshalTail _ fun _ => rfl]

/-- The lines of a file declare each of the methods for each of the types in turn. -/
theorem receivers_file (package : Text) (views : List View) :
    let lines := headerLines package ++ views.flatMap lines ++ [[]]
    receivers stringTail lines = views.map (·.typeName) ∧
      receivers marshalTail lines = views.map (·.typeName) ∧
      receivers unmarshalTail lines = (views.map (·.typeName)).map (text "*" ++ ·) := by
  have last (tail : Text) : receivers tail [[]] = [] := rfl
  simp only [receivers_append, receivers_headerLines, receivers_flatMap, receivers_lines, last,
    List.nil_append, List.append_nil, ← List.map_eq_flatMap, List.map_map, Function.comp_def,
    and_self]

end Enumeration.View

/-! ## Variables -/

namespace Source

open Enumeration (View)
open Enumeration.View

variable {s : Source} {form : TextForm} {typeName : Text} {typeNames : List Text}
  {enumerations : List Enumeration} {code : Text}

/-- The variables for a type have the names that its directives define, each once. -/
theorem names_bindings_of_enumeration {e : Enumeration}
    (found : (s.enumeration form typeName).outcome = .ok e) :
    ∃ type, s.find? typeName = .ok (some type) ∧ e.typeName = typeName ∧
      e.bindings.flatMap (·.names) = directedNames type ∧ (directedNames type).Nodup := by
  obtain ⟨type, resolution, declared, resolved, -, rfl, -⟩ := enumeration_eq_ok_iff.1 found
  obtain ⟨-, name, -⟩ := find?_eq_some declared
  refine ⟨type, declared, name, ?_⟩
  rw [resolve_eq_ok_iff] at resolved
  split at resolved
  · next none =>
    obtain ⟨-, -, rfl⟩ := resolved
    rw [directedNames, none]
    exact ⟨rfl, List.nodup_nil⟩
  · obtain ⟨names, rfl⟩ := resolved
    refine ⟨?_, checkNames_eq_ok_iff.1 names⟩
    rw [Enumeration.bindings, enumerationOf, if_pos rfl, List.flatMap_map]
    exact List.flatMap_pure_eq_map _ _

theorem names_bindings_of_enumerations
    (found : typeNames.mapM (fun typeName => (s.enumeration form typeName).outcome) =
      .ok enumerations) :
    ∃ types : List TypeInfo, typeNames.mapM s.find? = .ok (types.map some) ∧
      enumerations.map (·.typeName) = typeNames ∧
      (enumerations.flatMap (·.bindings)).flatMap (·.names) = types.flatMap directedNames ∧
      ∀ type ∈ types, (directedNames type).Nodup := by
  induction typeNames generalizing enumerations with
  | nil =>
    cases found
    exact ⟨[], rfl, rfl, rfl, List.forall_mem_nil _⟩
  | cons typeName rest ih =>
    obtain ⟨e, others, first, below, rfl⟩ := mapM_cons_eq_ok_iff.1 found
    obtain ⟨type, declared, name, names, distinct⟩ := names_bindings_of_enumeration first
    obtain ⟨types, allDeclared, allTypes, allNames, allDistinct⟩ := ih below
    refine ⟨type :: types, mapM_cons_eq_ok_iff.2 ⟨_, _, declared, allDeclared, rfl⟩, ?_, ?_,
      List.forall_mem_cons.2 ⟨distinct, allDistinct⟩⟩
    · rw [List.map_cons, name, allTypes]
    · rw [List.flatMap_cons, List.flatMap_append, names, allNames, List.flatMap_cons]

theorem typeNames_of_views {views : List View}
    (shown : enumerations.mapM Enumeration.view? = .ok views) :
    views.map (·.typeName) = enumerations.map (·.typeName) := by
  induction enumerations generalizing views with
  | nil =>
    cases shown
    rfl
  | cons e rest ih =>
    obtain ⟨v, others, first, below, rfl⟩ := mapM_cons_eq_ok_iff.1 shown
    obtain ⟨members, -, same⟩ := bind_eq_ok_iff.1 first
    cases same
    rw [List.map_cons, List.map_cons, ih below]

/-! ## Files -/

/-- What the generated file for types declares, when it is read again. -/
theorem declares_of_generate (named : s.IsNamed)
    (directives : ∀ typeName ∈ typeNames, ∀ type,
      s.find? typeName = .ok (some type) → type.IsDirected)
    (generated : (s.generate form typeNames).outcome = .ok (some code)) (file : Path) :
    ∃ (types : List TypeInfo) (f : SourceFile),
      typeNames.mapM s.find? = .ok (types.map some) ∧ SourceFile.ofText? file code = .ok f ∧
      f.package = s.package ∧ f.types = [] ∧
      f.variableNames = types.flatMap directedNames ∧
      (∀ type ∈ types, (directedNames type).Nodup) ∧
      receivers stringTail (code.splitOn '\n') = typeNames ∧
      receivers marshalTail (code.splitOn '\n') = typeNames ∧
      receivers unmarshalTail (code.splitOn '\n') = typeNames.map (text "*" ++ ·) := by
  obtain ⟨enumerations, found, -, made⟩ := generate_eq_some_iff.1 generated
  obtain ⟨views, shown, -⟩ := bind_eq_ok_iff.1 made
  obtain ⟨types, declared, asked, names, distinct⟩ := names_bindings_of_enumerations found
  obtain ⟨-, read⟩ := ofText?_of_generated named directives found made
  have each := readable_of_enumerations named directives found
  obtain ⟨strings, marshals, unmarshals⟩ := receivers_file s.package views
  rw [splitOn_codeFile named.package (fun e mem => (each e mem).1) (fun e mem => (each e mem).2)
    shown made]
  rw [typeNames_of_views shown, asked] at strings marshals unmarshals
  exact ⟨types, _, declared, read file, rfl, rfl, names, distinct, strings, marshals, unmarshals⟩

/-- Names of types are different together if they are for each type, and no two share one. -/
theorem nodup_flatMap_directedNames_iff {types : List TypeInfo}
    (distinct : ∀ type ∈ types, (directedNames type).Nodup) :
    (types.flatMap directedNames).Nodup ↔
      types.Pairwise fun a b => ∀ name ∈ directedNames a, name ∉ directedNames b := by
  rw [List.nodup_flatMap, and_iff_right distinct]
  rfl

end Source

namespace Generator

open Source (directedNames)
open Enumeration.View

variable {g : Generator} {s : Source} {r : Request} {code : Text}

/-- What a generated file declares, where the names of the source and of its directives are
identifiers and the values of the directives are expressions: the file is read again, and declares
no types. Its variables are those that directives define for the types of the request in turn. Those
of one type have different names, and all of them do exactly if no name is defined for types at two
places of the request. The methods of each type are declared as often as the type is asked for. -/
theorem run_declared (named : s.IsNamed)
    (directives : ∀ typeName ∈ r.typeNames, ∀ type,
      s.find? typeName = .ok (some type) → type.IsDirected)
    (answered : (g.run s r).2 = .ok (some code)) (file : Path) :
    ∃ (types : List TypeInfo) (f : SourceFile),
      r.typeNames.mapM s.find? = .ok (types.map some) ∧ SourceFile.ofText? file code = .ok f ∧
      f.package = s.package ∧ f.types = [] ∧
      f.variableNames = types.flatMap directedNames ∧
      (∀ type ∈ types, (directedNames type).Nodup) ∧
      (f.variableNames.Nodup ↔ types.Pairwise fun a b =>
        ∀ name ∈ directedNames a, name ∉ directedNames b) ∧
      receivers stringTail (code.splitOn '\n') = r.typeNames ∧
      receivers marshalTail (code.splitOn '\n') = r.typeNames ∧
      receivers unmarshalTail (code.splitOn '\n') = r.typeNames.map (text "*" ++ ·) := by
  obtain ⟨casing, -, generated⟩ := run_eq_some_iff.1 answered
  obtain ⟨types, f, declared, read, package, none, names, distinct, methods⟩ :=
    Source.declares_of_generate named directives generated file
  refine ⟨types, f, declared, read, package, none, names, distinct, ?_, methods⟩
  rw [names]
  exact Source.nodup_flatMap_directedNames_iff distinct

/-- A source with types whose directives define instances of the same name. -/
def passages : Source where
  package := text "passages"
  types := [⟨text "Door", [text "// enumr:Open Wide:true", text "// enumr:Closed"],
      [⟨text "Wide", text "bool"⟩]⟩,
    ⟨text "Gate", [text "// enumr:Open"], []⟩, ⟨text "Hatch", [text "// enumr:Shut"], []⟩]
  bindings := []

theorem isNamed_passages : passages.IsNamed := by
  refine ⟨by decide, ?_, List.forall_mem_nil _⟩
  have each : ∀ type ∈ passages.types,
      type.name.isName = true ∧ ∀ f ∈ type.fields, f.name.isName = true := by decide
  exact fun type mem => ⟨(each type mem).1, (each type mem).2⟩

/-- A request for some of the types. -/
def passagesRequest (typeNames : List Text) : Request where
  typeNames := typeNames
  format := []
  marshalField := none
  allowZero := false

theorem run_declared_passages :
    let r := passagesRequest [text "Door", text "Hatch"]
    passages.IsNamed ∧
    (∀ typeName ∈ r.typeNames, ∀ type,
      passages.find? typeName = .ok (some type) → type.IsDirected) ∧
    ∃ (code : Text) (f : SourceFile), (fresh.run passages r).2 = .ok (some code) ∧
      SourceFile.ofText? .here code = .ok f ∧
      f.variableNames = [text "Open", text "Closed", text "Shut"] ∧ f.variableNames.Nodup ∧
      receivers stringTail (code.splitOn '\n') = [text "Door", text "Hatch"] := by
  intro r
  have directives : ∀ typeName ∈ r.typeNames, ∀ type,
      passages.find? typeName = .ok (some type) → type.IsDirected :=
    fun _ asked _ found => TypeInfo.isDirected_of_find? (by decide +kernel) asked found
  obtain ⟨_, answered, some⟩ := exists_ok_of_any
    (x := (fresh.run passages r).2) (p := Option.isSome) (by decide +kernel)
  obtain ⟨code, rfl⟩ := Option.isSome_iff_exists.1 some
  obtain ⟨types, f, declared, read, -, -, names, -, distinct, strings, -⟩ :=
    run_declared isNamed_passages directives answered .here
  have found : r.typeNames.mapM passages.find? =
      .ok [passages.types[0]?, passages.types[2]?] := by decide +kernel
  obtain rfl : types = [passages.types[0], passages.types[2]] :=
    List.map_injective_iff.2 (fun _ _ => Option.some.inj)
      (Except.ok.inj (declared.symm.trans found))
  exact ⟨isNamed_passages, directives, code, f, answered, read, names.trans (by decide +kernel),
    distinct.2 (by decide +kernel), strings⟩

/-- A name is declared again for another type, and all is declared again for a repeated type. -/
theorem run_passages :
    let r := passagesRequest [text "Door", text "Gate", text "Gate"]
    ∃ (code : Text) (f : SourceFile), (fresh.run passages r).2 = .ok (some code) ∧
      SourceFile.ofText? .here code = .ok f ∧
      f.variableNames = [text "Open", text "Closed", text "Open", text "Open"] ∧
      ¬ f.variableNames.Nodup ∧
      receivers stringTail (code.splitOn '\n') = [text "Door", text "Gate", text "Gate"] ∧
      ¬ (receivers stringTail (code.splitOn '\n')).Nodup := by
  intro r
  have directives : ∀ typeName ∈ r.typeNames, ∀ type,
      passages.find? typeName = .ok (some type) → type.IsDirected :=
    fun _ asked _ found => TypeInfo.isDirected_of_find? (by decide +kernel) asked found
  obtain ⟨_, answered, some⟩ := exists_ok_of_any
    (x := (fresh.run passages r).2) (p := Option.isSome) (by decide +kernel)
  obtain ⟨code, rfl⟩ := Option.isSome_iff_exists.1 some
  obtain ⟨casing, -, generated⟩ := run_eq_some_iff.1 answered
  obtain ⟨types, f, declared, read, -, -, names, -, strings, -⟩ :=
    Source.declares_of_generate isNamed_passages directives generated .here
  have found : r.typeNames.mapM passages.find? =
      .ok [passages.types[0]?, passages.types[1]?, passages.types[1]?] := by decide +kernel
  obtain rfl : types = [passages.types[0], passages.types[1], passages.types[1]] :=
    List.map_injective_iff.2 (fun _ _ => Option.some.inj)
      (Except.ok.inj (declared.symm.trans found))
  have known : f.variableNames = [text "Open", text "Closed", text "Open", text "Open"] :=
    names.trans (by decide +kernel)
  refine ⟨code, f, answered, read, known, ?_, strings, ?_⟩
  · rw [known]
    decide
  · rw [strings]
    decide

end Generator

end EnumText
