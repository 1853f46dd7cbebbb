import EnumText.Proofs.Declaration.Naming
import EnumText.Proofs.Directive.Values
import EnumText.Proofs.Enumeration.LineEnds
import EnumText.Proofs.Generation.Answers
import EnumText.Proofs.Package.Loading

/-!
# Code that can be read

Neither the names that directives give to instances nor the values that they give to fields are
checked. Where the names of a source and of its directives are identifiers, and the values are
expressions, what is generated for its types is read as it was written.

* `Source.IsNamed`: a source as the files of a package give it.
* `TypeInfo.IsDirected`: a type whose directives are in order.
* `Source.readable_of_enumeration`: what is generated for one type.
* `Source.ofText?_of_generated`: the generated file.
-/

namespace EnumText

/-- A source whose package, types, fields and variables have identifiers for their names. -/
structure Source.IsNamed (s : Source) : Prop where
  package : s.package.isName = true
  types : ∀ type ∈ s.types, type.IsNamed
  bindings : ∀ b ∈ s.bindings, ∀ name ∈ b.names, name.isName = true

/-- The directives of a type name instances by identifiers, and give declared fields values that are
expressions in a file. Those of strings are quoted, whatever they are. -/
def TypeInfo.IsDirected (type : TypeInfo) : Prop :=
  ∀ i ∈ Source.directed type, i.name.isName = true ∧ ∀ f ∈ type.fields, f.kind ≠ .string →
    ∀ value ∈ i.fields.get? f.name, value.unifyNewlines.IsExpression

instance (type : TypeInfo) : Decidable type.IsDirected :=
  inferInstanceAs
    (Decidable (∀ i ∈ Source.directed type, _ ∧ ∀ f ∈ type.fields, _ → ∀ value ∈ _, _))

/-- The directives of the types that are asked for can be checked type by type. -/
theorem TypeInfo.isDirected_of_find? {s : Source} {typeNames : List Text} {typeName : Text}
    {type : TypeInfo}
    (each : ∀ typeName ∈ typeNames,
      (s.find? typeName).toOption.all (·.all (decide ·.IsDirected)) = true)
    (asked : typeName ∈ typeNames) (found : s.find? typeName = .ok (some type)) :
    type.IsDirected := by
  have known := each typeName asked
  rw [found] at known
  exact of_decide_eq_true known

/-! ## Packages -/

namespace Package

variable {pkg : Package}

/-- The source of a package has names. -/
theorem isNamed_source {t : FileTree} {p : Path} (loaded : (load t p).outcome = .ok pkg) :
    pkg.source.IsNamed := by
  obtain ⟨paths, -, -, -, -, read, named⟩ := load_eq_ok_iff.1 loaded
  have files : ∀ f ∈ pkg.files, f.IsNamed := by
    intro f mem
    obtain ⟨file, -, found⟩ := exists_of_mem_mapM read f mem
    obtain ⟨content, -, -, parsed⟩ := readFile_eq_ok_iff.1 found
    exact SourceFile.isNamed_of_ofText? parsed
  refine ⟨?_, fun type mem => ?_, fun b mem => ?_⟩
  · obtain ⟨some, same⟩ := packageNames_eq_singleton_iff.1 named
    obtain ⟨f, mem⟩ := List.exists_mem_of_ne_nil _ some
    have package : pkg.source.package = f.package := (same f mem).symm
    rw [package]
    exact (files f mem).package
  · obtain ⟨f, inside, declared⟩ := List.mem_flatMap.1 mem
    obtain ⟨d, own, rfl⟩ := List.mem_map.1 declared
    exact (files f inside).types d own
  · obtain ⟨f, inside, declared⟩ := List.mem_flatMap.1 mem
    exact (files f inside).bindings b declared

end Package

/-! ## Types -/

namespace Source

variable {s : Source} (named : s.IsNamed)

include named

theorem isName_of_mem_scan {typeName : Text} {fields : List Field} {i : Instance}
    (mem : i ∈ s.scan typeName fields) : i.name.isName = true := by
  obtain ⟨b, bound, made⟩ := List.mem_flatMap.1 mem
  obtain ⟨name, c, pair, -, rfl⟩ := Binding.mem_instancesOf_iff.1 made
  exact named.bindings b bound name (List.of_mem_zip pair).1

/-- What is generated for a type can be read, and has no line ends in its values. -/
theorem readable_of_enumeration {form : TextForm} {typeName : Text} {e : Enumeration}
    (directives : ∀ type, s.find? typeName = .ok (some type) → type.IsDirected)
    (h : (s.enumeration form typeName).outcome = .ok e) : e.Readable ∧ e.Flat := by
  obtain ⟨type, r, declared, resolved, -, rfl, check⟩ := enumeration_eq_ok_iff.1 h
  obtain ⟨mem, rfl, distinct⟩ := find?_eq_some declared
  obtain ⟨name, fields⟩ := named.types type mem
  obtain ⟨texts, read, -⟩ := Enumeration.check_eq_ok_iff.1 check
  rw [resolve_eq_ok_iff] at resolved
  split at resolved
  · obtain ⟨-, -, rfl⟩ := resolved
    exact ⟨⟨name, fun i mem => isName_of_mem_scan named mem, exists_eq_ok_of_mapM read,
      fun generated => nomatch generated⟩, fun generated => nomatch generated⟩
  · obtain ⟨-, rfl⟩ := resolved
    have directed := directives type declared
    have values : ∀ i ∈ Source.directed type, ∀ f ∈ type.fields, ∀ value ∈ i.fields.get? f.name,
        value.IsExpression ∧ .scalar '\r' ∉ value := by
      intro i made f own value set
      by_cases string : f.kind = .string
      · obtain ⟨v, rfl⟩ := Directive.exists_eq_quote distinct made own string set
        exact ⟨Literal.isExpression_quote v, (Literal.oneLine_quote v).1⟩
      · exact Text.isExpression_unifyNewlines_iff.1 ((directed i made).2 f own string value set)
    have names : ∀ i ∈ Source.directed type, i.name.isName = true :=
      fun i made => (directed i made).1
    refine ⟨⟨name, names, exists_eq_ok_of_mapM read, fun _ => ⟨name, names, fields, distinct, ?_,
      exists_eq_ok_of_mapM read⟩⟩, ?_⟩
    · exact fun i made f own value set => (values i made f own value set).1
    · exact fun _ i made f own value set => (values i made f own value set).2

variable {form : TextForm} {typeNames : List Text} {enumerations : List Enumeration}
  (directives : ∀ typeName ∈ typeNames, ∀ type,
    s.find? typeName = .ok (some type) → type.IsDirected)
  (found : typeNames.mapM (fun typeName => (s.enumeration form typeName).outcome) =
    .ok enumerations)

include directives found

theorem readable_of_enumerations : ∀ e ∈ enumerations, e.Readable ∧ e.Flat := by
  intro e mem
  obtain ⟨typeName, asked, here⟩ := exists_of_mem_mapM found e mem
  exact readable_of_enumeration named (directives typeName asked) here

/-- The code that is generated for types is read as it is written, and declares the variables of the
enumerations. -/
theorem ofText?_of_generated {code : Text} (made : codeFile? s.package enumerations = .ok code) :
    code.unifyNewlines = code ∧ ∀ file,
      SourceFile.ofText? file code = .ok ⟨s.package, [], enumerations.flatMap (·.bindings)⟩ := by
  have each := readable_of_enumerations named directives found
  have readable : ∀ e ∈ enumerations, e.Readable := fun e mem => (each e mem).1
  exact ⟨unifyNewlines_codeFile named.package readable (fun e mem => (each e mem).2) made,
    ofText?_codeFile?_of_readable named.package readable made⟩

end Source

end EnumText
