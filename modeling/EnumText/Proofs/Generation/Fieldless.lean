import EnumText.Proofs.Directive.Values
import EnumText.Proofs.Enumeration.Reading
import EnumText.Proofs.Generation.Refusals
import EnumText.Proofs.Generation.Writing
import EnumText.Proofs.Package.Declared

/-!
# Types without fields

What a type is underneath is not looked at: code is generated for a type of integers, of slices or
of functions as for any other type. Only a struct type has fields, so the variables that directives
define for another type are all declared with the empty composite literal. Where its instances are
variables that stand elsewhere, none of their values is written.

* `fields_eq_nil_of_resolve`: the instances of a type without fields set none.
* `View.lines_of_fieldless`: the lines of the code for such a type.
* `Package.run_fieldless`: the types of a generated file that are no struct types.
-/

namespace EnumText

namespace Source

variable {s : Source} {type : TypeInfo} {r : Resolution}

/-- A type with a resolution has instances. -/
theorem instances_ne_nil_of_resolve (resolved : (s.resolve type).outcome = .ok r) :
    r.instances ≠ [] := by
  have resolved := resolve_eq_ok_iff.1 resolved
  split at resolved
  · obtain ⟨some, -, rfl⟩ := resolved
    exact some
  · next some =>
    obtain ⟨-, rfl⟩ := resolved
    exact some

/-- The instances of a type without fields set none. -/
theorem fields_eq_nil_of_resolve (fieldless : type.fields = [])
    (resolved : (s.resolve type).outcome = .ok r) : ∀ i ∈ r.instances, i.fields = [] := by
  have resolved := resolve_eq_ok_iff.1 resolved
  rw [directed, fieldless] at resolved
  intro i mem
  split at resolved
  · obtain ⟨-, -, rfl⟩ := resolved
    obtain ⟨b, -, inside⟩ := List.mem_flatMap.1 mem
    obtain ⟨name, c, -, -, rfl⟩ := Binding.mem_instancesOf_iff.1 inside
    simp [Composite.fieldValues, Assignments.ofList]
  · obtain ⟨-, rfl⟩ := resolved
    obtain ⟨values, same⟩ := Directive.exists_fields_eq mem
    exact same

/-- No instance of a type without fields passes the check of a marshal field. -/
theorem field?_eq_none_of_resolve {form : TextForm} {owner : Text}
    (fieldless : type.fields = []) (resolved : (s.resolve type).outcome = .ok r)
    (marshal : form.checkField owner r.instances = .ok ()) : form.field? = none := by
  by_contra asked
  obtain ⟨field, asked⟩ := Option.ne_none_iff_exists'.1 asked
  obtain ⟨i, mem⟩ := List.exists_mem_of_ne_nil _ (instances_ne_nil_of_resolve resolved)
  have set := TextForm.checkField_eq_ok_iff.1 marshal field asked i mem
  rw [fields_eq_nil_of_resolve fieldless resolved i mem] at set
  cases set

end Source

namespace Enumeration

/-- The declaration of variables whose values are all the empty composite literal of a type. The
names stand with blanks up to one width. -/
def emptyVariables (typeName : Text) (width : Nat) (names : List Text) : List Text :=
  [[], text "var ("] ++
    names.map (fun name =>
      text "\t" ++ name.padRight width ++ text " = " ++ typeName ++ text "\x7b\x7d") ++
    [text ")"]

/-- The lines of the three methods, in which no value of an instance stands. -/
def View.methods (v : View) : List Text := v.stringMethod ++ v.marshalMethod ++ v.unmarshalMethod

variable {e : Enumeration} {v : View} {texts : List Text}

theorem View.lines_of_fieldless (shows : v.Shows e texts) (fieldless : e.fields = []) :
    v.lines = (if e.generateVars then
      emptyVariables e.typeName e.nameWidth (e.instances.map (·.name)) else []) ++ v.methods := by
  have block : v.varBlock =
      emptyVariables e.typeName e.nameWidth (e.instances.map (·.name)) := by
    have line (i : Instance) : e.variableLineOf i = text "\t" ++ i.name.padRight e.nameWidth ++
        text " = " ++ e.typeName ++ text "\x7b\x7d" := by
      simp only [variableLineOf, Instance.valuesOf, fieldless, List.filterMap_nil]
      simp [Listing.variableLine, Listing.literalText, Listing.elementsText, text]
    rw [varBlock_eq shows, emptyVariables, List.map_map, List.map_congr_left fun i _ => line i]
    rfl
  rw [View.lines, View.methods, shows.generateVars, block, List.append_assoc, List.append_assoc,
    List.append_assoc]

end Enumeration

namespace Package

open Source (directed directedNames)

variable {t : FileTree} {path : Path} {p : Package} {g : Generator} {r : Request}
variable {code typeName : Text}

/-- Code is generated for types that are declared. The first declaration need not be that of a
struct type. If it is not, the type has no fields, and no marshal field is asked for. The lines of
the code for it declare a variable for each instance that its directives define, with the empty
composite literal for its value, before the methods. If it has no directives there are only the
methods, for the instances that are variables of the type. -/
theorem run_fieldless (loaded : (load t path).outcome = .ok p)
    (answered : (g.run p.source r).2 = .ok (some code)) (asked : typeName ∈ r.typeNames) :
    ∃ decl, p.decl? typeName = some decl ∧ (decl.isStruct = false →
      decl.fields = [] ∧ (∀ field, r.marshalField = some field → field = []) ∧
      ∃ (v : Enumeration.View) (before after : Text),
        code = before ++ unlines v.lines ++ after ∧ v.typeName = typeName ∧ v.members ≠ [] ∧
        (directed decl.toTypeInfo ≠ [] →
          v.members.map (·.name) = directedNames decl.toTypeInfo ∧ ∃ width,
            v.lines = Enumeration.emptyVariables typeName width (directedNames decl.toTypeInfo) ++
              v.methods) ∧
        (directed decl.toTypeInfo = [] →
          v.members.map (·.name) = (p.source.scan typeName []).map (·.name) ∧
            v.lines = v.methods)) := by
  obtain ⟨casing, e, v, before, after, -, outcome, view, part⟩ :=
    Generator.exists_part_of_run answered asked
  obtain ⟨type, resolution, found, resolved, marshal, rfl, accepted⟩ :=
    Source.enumeration_eq_ok_iff.1 outcome
  obtain ⟨-, named, -⟩ := Source.find?_eq_some found
  obtain ⟨decl, declared, -, rfl⟩ := find?_source_eq_some_iff.1 found
  refine ⟨decl, declared, fun other => ?_⟩
  have fieldless : decl.fields = [] := by
    by_contra some
    rw [isStruct_of_load loaded declared some] at other
    cases other
  have some := Source.instances_ne_nil_of_resolve resolved
  obtain ⟨texts, read, -⟩ := Enumeration.check_eq_ok_iff.1 accepted
  obtain ⟨v', view', shows⟩ := Enumeration.exists_view read
  cases view.symm.trans view'
  have lines := Enumeration.View.lines_of_fieldless shows fieldless
  have names := shows.names
  refine ⟨fieldless, fun field given => ?_, v, before, after, part, ?_, ?_, ?_, ?_⟩
  · have none := Source.field?_eq_none_of_resolve fieldless resolved marshal
    rw [TextForm.field?, Request.form, given, Option.filter_eq_none_iff] at none
    simpa using none
  · rw [shows.typeName]
    exact named
  · intro none
    rw [none] at names
    exact some (List.map_eq_nil_iff.1 names.symm)
  · intro directives
    have resolved := Source.resolve_eq_ok_iff.1 resolved
    rw [if_neg directives] at resolved
    obtain ⟨-, rfl⟩ := resolved
    rw [← named]
    exact ⟨names, _, lines⟩
  · intro none
    have resolved := Source.resolve_eq_ok_iff.1 resolved
    rw [if_pos none] at resolved
    obtain ⟨-, -, rfl⟩ := resolved
    rw [← named, ← fieldless]
    exact ⟨names, lines⟩

/-- A file with a struct type, a type of integers with directives, and one with a variable. -/
def plainDoors : FileTree where
  workingDirectory := []
  nodes := [([text "p"], .directory), ([text "p", text "door.go"], .file (text (
    "package p\n\n// enumr:Oak Width:90\ntype Door struct \x7b\n\tWidth int\n\x7d\n\n" ++
      "// enumr:Open\n// enumr:Closed\ntype Status int\n\n" ++
      "type Level uint8\n\nvar Low = Level\x7b1\x7d\n")))]

/-- A request for all of them. -/
def plainDoorsRequest : Request where
  typeNames := [text "Door", text "Status", text "Level"]
  format := text "snake_case"
  marshalField := none
  allowZero := true

/-- The package of the file is loaded, and all types have code. -/
theorem exists_load_plainDoors :
    ∃ p code, (load plainDoors ⟨.relative, [text "p"]⟩).outcome = .ok p ∧
      (Generator.fresh.run p.source plainDoorsRequest).2 = .ok (some code) ∧
      (∃ decl, p.decl? (text "Status") = some decl ∧ decl.isStruct = false ∧
        directedNames decl.toTypeInfo = [text "Open", text "Closed"]) ∧
      ∃ decl, p.decl? (text "Level") = some decl ∧ decl.isStruct = false ∧
        directed decl.toTypeInfo = [] := by
  have evaluated : (load plainDoors ⟨.relative, [text "p"]⟩).outcome.toOption.any (fun p =>
      (Generator.fresh.run p.source plainDoorsRequest).2.toOption.any Option.isSome &&
        ((p.decl? (text "Status")).any fun decl => decl.isStruct = false ∧
          directedNames decl.toTypeInfo = [text "Open", text "Closed"]) &&
        (p.decl? (text "Level")).any fun decl => decl.isStruct = false ∧
          directed decl.toTypeInfo = []) = true := by decide +kernel
  obtain ⟨p, loaded, evaluated⟩ := exists_ok_of_any evaluated
  simp only [Bool.and_eq_true, Option.any_eq_true, decide_eq_true_eq] at evaluated
  obtain ⟨⟨coded, status⟩, level⟩ := evaluated
  obtain ⟨_, answered, some⟩ := exists_ok_of_any ((Option.any_eq_true _ _).2 coded)
  obtain ⟨code, rfl⟩ := Option.isSome_iff_exists.1 some
  exact ⟨p, code, loaded, answered, status, level⟩

theorem run_fieldless_plainDoors :
    ∃ p code, (load plainDoors ⟨.relative, [text "p"]⟩).outcome = .ok p ∧
      (Generator.fresh.run p.source plainDoorsRequest).2 = .ok (some code) ∧
      text "Status" ∈ plainDoorsRequest.typeNames ∧ text "Level" ∈ plainDoorsRequest.typeNames ∧
      (∃ (v : Enumeration.View) (width : Nat) (before after : Text),
        code = before ++ unlines v.lines ++ after ∧
        v.lines = Enumeration.emptyVariables (text "Status") width [text "Open", text "Closed"] ++
          v.methods) ∧
      ∃ (v : Enumeration.View) (before after : Text),
        code = before ++ unlines v.lines ++ after ∧ v.members ≠ [] ∧ v.lines = v.methods := by
  obtain ⟨p, code, loaded, answered, ⟨status, declared, plain, names⟩, level, declared', plain',
    none⟩ := exists_load_plainDoors
  have asked : text "Status" ∈ plainDoorsRequest.typeNames := by decide
  have asked' : text "Level" ∈ plainDoorsRequest.typeNames := by decide
  refine ⟨p, code, loaded, answered, asked, asked', ?_, ?_⟩
  · obtain ⟨decl, found, shown⟩ := run_fieldless loaded answered asked
    cases declared.symm.trans found
    obtain ⟨-, -, v, before, after, part, -, -, directives, -⟩ := shown plain
    have nonempty : directed status.toTypeInfo ≠ [] := by
      intro none
      rw [directedNames, none] at names
      cases names
    obtain ⟨-, width, lines⟩ := directives nonempty
    exact ⟨v, width, before, after, part, names ▸ lines⟩
  · obtain ⟨decl, found, shown⟩ := run_fieldless loaded answered asked'
    cases declared'.symm.trans found
    obtain ⟨-, -, v, before, after, part, -, some, -, scanned⟩ := shown plain'
    exact ⟨v, before, after, part, some, (scanned none).2⟩

/-- Code is generated for other types than struct types. -/
theorem run_plainDoors :
    ¬ ∀ t path p g r code typeName, (load t path).outcome = .ok p →
      (Generator.run g p.source r).2 = .ok (some code) → typeName ∈ r.typeNames →
      ∃ decl, p.decl? typeName = some decl ∧ decl.isStruct = true := by
  intro all
  obtain ⟨p, code, loaded, answered, ⟨status, declared, other, -⟩, -⟩ := exists_load_plainDoors
  have asked : text "Status" ∈ plainDoorsRequest.typeNames := by decide
  obtain ⟨decl, declared', isStruct⟩ := all _ _ _ _ _ _ _ loaded answered asked
  cases declared.symm.trans declared'
  rw [other] at isStruct
  cases isStruct

end Package

end EnumText
