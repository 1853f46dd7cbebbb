import EnumText.Proofs.Composite
import EnumText.Proofs.Declaration.Groups
import EnumText.Proofs.Enumeration.Decoding
import EnumText.Proofs.Enumeration.Methods
import EnumText.Resolution

/-!
# The generated code is read back

`Writable` describes the enumerations whose values can be read, `Readable` those whose code can, and
`bindings` the variables that the code declares for one. Its methods are passed over, and its values
come back as they were written.

* `yields_code`: the code of an enumeration declares its variables.
* `ofText?_of_packaged`: a file is read from its tokens.
* `scan_eq`: the instances of a type are found among the variables.
* `ofText?_codeFile?`: generating and reading are inverse on the variables.
-/

namespace EnumText

open Declaration
open Listing

/-! ## Variables -/

/-- The values that an instance gives to declared fields, in the order of the fields. -/
def Instance.valuesOf (i : Instance) (fields : List Field) : List (Text × Text) :=
  fields.filterMap fun f => (i.fields.get? f.name).map (f.name, ·)

theorem Instance.initializer_eq (i : Instance) (fields : List Field) :
    i.initializer fields = elementsText (i.valuesOf fields) := by
  rw [initializer, elementsText, valuesOf, List.map_filterMap]
  simp only [Option.map_map]
  rfl

namespace Enumeration

/-- The variable of an instance: its value is a literal of the type, with an element for each
declared field that the instance sets. -/
def bindingOf (e : Enumeration) (i : Instance) : Binding :=
  ⟨[i.name], [some ⟨e.typeName, elementsOf (i.valuesOf e.fields)⟩]⟩

/-- The variables that are declared for an enumeration. -/
def bindings (e : Enumeration) : List Binding :=
  if e.generateVars then e.instances.map e.bindingOf else []

/-- An enumeration whose names are identifiers and whose values of fields are expressions, and all
of whose instances have a text. -/
structure Writable (e : Enumeration) : Prop where
  typeName : e.typeName.isName = true
  names : ∀ i ∈ e.instances, i.name.isName = true
  fields : ∀ f ∈ e.fields, f.name.isName = true
  distinct : (e.fields.map (·.name)).Nodup
  values : ∀ i ∈ e.instances, ∀ f ∈ e.fields, ∀ value ∈ i.fields.get? f.name, value.IsExpression
  texts : ∀ i ∈ e.instances, ∃ t, e.text? i = .ok t

/-- An enumeration whose methods can be read, and its variables too if they are declared. -/
structure Readable (e : Enumeration) : Prop where
  typeName : e.typeName.isName = true
  names : ∀ i ∈ e.instances, i.name.isName = true
  texts : ∀ i ∈ e.instances, ∃ t, e.text? i = .ok t
  writable : e.generateVars = true → e.Writable

variable {e : Enumeration} {v : View} {texts : List Text} {more : Text} {later : List Binding}

theorem Writable.readable (h : e.Writable) : e.Readable :=
  ⟨h.typeName, h.names, h.texts, fun _ => h⟩

theorem Writable.elements (h : e.Writable) {i : Instance} (mem : i ∈ e.instances) :
    ∀ p ∈ i.valuesOf e.fields, p.1.isName = true ∧ p.2.IsExpression := by
  intro p inside
  rcases List.mem_filterMap.1 inside with ⟨f, declared, set⟩
  rcases Option.map_eq_some_iff.1 set with ⟨value, found, rfl⟩
  exact ⟨h.fields f declared, h.values i mem f declared value found⟩

theorem Readable.plain (h : e.Readable) (shows : v.Shows e texts) : v.Plain where
  typeName := by
    rw [shows.typeName]
    exact h.typeName
  names m mem := by
    rcases shows.exists_instance mem with ⟨i, inside, same⟩
    rw [same]
    exact h.names i inside
  encodings _ mem := shows.exists_encoding mem
  decodeKeys _ mem := shows.exists_decodeKey mem

/-- The line that declares the variable of an instance. -/
def variableLineOf (e : Enumeration) (i : Instance) : Text :=
  variableLine e.nameWidth i.name e.typeName (i.valuesOf e.fields)

theorem varBlock_eq (shows : v.Shows e texts) : v.varBlock =
    [] :: text "var (" :: (e.instances.map e.variableLineOf ++ [text ")"]) := by
  have lines : v.members.map (fun m => text "\t" ++ m.paddedName ++ text " = " ++ m.initializer) =
      e.instances.map e.variableLineOf := by
    have both := congrArg₂ (List.zipWith fun padded initializer : Text =>
      text "\t" ++ padded ++ text " = " ++ initializer) shows.paddedNames shows.initializers
    simp only [List.zipWith_map, List.zipWith_self, Instance.initializer_eq] at both
    exact both
  rw [View.varBlock, lines]
  rfl

theorem yields_varBlock (h : e.Writable) (shows : v.Shows e texts)
    (below : Yields false more (Declares later)) :
    Yields false (unlines v.varBlock ++ more)
      (Declares (e.instances.map e.bindingOf ++ later)) := by
  have lines (instances : List Instance) (sub : ∀ i ∈ instances, i ∈ e.instances) :
      Yields false (unlines (instances.map e.variableLineOf ++ [text ")"]) ++ more)
        (Grouping (instances.map e.bindingOf) (Declares later)) := by
    induction instances with
    | nil =>
      have closing := Yields.groupClosing below
      simpa [unlines] using closing
    | cons i instances ih =>
      rcases List.forall_mem_cons.1 sub with ⟨inside, others⟩
      rw [List.map_cons, List.cons_append, unlines_cons, List.append_assoc, List.append_assoc]
      exact Yields.variableLine (h.names i inside) h.typeName (h.elements inside) (ih others)
  have group := Yields.blankLine (Yields.groupOpening (lines e.instances fun _ mem => mem))
  rw [varBlock_eq shows, unlines_cons, unlines_cons]
  simpa only [List.append_assoc, List.nil_append] using group

theorem yields_code (h : e.Readable) (shows : v.Shows e texts)
    (below : Yields false more (Declares later)) :
    Yields false (v.code ++ more) (Declares (e.bindings ++ later)) := by
  have plain := h.plain shows
  have methods := View.yields_stringMethod plain <| View.yields_marshalMethod plain <|
    View.yields_unmarshalMethod plain below
  rw [View.code, View.lines, unlines_append, unlines_append, unlines_append, List.append_assoc,
    List.append_assoc, List.append_assoc, shows.generateVars, bindings]
  split
  · next generated => exact yields_varBlock (h.writable generated) shows methods
  · exact methods

end Enumeration

/-! ## Files -/

variable {enumerations : List Enumeration} {package : Text}

theorem yields_codes_of_readable (readable : ∀ e ∈ enumerations, e.Readable) :
    ∃ views, enumerations.mapM Enumeration.view? = .ok views ∧
      Yields false (views.flatMap Enumeration.View.code)
        (Declares (enumerations.flatMap (·.bindings))) := by
  induction enumerations with
  | nil => exact ⟨[], rfl, yields_nil declares_nil⟩
  | cons e rest ih =>
    rcases List.forall_mem_cons.1 readable with ⟨first, others⟩
    rcases ih others with ⟨views, shown, below⟩
    rcases exists_mapM_eq_ok first.texts with ⟨texts, read⟩
    rcases Enumeration.exists_view read with ⟨v, view, shows⟩
    exact ⟨v :: views, mapM_cons_eq_ok_iff.2 ⟨_, _, view, shown, rfl⟩,
      Enumeration.yields_code first shows below⟩

theorem yields_codes (writable : ∀ e ∈ enumerations, e.Writable) :
    ∃ views, enumerations.mapM Enumeration.view? = .ok views ∧
      Yields false (views.flatMap Enumeration.View.code)
        (Declares (enumerations.flatMap (·.bindings))) :=
  yields_codes_of_readable fun e mem => (writable e mem).readable

/-- The tokens of a file that names its package, and those of what it declares. -/
def Packaged (package : Text) (Q : Listing → List Token → Prop) : Listing → List Token → Prop :=
  After [(.keyword, text "package")] (After [(.identifier, package)]
    (After [(.semicolon, text "\n")] Q))

theorem yields_codeHeader {more : Text} {bindings : List Binding} (name : package.isName = true)
    (below : Yields false more (Declares bindings)) :
    Yields false (codeHeader package ++ more) (Packaged package (Declares bindings)) := by
  have paths : Leads 1 [text "\t\"fmt\"", text "\t\"strings\""] 1 := by
    have fmt : Leads 1 [text "\t\"fmt\""] 1 := leads_line (by decide +kernel)
    have strings : Leads 1 [text "\t\"strings\""] 1 := leads_line (by decide +kernel)
    exact fmt.cons strings
  have closing : Chunk false (text ")") [(.closing .round, text ")")] true := by decide +kernel
  have opening : Chunk false (text "import (")
      [(.keyword, text "import"), (.opening .round, text "(")] false := by decide +kernel
  have imports : Yields false (text "import (" ++ (text "\n" ++
      (unlines [text "\t\"fmt\"", text "\t\"strings\""] ++ (text ")" ++ (text "\n" ++ more)))))
      (Declares bindings) :=
    Yields.statement opening (Lexeme.apart_newline _).soft (by decide +kernel)
      (by decide +kernel) rfl <| Yields.skipNewline (by decide) <|
        paths _ _ (Yields.skipEnd closing below)
  have keyword : Chunk false (text "package ") [(.keyword, text "package")] false := by
    decide +kernel
  have clause := Yields.chunk keyword (.inl ⟨.scalar ' ', rfl, rfl⟩) <|
    Yields.word name (Lexeme.apart_newline _) (Yields.newline (Yields.blankLine imports))
  have marker : text "// Code generated by enumr. DO NOT EDIT." =
      text "//" ++ text " Code generated by enumr. DO NOT EDIT." := by decide +kernel
  have inline : .scalar '\n' ∉ text " Code generated by enumr. DO NOT EDIT." := by decide +kernel
  have whole := Yields.lineComment inline (Yields.blankLine (Yields.blankLine clause))
  rw [codeHeader, headerLines, marker, Packaged]
  simpa [unlines] using whole

/-- The tokens of a file that ends with a line break are those of its text. -/
theorem ofText?_of_packaged {t : Text} {bindings : List Binding} {file : Path}
    (last : t.getLast? = some (.scalar '\n'))
    (h : Yields false t (Packaged package (Declares bindings))) :
    SourceFile.ofText? file t = .ok ⟨package, [], bindings⟩ := by
  obtain ⟨lexemes, cut, all⟩ := h
  have placed := Layout.place_of_last (last_run_of_lines cut (.inr last) .start)
  have listed : ofText? t = .ok ⟨Layout.place .start none lexemes, t⟩ :=
    ofText?_eq_ok_iff.2 ⟨lexemes, cut, rfl⟩
  have found := all ⟨Layout.place .start none lexemes, t⟩ [] none rfl rfl
  obtain ⟨word, _, tokens, isWord, spelling, found₁⟩ := found.one
  obtain ⟨name, _, rfl, isName, rfl, found₂⟩ := found₁.one
  obtain ⟨semicolon, rest, rfl, isEnd, -, below⟩ := found₂.one
  have first : skipSemicolons (Layout.place .start none lexemes).tokens =
      word :: name :: semicolon :: rest := by
    have same : (Layout.run .start none lexemes).tokens = word :: name :: semicolon :: rest :=
      tokens
    rw [placed, same, Listing.skipSemicolons_of_kind (by simp [isWord])]
  have keyword : word.isWord "package" = true := by simp [Token.isWord, isWord, spelling]
  exact SourceFile.ofText?_eq_ok_iff.2 ⟨_, listed, SourceFile.ofListing?_eq_ok_iff.2
    ⟨word, name, _, [], bindings, first, keyword, isName, (below.semicolon isEnd).declarations,
      rfl⟩⟩

/-- The generated file of enumerations that can be read declares their variables. -/
theorem ofText?_codeFile?_of_readable (name : package.isName = true)
    (readable : ∀ e ∈ enumerations, e.Readable) {code : Text}
    (written : codeFile? package enumerations = .ok code) (file : Path) :
    SourceFile.ofText? file code = .ok ⟨package, [], enumerations.flatMap (·.bindings)⟩ := by
  rcases yields_codes_of_readable readable with ⟨views, shown, below⟩
  rcases bind_eq_ok_iff.1 written with ⟨_, shown', same⟩
  rw [shown] at shown'
  cases shown'
  cases same
  refine ofText?_of_packaged ?_ (yields_codeHeader name below)
  have codes : views.flatMap Enumeration.View.code = _ := (unlines_flatMap _ views).symm
  rw [codes, codeHeader, ← unlines_append]
  exact getLast?_unlines (by simp [headerLines])

/-! ## Instances -/

namespace Enumeration

variable {e : Enumeration} {typeName : Text} {fields : List Field}

/-- The literal of an instance gives the declared fields the values of the instance. -/
theorem fieldValues_valuesOf (distinct : (fields.map (·.name)).Nodup) (i : Instance) :
    (Composite.mk typeName (elementsOf (i.valuesOf fields))).fieldValues fields =
      i.valuesOf fields := by
  have keys : ((i.valuesOf fields).map Prod.fst).Sublist (fields.map (·.name)) := by
    refine Assignments.keys_filterMap_sublist (·.name) (fun f p set => ?_) fields
    rcases Option.map_eq_some_iff.1 set with ⟨value, -, rfl⟩
    rfl
  have declared : ∀ p ∈ i.valuesOf fields, decide (p.1 ∈ fields.map (·.name)) = true :=
    fun p mem => decide_eq_true (keys.subset (List.mem_map_of_mem mem))
  rw [Composite.fieldValues_elementsOf, List.filter_eq_self.2 declared,
    Assignments.ofList_of_nodup (keys.nodup distinct)]

theorem flatMap_ite {α β : Type} (p : α → Bool) (f : α → List β) (xs : List α) :
    (xs.flatMap fun x => if p x then f x else []) = (xs.filter p).flatMap f := by
  induction xs with
  | nil => rfl
  | cons x xs ih =>
    rw [List.flatMap_cons, ih, List.filter_cons]
    split <;> rfl

/-- The variable of an instance is an instance of its own type and of no other. -/
theorem instancesOf_bindingOf (o : Enumeration) (i : Instance) :
    (o.bindingOf i).instancesOf typeName fields =
      if o.typeName = typeName then
        [⟨i.name, (Composite.mk o.typeName (elementsOf (i.valuesOf o.fields))).fieldValues fields,
          .scan⟩]
      else [] := by
  simp only [Binding.instancesOf, bindingOf, List.zip_cons_cons, List.zip_nil_left,
    List.filterMap_cons, List.filterMap_nil, Option.bind_some]
  by_cases same : o.typeName = typeName
  · rw [if_pos same, if_pos same]
  · rw [if_neg same, if_neg same]

/-- The instances of a type are those of the enumerations of this name that ask for variables. -/
theorem flatMap_instancesOf (o : Enumeration) :
    o.bindings.flatMap (Binding.instancesOf typeName fields) =
      if o.generateVars && o.typeName = typeName then
        o.instances.map fun i =>
          ⟨i.name, (Composite.mk o.typeName (elementsOf (i.valuesOf o.fields))).fieldValues fields,
            .scan⟩
      else [] := by
  rw [bindings]
  by_cases generated : o.generateVars = true
  · by_cases same : o.typeName = typeName
    · rw [if_pos generated, if_pos (by simp [generated, same]), List.flatMap_map]
      simp only [instancesOf_bindingOf, if_pos same]
      exact List.flatMap_pure_eq_map _ _
    · rw [if_pos generated, if_neg (by simp [same]), List.flatMap_map]
      simp [instancesOf_bindingOf, if_neg same]
  · rw [if_neg generated, if_neg (by simp [generated])]
    rfl

theorem scan_eq {s : Source} {enumerations : List Enumeration}
    (declared : s.bindings = enumerations.flatMap (·.bindings))
    (distinct : (e.fields.map (·.name)).Nodup)
    (once : enumerations.filter (fun o => o.generateVars && o.typeName = e.typeName) = [e]) :
    s.scan e.typeName e.fields =
      e.instances.map fun i => ⟨i.name, i.valuesOf e.fields, .scan⟩ := by
  rw [Source.scan, declared, List.flatMap_assoc]
  simp only [flatMap_instancesOf]
  rw [flatMap_ite, once, List.flatMap_singleton]
  simp only [fieldValues_valuesOf distinct]

end Enumeration

/-- Generating and reading are inverse on the variables. The generated file of enumerations is read,
and declares its package, no types, and a variable for each instance of the enumerations that ask
for them, in order, whose value is a literal of the type with the values of the declared fields. So
the instances of a type that occurs once are found again, with these values. -/
theorem ofText?_codeFile? (name : package.isName = true)
    (writable : ∀ e ∈ enumerations, e.Writable) (file : Path) :
    ∃ code, codeFile? package enumerations = .ok code ∧
      SourceFile.ofText? file code = .ok ⟨package, [], enumerations.flatMap (·.bindings)⟩ ∧
      ∀ e : Enumeration,
        enumerations.filter (fun o => o.generateVars && o.typeName = e.typeName) = [e] →
        ∀ s : Source, s.bindings = enumerations.flatMap (·.bindings) →
          s.scan e.typeName e.fields =
            e.instances.map fun i => ⟨i.name, i.valuesOf e.fields, .scan⟩ := by
  rcases yields_codes writable with ⟨views, shown, below⟩
  have header := yields_codeHeader name below
  have last : (codeHeader package ++ views.flatMap Enumeration.View.code).getLast? =
      some (.scalar '\n') := by
    have codes : views.flatMap Enumeration.View.code = _ := (unlines_flatMap _ views).symm
    rw [codes, codeHeader, ← unlines_append]
    exact getLast?_unlines (by simp [headerLines])
  refine ⟨_, bind_eq_ok_iff.2 ⟨views, shown, rfl⟩, ofText?_of_packaged last header, ?_⟩
  intro e once s declared
  have mem : e ∈ enumerations := by
    have only : e ∈ [e] := List.mem_singleton_self e
    rw [← once] at only
    exact (List.mem_filter.1 only).1
  exact Enumeration.scan_eq declared (writable e mem).distinct once

/-- A type whose variables are generated, with commas, brackets and a line break in its values. -/
def shade : Enumeration where
  typeName := text "Shade"
  instances := [
    ⟨text "Dim", [(text "steps", text "[]int\x7b1, 2\x7d"),
      (text "label", text "\"a, \\\"b\\n\"")], .directive⟩,
    ⟨text "Bright", [(text "label", text "join(\"(\", x)"), (text "hidden", text ")")],
      .directive⟩]
  casing := .snake
  generateVars := true
  marshalField := some (text "label")
  allowZero := true
  fields := [⟨text "label", text "string"⟩, ⟨text "steps", text "[]int"⟩]

/-- A type whose variables stand elsewhere. -/
def mood : Enumeration where
  typeName := text "Mood"
  instances := [⟨text "Glad", [], .scan⟩]
  casing := .snake
  generateVars := false
  marshalField := none
  allowZero := false
  fields := []

theorem ofText?_codeFile?_shade :
    let dim : Binding := ⟨[text "Dim"], [some ⟨text "Shade",
      [⟨some (text "label"), text "\"a, \\\"b\\n\""⟩,
        ⟨some (text "steps"), text "[]int\x7b1, 2\x7d"⟩]⟩]⟩
    let bright : Binding := ⟨[text "Bright"], [some ⟨text "Shade",
      [⟨some (text "label"), text "join(\"(\", x)"⟩]⟩]⟩
    let source : Source := ⟨text "paint", [], [dim, bright]⟩
    Text.isName (text "paint") = true ∧ (∀ e ∈ [shade, mood], e.Writable) ∧
      (∃ code, codeFile? (text "paint") [shade, mood] = .ok code ∧
        SourceFile.ofText? .here code = .ok ⟨text "paint", [], [dim, bright]⟩) ∧
      [shade, mood].filter (fun o => o.generateVars && o.typeName = shade.typeName) = [shade] ∧
      source.scan shade.typeName shade.fields =
        [⟨text "Dim", [(text "label", text "\"a, \\\"b\\n\""),
            (text "steps", text "[]int\x7b1, 2\x7d")], .scan⟩,
          ⟨text "Bright", [(text "label", text "join(\"(\", x)")], .scan⟩] := by
  intro dim bright source
  have name : Text.isName (text "paint") = true := by decide +kernel
  have shadeWritable : shade.Writable := by
    refine ⟨by decide +kernel, by decide +kernel, by decide +kernel, by decide +kernel,
      by decide +kernel, ?_⟩
    intro i mem
    simp only [shade, List.mem_cons, List.not_mem_nil, or_false] at mem
    rcases mem with rfl | rfl <;> exact ⟨_, rfl⟩
  have moodWritable : mood.Writable := by
    refine ⟨by decide +kernel, by decide +kernel, by decide +kernel, by decide +kernel,
      by decide +kernel, ?_⟩
    intro i mem
    exact ⟨_, rfl⟩
  have writable : ∀ e ∈ [shade, mood], e.Writable :=
    List.forall_mem_cons.2 ⟨shadeWritable, List.forall_mem_singleton.2 moodWritable⟩
  have once : [shade, mood].filter (fun o => o.generateVars && o.typeName = shade.typeName) =
      [shade] := by decide +kernel
  have declared : [shade, mood].flatMap (·.bindings) = [dim, bright] := by decide +kernel
  rcases ofText?_codeFile? name writable .here with ⟨code, generated, read, scanned⟩
  rw [declared] at read
  refine ⟨name, writable, ⟨code, generated, read⟩, once, ?_⟩
  rw [scanned shade once source declared.symm]
  decide +kernel

end EnumText
