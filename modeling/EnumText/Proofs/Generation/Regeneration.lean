import EnumText.Proofs.Generation.Readable

/-!
# Code that is generated again

The generated file is part of the package on the next run. It declares no types, and its variables
are instances of types that have directives, which count instead of variables. So it changes no type
that is asked for, and the same request is answered with the same code.

* `Source.Extends`: a source with further variables.
* `Extends.enumeration`: variables of other types do not change an enumeration.
* `Package.exists_load_generated`: the package with its generated file.
* `Generator.run_regenerated`: generating again.
-/

namespace EnumText

/-! ## Further variables -/

namespace Source

variable {s s' : Source} {form : TextForm} {typeName : Text} {e : Enumeration}
  {before more after : List Binding}

/-- A source that declares what another declares, and further variables among the others. -/
structure Extends (s' s : Source) (before more after : List Binding) : Prop where
  package : s'.package = s.package
  types : s'.types = s.types
  old : s.bindings = before ++ after
  new : s'.bindings = before ++ more ++ after

theorem Extends.find? (h : s'.Extends s before more after) :
    s'.find? typeName = s.find? typeName := by
  rw [Source.find?, Source.find?, h.types]

/-- Variables that are instances of no type without directives do not count. -/
theorem Extends.enumeration (h : s'.Extends s before more after)
    (apart : ∀ type, s.find? typeName = .ok (some type) → directed type = [] →
      more.flatMap (Binding.instancesOf type.name type.fields) = [])
    (found : (s.enumeration form typeName).outcome = .ok e) :
    (s'.enumeration form typeName).outcome = .ok e := by
  obtain ⟨type, r, declared, resolved, rest⟩ := enumeration_eq_ok_iff.1 found
  refine enumeration_eq_ok_iff.2 ⟨type, r, h.find?.trans declared, ?_, rest⟩
  rw [resolve_eq_ok_iff] at resolved ⊢
  split at resolved
  · next none =>
    have same : s'.scan type.name type.fields = s.scan type.name type.fields := by
      rw [scan, scan, h.old, h.new, List.flatMap_append, List.flatMap_append, List.flatMap_append,
        apart type declared none, List.append_nil]
    rw [if_pos none, same]
    exact resolved
  · next some =>
    rw [if_neg some]
    exact resolved

/-- The variables that are declared for types with directives are no instances of other types. -/
theorem instancesOf_bindings {typeNames : List Text} {enumerations : List Enumeration}
    (found : typeNames.mapM (fun typeName => (s.enumeration form typeName).outcome) =
      .ok enumerations) {type : TypeInfo} (declared : s.find? typeName = .ok (some type))
    (none : directed type = []) :
    (enumerations.flatMap (·.bindings)).flatMap (Binding.instancesOf type.name type.fields) =
      [] := by
  rw [List.flatMap_assoc, List.flatMap_eq_nil_iff]
  intro o mem
  rw [Enumeration.flatMap_instancesOf, if_neg]
  intro both
  obtain ⟨generated, same⟩ : o.generateVars = true ∧ o.typeName = type.name := by
    simpa using both
  obtain ⟨otherName, -, made⟩ := exists_of_mem_mapM found o mem
  obtain ⟨other, r, otherDeclared, resolved, -, rfl, -⟩ := enumeration_eq_ok_iff.1 made
  obtain ⟨-, rfl, -⟩ := find?_eq_some declared
  obtain ⟨-, rfl, -⟩ := find?_eq_some otherDeclared
  have sameType : other = type := by
    rw [show other.name = type.name from same, declared] at otherDeclared
    cases otherDeclared
    rfl
  subst sameType
  rw [resolve_eq_ok_iff, if_pos none] at resolved
  obtain ⟨-, -, rfl⟩ := resolved
  cases generated

/-- With the variables that are declared for enumerations, the same enumerations are found again. -/
theorem Extends.enumerations {typeNames : List Text} {enumerations : List Enumeration}
    (h : s'.Extends s before (enumerations.flatMap (·.bindings)) after)
    (found : typeNames.mapM (fun typeName => (s.enumeration form typeName).outcome) =
      .ok enumerations) :
    typeNames.mapM (fun typeName => (s'.enumeration form typeName).outcome) = .ok enumerations :=
  mapM_eq_ok_of_imp (fun _ _ made => h.enumeration
    (fun _ declared none => instancesOf_bindings found declared none) made) found

end Source

/-! ## Packages -/

namespace Package

variable {pkg : Package}

/-- The package of a directory into which code is written that was generated for it: the code stands
among the other files, declares no type, and has the variables of the enumerations. -/
theorem exists_load_generated {t t' : FileTree} {p : Path} {form : TextForm} {typeNames : List Text}
    {enumerations : List Enumeration} {name code : Text} (loaded : (load t p).outcome = .ok pkg)
    (found : typeNames.mapM (fun typeName => (pkg.source.enumeration form typeName).outcome) =
      .ok enumerations) (made : codeFile? pkg.name enumerations = .ok code)
    (scalar : code.isScalar = true)
    (directives : ∀ typeName ∈ typeNames, ∀ type,
      pkg.source.find? typeName = .ok (some type) → type.IsDirected)
    (isSource : isSourceName name = true)
    (absent : t.exists? ⟨pkg.directory.start, pkg.directory.parts ++ [name]⟩ = .ok false)
    (written : t.write ⟨pkg.directory.start, pkg.directory.parts ++ [name]⟩ code = .ok t') :
    ∃ pkg' before after, (load t' p).outcome = .ok pkg' ∧
      pkg'.source.Extends pkg.source before (enumerations.flatMap (·.bindings)) after := by
  obtain ⟨lines, read⟩ := Source.ofText?_of_generated (isNamed_source loaded) directives found made
  obtain ⟨here, located⟩ := exists_place_of_load loaded
  obtain ⟨place, locatedFile, fresh, rfl⟩ := FileTree.exists_put_of_write absent written
  have down : name ≠ text ".." := by
    rintro rfl
    exact absurd isSource (by decide)
  obtain rfl := FileTree.locate_name located locatedFile down
  have file := readFile_eq_ok_iff.2 ⟨code, FileTree.read_put_self fresh code locatedFile, scalar,
    lines.symm ▸ read _⟩
  obtain ⟨before, after, files, again⟩ := exists_load_put loaded isSource located fresh file rfl
  exact ⟨_, before.flatMap (·.bindings), after.flatMap (·.bindings), again, rfl,
    by simp [source, files], by simp [source, files], by simp [source]⟩

end Package

/-- Generating again changes nothing. Where a package is loaded and a request is answered with code
without stray bytes, and the directives of the types that are asked for name instances and give
fields expressions, the package is loaded again after the code is written to a new source file of
its directory. It has the same name, and the same request is answered with the same code. -/
theorem Generator.run_regenerated {t t' : FileTree} {p : Path} {pkg : Package} {g : Generator}
    {r : Request} {name code : Text} (loaded : (Package.load t p).outcome = .ok pkg)
    (answered : (g.run pkg.source r).2 = .ok (some code)) (scalar : code.isScalar = true)
    (directives : ∀ typeName ∈ r.typeNames, ∀ type,
      pkg.source.find? typeName = .ok (some type) → type.IsDirected)
    (isSource : Package.isSourceName name = true)
    (absent : t.exists? ⟨pkg.directory.start, pkg.directory.parts ++ [name]⟩ = .ok false)
    (written : t.write ⟨pkg.directory.start, pkg.directory.parts ++ [name]⟩ code = .ok t') :
    ∃ pkg', (Package.load t' p).outcome = .ok pkg' ∧ pkg'.name = pkg.name ∧
      ∀ g' : Generator, (g'.run pkg'.source r).2 = .ok (some code) := by
  obtain ⟨casing, parsed, generated⟩ := Generator.run_eq_some_iff.1 answered
  obtain ⟨enumerations, found, some, file⟩ := Source.generate_eq_some_iff.1 generated
  obtain ⟨pkg', before, after, again, longer⟩ := Package.exists_load_generated loaded found file
    scalar directives isSource absent written
  refine ⟨pkg', again, longer.package, fun g' => Generator.run_eq_some_iff.2 ⟨casing, parsed,
    Source.generate_eq_some_iff.2 ⟨enumerations, longer.enumerations found, some, ?_⟩⟩⟩
  rw [longer.package]
  exact file

/-- A directory with a file that has a type with directives, and one whose instance is a
variable. -/
def cards : FileTree where
  workingDirectory := []
  nodes := [([text "p"], .directory), ([text "p", text "card.go"], .file (text (
    "package cards\n\n// enumr:Ace Rank:1 Name:\"a \\\"b\\\"\"\n" ++
    "// enumr:King Rank:\"max(1, 2)\"\n" ++
    "type Card struct \x7b\n\tRank int\n\tName string\n\x7d\n\n" ++
    "type Suit struct \x7b Sign rune \x7d\n\nvar Heart = Suit\x7b'h'\x7d\n")))]

/-- A request for both types. -/
def cardsRequest : Request where
  typeNames := [text "Suit", text "Card"]
  format := text "snake_case"
  marshalField := none
  allowZero := true

/-- The package of the directory. -/
def cardsPackage : Package where
  name := text "cards"
  directory := ⟨.relative, [text "p"]⟩
  files := [⟨text "cards", [⟨⟨text "Card", [text "// enumr:Ace Rank:1 Name:\"a \\\"b\\\"\"",
      text "// enumr:King Rank:\"max(1, 2)\""],
      [⟨text "Rank", text "int"⟩, ⟨text "Name", text "string"⟩]⟩, true, 5⟩,
    ⟨⟨text "Suit", [], [⟨text "Sign", text "rune"⟩]⟩, true, 10⟩],
    [⟨[text "Heart"], [some ⟨text "Suit", [⟨none, text "'h'"⟩]⟩]⟩]⟩]

/-- The package is loaded, and the request for its types, whose directives are in order, is answered
with code without stray bytes. -/
theorem Generator.exists_run_cards :
    (Package.load cards ⟨.relative, [text "p"]⟩).outcome = .ok cardsPackage ∧
      (∀ typeName ∈ cardsRequest.typeNames, ∀ type,
        cardsPackage.source.find? typeName = .ok (some type) → type.IsDirected) ∧
      ∃ code, (fresh.run cardsPackage.source cardsRequest).2 = .ok (some code) ∧
        code.isScalar = true := by
  have directed : ∀ typeName ∈ cardsRequest.typeNames,
      (cardsPackage.source.find? typeName).toOption.all (·.all (decide ·.IsDirected)) = true := by
    decide +kernel
  obtain ⟨_, answered, shown⟩ := exists_ok_of_any
    (x := (fresh.run cardsPackage.source cardsRequest).2) (p := (·.any Text.isScalar))
    (by decide +kernel)
  obtain ⟨code, rfl, scalar⟩ := (Option.any_eq_true _ _).1 shown
  refine ⟨eq_ok_of_toOption (by decide +kernel), ?_, code, answered, scalar⟩
  exact fun _ asked _ found => TypeInfo.isDirected_of_find? directed asked found

theorem Generator.run_regenerated_cards :
    let file : Path := ⟨.relative, [text "p", text "enum.go"]⟩
    ∃ code t' pkg', (Package.load cards ⟨.relative, [text "p"]⟩).outcome = .ok cardsPackage ∧
      (fresh.run cardsPackage.source cardsRequest).2 = .ok (some code) ∧
      cards.exists? file = .ok false ∧ cards.write file code = .ok t' ∧
      (Package.load t' ⟨.relative, [text "p"]⟩).outcome = .ok pkg' ∧ pkg'.name = text "cards" ∧
      (fresh.run pkg'.source cardsRequest).2 = .ok (some code) := by
  intro file
  obtain ⟨loaded, directives, code, answered, scalar⟩ := Generator.exists_run_cards
  have absent : cards.exists? file = .ok false := eq_ok_of_toOption (by decide)
  have located : cards.locate file = .ok file.parts := eq_ok_of_toOption (by decide)
  have written := FileTree.write_of_fresh located (by decide) code
  obtain ⟨pkg', again, same, answers⟩ := Generator.run_regenerated loaded answered scalar directives
    (by decide : Package.isSourceName (text "enum.go") = true) absent written
  exact ⟨code, _, pkg', loaded, answered, absent, written, again, same, answers fresh⟩

end EnumText
