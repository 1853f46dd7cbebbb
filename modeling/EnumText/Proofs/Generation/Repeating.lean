import EnumText.Proofs.Generation.Batches
import EnumText.Proofs.Generation.Regeneration
import EnumText.Proofs.Generation.Shadowing
import EnumText.Proofs.OutputFile

/-!
# What a repeated run warns of

A run reads all source files of the package, among them the file that the run before has written.
Its variables are taken for others that have the names of instances. So each type with directives is
told to be in conflict with the code that was generated for it, which the run is about to replace.

* `Source.warnings_generate_of_ok`: the warnings of a run.
* `Source.conflicts_bindings`: the warnings about the variables of generated code.
* `Generator.warnings_repeated`: the warnings of two runs.
-/

namespace EnumText

namespace Source

variable {s : Source} {form : TextForm} {typeName : Text} {typeNames : List Text}

/-! ## One run -/

/-- A type that is found can be enumerated with no other warnings than on its instances. -/
theorem warnings_enumeration_of_ok {e : Enumeration} {type : TypeInfo}
    (found : (s.enumeration form typeName).outcome = .ok e)
    (declared : s.find? typeName = .ok (some type)) :
    Note.warnings (s.enumeration form typeName).notes =
      directiveWarnings type ++ conflicts type s.bindings := by
  obtain ⟨type', r, declared', resolved, marshal, rfl, accepted⟩ := enumeration_eq_ok_iff.1 found
  cases declared.symm.trans declared'
  obtain ⟨-, rfl, -⟩ := find?_eq_some declared
  have resolution : ((s.resolve type).mapError GenerationError.resolution).outcome = .ok r := by
    rw [Report.outcome_mapError, resolved]
    rfl
  have told : (s.enumeration form type.name).notes = [] ++ ((s.resolve type).notes ++
      [.resolved type.name r.instances.length r.generateVars]) := by
    rw [enumeration, declared, Report.notes_bind_of_ok (a := some type) rfl]
    dsimp only
    rw [Report.notes_bind_of_ok resolution, Report.notes_mapError, marshal]
    change _ ++ (_ ++
      (Report.ofExcept ((enumerationOf form type r).check.mapError _) >>= _).notes) = _
    rw [accepted]
    rfl
  rw [← warnings_resolve_of_ok resolved, told, List.nil_append, Note.warnings_append]
  exact List.append_nil _

/-- The warnings of a run that succeeds are those on each of the types in turn. -/
theorem warnings_generate_of_ok {enumerations : List Enumeration} {types : List TypeInfo}
    (found : typeNames.mapM (fun typeName => (s.enumeration form typeName).outcome) =
      .ok enumerations) (declared : typeNames.mapM s.find? = .ok (types.map some)) :
    Note.warnings (s.generate form typeNames).notes =
      types.flatMap fun type => directiveWarnings type ++ conflicts type s.bindings := by
  rw [notes_generate_of_ok (exists_eq_ok_of_mapM found), Note.warnings_flatMap]
  induction typeNames generalizing enumerations types with
  | nil =>
    cases types with
    | nil => rfl
    | cons type types => cases declared
  | cons typeName rest ih =>
    obtain ⟨e, others, first, below, rfl⟩ := mapM_cons_eq_ok_iff.1 found
    obtain ⟨_, _, here, more, same⟩ := mapM_cons_eq_ok_iff.1 declared
    cases types with
    | nil => cases same
    | cons type types =>
      cases same
      rw [List.flatMap_cons, List.flatMap_cons, ih below more,
        warnings_enumeration_of_ok first here]

/-! ## Generated variables -/

theorem conflicts_bindings_of_enumeration {e : Enumeration} {type : TypeInfo}
    (found : (s.enumeration form typeName).outcome = .ok e)
    (declared : s.find? type.name = .ok (some type)) :
    conflicts type e.bindings =
      if typeName = type.name then (directedNames type).map (conflict type) else [] := by
  obtain ⟨other, r, otherDeclared, resolved, -, rfl, -⟩ := enumeration_eq_ok_iff.1 found
  obtain ⟨-, rfl, -⟩ := find?_eq_some otherDeclared
  rw [conflicts, Enumeration.flatMap_instancesOf]
  by_cases same : other.name = type.name
  · -- Both are the first declaration of the name.
    rw [same, declared] at otherDeclared
    cases otherDeclared
    rw [resolve_eq_ok_iff] at resolved
    split at resolved
    · next none =>
      obtain ⟨-, -, rfl⟩ := resolved
      simp [directedNames, none, enumerationOf]
    · obtain ⟨-, rfl⟩ := resolved
      have all : (directedNames type).filter (· ∈ directedNames type) = directedNames type :=
        List.filter_eq_self.2 fun name mem => decide_eq_true mem
      rw [if_pos (by simp [enumerationOf]), if_pos rfl, List.map_map]
      exact congrArg _ all
  · rw [if_neg (by simp [enumerationOf, same]), if_neg same]
    rfl

/-- The variables that are generated for a type with directives are warned of, once for each time
that the type is asked for. -/
theorem conflicts_bindings {enumerations : List Enumeration} {type : TypeInfo}
    (found : typeNames.mapM (fun typeName => (s.enumeration form typeName).outcome) =
      .ok enumerations) (declared : s.find? type.name = .ok (some type)) :
    conflicts type (enumerations.flatMap (·.bindings)) =
      (typeNames.filter (· = type.name)).flatMap fun _ =>
        (directedNames type).map (conflict type) := by
  induction typeNames generalizing enumerations with
  | nil =>
    cases found
    rfl
  | cons typeName rest ih =>
    obtain ⟨e, others, first, below, rfl⟩ := mapM_cons_eq_ok_iff.1 found
    rw [List.flatMap_cons, conflicts_append, ih below,
      conflicts_bindings_of_enumeration first declared, List.filter_cons]
    simp only [decide_eq_true_eq]
    split
    · rw [List.flatMap_cons]
    · rfl

/-- The types of a request are asked for, and found, by their own names. -/
theorem find?_of_mem_types {types : List TypeInfo} {type : TypeInfo}
    (declared : typeNames.mapM s.find? = .ok (types.map some)) (mem : type ∈ types) :
    type.name ∈ typeNames ∧ s.find? type.name = .ok (some type) := by
  obtain ⟨typeName, asked, here⟩ := exists_of_mem_mapM declared _ (List.mem_map_of_mem mem)
  obtain ⟨-, rfl, -⟩ := find?_eq_some here
  exact ⟨asked, here⟩

/-- The warnings about the variables that a run declares for one of its types. -/
def generatedConflicts (typeNames : List Text) (type : TypeInfo) : List Text :=
  (typeNames.filter (· = type.name)).flatMap fun _ => (directedNames type).map (conflict type)

theorem generatedConflicts_eq_nil_iff {type : TypeInfo} (asked : type.name ∈ typeNames) :
    generatedConflicts typeNames type = [] ↔ directed type = [] := by
  have own : type.name ∈ typeNames.filter (· = type.name) :=
    List.mem_filter.2 ⟨asked, decide_eq_true rfl⟩
  rw [generatedConflicts, List.flatMap_eq_nil_iff]
  constructor
  · intro none
    simpa [directedNames] using none _ own
  · intro none name _
    rw [directedNames, none]
    rfl

/-- The warnings of a run, and of one for a source with the variables that the first has
declared. -/
theorem Extends.warnings_generate {s' : Source} {enumerations : List Enumeration}
    {types : List TypeInfo} {before after : List Binding}
    (h : s'.Extends s before (enumerations.flatMap (·.bindings)) after)
    (found : typeNames.mapM (fun typeName => (s.enumeration form typeName).outcome) =
      .ok enumerations) (declared : typeNames.mapM s.find? = .ok (types.map some)) :
    Note.warnings (s.generate form typeNames).notes = types.flatMap (fun type =>
        directiveWarnings type ++ conflicts type before ++ conflicts type after) ∧
      Note.warnings (s'.generate form typeNames).notes = types.flatMap (fun type =>
        directiveWarnings type ++ conflicts type before ++
          (generatedConflicts typeNames type ++ conflicts type after)) := by
  have declared' : typeNames.mapM s'.find? = .ok (types.map some) :=
    mapM_eq_ok_of_imp (fun _ _ here => h.find?.trans here) declared
  refine ⟨(warnings_generate_of_ok found declared).trans ?_,
    (warnings_generate_of_ok (h.enumerations found) declared').trans ?_⟩
  · simp only [h.old, conflicts_append, List.append_assoc]
  · refine List.flatMap_congr fun type mem => ?_
    obtain ⟨-, here⟩ := find?_of_mem_types declared mem
    rw [h.new, conflicts_append, conflicts_append, conflicts_bindings found here]
    simp only [List.append_assoc, generatedConflicts]

/-- Insertions that make no difference are empty. -/
theorem eq_nil_of_flatMap_eq {α β : Type} {xs : List α} {front new back : α → List β}
    (same : (xs.flatMap fun x => front x ++ (new x ++ back x)) =
      xs.flatMap fun x => front x ++ back x) : ∀ x ∈ xs, new x = [] := by
  have longer (xs : List α) : (xs.flatMap fun x => front x ++ (new x ++ back x)).length =
      (xs.flatMap fun x => front x ++ back x).length + (xs.flatMap new).length := by
    induction xs with
    | nil => rfl
    | cons x xs ih =>
      simp only [List.flatMap_cons, List.length_append] at ih ⊢
      omega
  have added := longer xs
  rw [same] at added
  exact List.flatMap_eq_nil_iff.1 (List.eq_nil_of_length_eq_zero (by omega))

/-- The variables that a run declares are not warned of only if no type has directives. -/
theorem flatMap_generatedConflicts_eq_iff {types : List TypeInfo}
    {front back : TypeInfo → List Text}
    (asked : ∀ type ∈ types, type.name ∈ typeNames) :
    (types.flatMap fun type => front type ++ (generatedConflicts typeNames type ++ back type)) =
      (types.flatMap fun type => front type ++ back type) ↔ ∀ type ∈ types, directed type = [] := by
  constructor
  · intro same type mem
    exact (generatedConflicts_eq_nil_iff (asked type mem)).1 (eq_nil_of_flatMap_eq same type mem)
  · intro none
    refine List.flatMap_congr fun type mem => ?_
    rw [(generatedConflicts_eq_nil_iff (asked type mem)).2 (none type mem)]
    rfl

end Source

/-! ## Two runs -/

namespace Generator

open Source (directed directiveWarnings conflicts generatedConflicts)

/-- A repeated run warns of what the first run has written. Where a package is loaded and a request
is answered with code without stray bytes, and the directives of the types that are asked for name
instances and give fields expressions, the code is written to the default output in the directory of
the package, where no file was before. Then the package is loaded again and the request is answered
with the same code. For each type the first run warns of its directives, and of the variables of the
package in the order of their files. The second run warns of these too, and between them of each
variable that the first run has declared for the type. So the runs give the same warnings only if no
type of the request has directives. -/
theorem warnings_repeated {t t' : FileTree} {p file : Path} {pkg : Package} {g : Generator}
    {r : Request} {first code : Text} (loaded : (Package.load t p).outcome = .ok pkg)
    (answered : (g.run pkg.source r).2 = .ok (some code)) (scalar : code.isScalar = true)
    (directives : ∀ typeName ∈ r.typeNames, ∀ type,
      pkg.source.find? typeName = .ok (some type) → type.IsDirected)
    (asked : r.typeNames.head? = some first)
    (output : outputFile t pkg.directory first none = .ok file)
    (absent : t.exists? file = .ok false) (written : t.write file code = .ok t') :
    ∃ (types : List TypeInfo) (before after : List Binding) (pkg' : Package),
      r.typeNames.mapM pkg.source.find? = .ok (types.map some) ∧
      pkg.source.bindings = before ++ after ∧ (Package.load t' p).outcome = .ok pkg' ∧
      ∀ g' : Generator, (g'.run pkg'.source r).2 = .ok (some code) ∧
        (g.run pkg.source r).1.warnings = types.flatMap (fun type =>
          directiveWarnings type ++ conflicts type before ++ conflicts type after) ∧
        (g'.run pkg'.source r).1.warnings = types.flatMap (fun type =>
          directiveWarnings type ++ conflicts type before ++
            (generatedConflicts r.typeNames type ++ conflicts type after)) ∧
        ((g'.run pkg'.source r).1.warnings = (g.run pkg.source r).1.warnings ↔
          ∀ type ∈ types, directed type = []) := by
  obtain ⟨casing, parsed, generated⟩ := run_eq_some_iff.1 answered
  obtain ⟨enumerations, found, nonempty, made⟩ := Source.generate_eq_some_iff.1 generated
  obtain ⟨types, declared, -⟩ := Source.names_bindings_of_enumerations found
  have firstNamed : first.isName = true := by
    obtain ⟨_, mem, here⟩ := exists_mem_of_mapM declared first (List.mem_of_mem_head? asked)
    obtain ⟨type, -, rfl⟩ := List.mem_map.1 mem
    obtain ⟨own, rfl, -⟩ := Source.find?_eq_some here
    exact ((Package.isNamed_source loaded).types type own).name
  obtain rfl : pkg.directory.join (outputName first) = file := Except.ok.inj output
  rw [outputName_of_isName firstNamed] at absent written
  obtain ⟨pkg', before, after, again, longer⟩ := Package.exists_load_generated loaded found made
    scalar directives (Package.isSourceName_outputName _) absent written
  refine ⟨types, before, after, pkg', declared, longer.old, again, fun g' => ?_⟩
  obtain ⟨warned, warned'⟩ := longer.warnings_generate found declared
  have made' : codeFile? pkg'.source.package enumerations = .ok code := by
    rw [longer.package]
    exact made
  have answered' : (g'.run pkg'.source r).2 = .ok (some code) := run_eq_some_iff.2 ⟨casing, parsed,
    Source.generate_eq_some_iff.2 ⟨enumerations, longer.enumerations found, nonempty, made'⟩⟩
  have told : (g.run pkg.source r).1.warnings = _ :=
    (congrArg (·.1.warnings) (run_of_casing parsed)).trans warned
  have told' : (g'.run pkg'.source r).1.warnings = _ :=
    (congrArg (·.1.warnings) (run_of_casing parsed)).trans warned'
  refine ⟨answered', told, told', ?_⟩
  rw [told, told']
  exact Source.flatMap_generatedConflicts_eq_iff fun type mem =>
    (Source.find?_of_mem_types declared mem).1

/-- The request for the two types of a directory, and again when the code is in its file. -/
theorem warnings_repeated_cards :
    let file : Path := ⟨.relative, [text "p", text "suit_enum.go"]⟩
    ∃ code t' pkg', (Package.load cards ⟨.relative, [text "p"]⟩).outcome = .ok cardsPackage ∧
      (fresh.run cardsPackage.source cardsRequest).2 = .ok (some code) ∧
      outputFile cards cardsPackage.directory (text "Suit") none = .ok file ∧
      cards.exists? file = .ok false ∧ cards.write file code = .ok t' ∧
      (Package.load t' ⟨.relative, [text "p"]⟩).outcome = .ok pkg' ∧
      (fresh.run pkg'.source cardsRequest).2 = .ok (some code) ∧
      (fresh.run cardsPackage.source cardsRequest).1.warnings = [] ∧
      (fresh.run pkg'.source cardsRequest).1.warnings ≠ [] := by
  intro file
  obtain ⟨loaded, directives, code, answered, scalar⟩ := exists_run_cards
  have output : outputFile cards cardsPackage.directory (text "Suit") none = .ok file :=
    eq_ok_of_toOption (by decide)
  have absent : cards.exists? file = .ok false := eq_ok_of_toOption (by decide)
  have located : cards.locate file = .ok file.parts := eq_ok_of_toOption (by decide)
  have written := FileTree.write_of_fresh located (by decide) code
  obtain ⟨types, before, after, pkg', declared, -, again, each⟩ := warnings_repeated
    (g := fresh) loaded answered scalar directives rfl output absent written
  obtain ⟨answered', -, -, same⟩ := each fresh
  have silent : (fresh.run cardsPackage.source cardsRequest).1.warnings = [] := by decide
  refine ⟨code, _, pkg', loaded, answered, output, absent, written, again, answered', silent, ?_⟩
  rw [← silent]
  intro none
  have known : cardsRequest.typeNames.mapM cardsPackage.source.find? =
      .ok (cardsPackage.source.types.reverse.map some) := by decide
  obtain rfl : types = cardsPackage.source.types.reverse :=
    List.map_injective_iff.2 (fun _ _ => Option.some.inj)
      (Except.ok.inj (declared.symm.trans known))
  exact absurd (same.1 none) (by decide)

/-- A directory with one file, whose type has a directive. -/
def aceTree : FileTree where
  workingDirectory := []
  nodes := [([text "p"], .directory), ([text "p", text "card.go"], .file (text
    "package p\n\n// enumr:Ace\ntype Card struct\x7b\x7d\n"))]

/-- A request for that type. -/
def aceRequest : Request where
  typeNames := [text "Card"]
  format := []
  marshalField := none
  allowZero := false

/-- The package of the directory. -/
def acePackage : Package where
  name := text "p"
  directory := ⟨.relative, [text "p"]⟩
  files := [⟨text "p", [⟨⟨text "Card", [text "// enumr:Ace"], []⟩, true, 4⟩], []⟩]

/-- The second run warns of the variable that the first run has written. -/
theorem run_aceTree :
    let p : Path := ⟨.relative, [text "p"]⟩
    let file : Path := ⟨.relative, [text "p", text "card_enum.go"]⟩
    (Package.load aceTree p).outcome = .ok acePackage ∧
      outputFile aceTree acePackage.directory (text "Card") none = .ok file ∧
      aceTree.exists? file = .ok false ∧
      ∃ code t' pkg', (fresh.run acePackage.source aceRequest).2 = .ok (some code) ∧
        SourceFile.ofText? file code =
          .ok ⟨text "p", [], [⟨[text "Ace"], [some ⟨text "Card", []⟩]⟩]⟩ ∧
        aceTree.write file code = .ok t' ∧ (Package.load t' p).outcome = .ok pkg' ∧
        (fresh.run acePackage.source aceRequest).1.warnings = [] ∧
        (fresh.run pkg'.source aceRequest).1.warnings = [text ("var Ace is also declared by an " ++
          "enumr directive on Card; the generated declaration will conflict")] := by
  intro p file
  have loaded : (Package.load aceTree p).outcome = .ok acePackage :=
    eq_ok_of_toOption (by decide +kernel)
  have absent : aceTree.exists? file = .ok false := eq_ok_of_toOption (by decide)
  have located : aceTree.locate file = .ok file.parts := eq_ok_of_toOption (by decide)
  obtain ⟨_, answered, shown⟩ := exists_ok_of_any (x := (fresh.run acePackage.source aceRequest).2)
    (p := (·.any Text.isScalar)) (by decide +kernel)
  obtain ⟨code, rfl, scalar⟩ := (Option.any_eq_true _ _).1 shown
  have written := FileTree.write_of_fresh located (by decide) code
  obtain ⟨casing, parsed, generated⟩ := run_eq_some_iff.1 answered
  obtain ⟨enumerations, found, -, made⟩ := Source.generate_eq_some_iff.1 generated
  have declared : aceRequest.typeNames.mapM acePackage.source.find? =
      .ok (acePackage.source.types.map some) := by decide
  have directives : ∀ typeName ∈ aceRequest.typeNames, ∀ type,
      acePackage.source.find? typeName = .ok (some type) → type.IsDirected :=
    fun _ asked _ found => TypeInfo.isDirected_of_find? (by decide) asked found
  obtain ⟨-, read⟩ :=
    Source.ofText?_of_generated (Package.isNamed_source loaded) directives found made
  have ace : enumerations.flatMap (·.bindings) = [⟨[text "Ace"], [some ⟨text "Card", []⟩]⟩] := by
    obtain rfl : Casing.identity = casing :=
      Option.some.inj ((by decide : Casing.parse? aceRequest.format = _).symm.trans parsed)
    have known : (aceRequest.typeNames.mapM fun typeName => (acePackage.source.enumeration
        ⟨.identity, none, false⟩ typeName).outcome).map (·.flatMap (·.bindings)) =
        .ok [⟨[text "Ace"], [some ⟨text "Card", []⟩]⟩] := eq_ok_of_toOption (by decide)
    exact Except.ok.inj ((congrArg (Except.map _) found).symm.trans known)
  rw [ace] at read
  obtain ⟨pkg', before, after, again, longer⟩ := Package.exists_load_generated loaded found made
    scalar directives (by decide : Package.isSourceName (text "card_enum.go") = true) absent written
  obtain ⟨rfl, rfl⟩ := List.append_eq_nil_iff.1 (longer.old.symm.trans rfl)
  obtain ⟨silent, warned⟩ := longer.warnings_generate found declared
  have told : (fresh.run acePackage.source aceRequest).1.warnings = _ :=
    (congrArg (·.1.warnings) (run_of_casing parsed)).trans silent
  have told' : (fresh.run pkg'.source aceRequest).1.warnings = _ :=
    (congrArg (·.1.warnings) (run_of_casing parsed)).trans warned
  exact ⟨loaded, eq_ok_of_toOption (by decide), absent, code, _, pkg', answered, read _, written,
    again, told.trans (by decide), told'.trans (by decide +kernel)⟩

end Generator

end EnumText
