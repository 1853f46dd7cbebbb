import EnumText.Proofs.Generation.Refusals
import EnumText.Proofs.Package.Declared

/-!
# Which causes a request can be refused for

Generation announces six causes for refusing a request. `Announced` lists them. There is one more: a
type whose fields have different names is asked for, but files may well declare others, such as
`struct { _ int; _ string }`.

* `run_eq_error_iff`: a request for a known casing is refused as the first of its types that fails.
* `Generator.run_announced`: no other cause occurs, and when that of a repeated field does.
-/

namespace EnumText

/-- The causes that are announced. -/
inductive GenerationError.Announced : GenerationError → Prop
  | unknownCasing (shown : Text) : Announced (.unknownCasing shown)
  | typeNotFound (typeName : Text) : Announced (.typeNotFound typeName)
  | noInstances (typeName : Text) : Announced (.resolution (.noInstances typeName))
  | duplicateInstance (typeName name : Text) :
    Announced (.resolution (.duplicateInstance typeName name))
  | missingMarshalField (typeName name field : Text) :
    Announced (.missingMarshalField typeName name field)
  | duplicateEncoding (typeName first second key : Text) :
    Announced (.encoding (.duplicate typeName first second key))

/-- A type is refused for an announced cause, or for a field that is repeated. -/
theorem Source.Refused.announced {s : Source} {form : TextForm} {typeName : Text}
    {e : GenerationError} (h : s.Refused form typeName e) :
    e.Announced ∨ ∃ name, e = .repeatedField ⟨name⟩ := by
  cases h with
  | repeatedField => exact .inr ⟨_, rfl⟩
  | typeNotFound => exact .inl (.typeNotFound typeName)
  | @resolution type e found failed =>
    cases e with
    | noInstances owner => exact .inl (.noInstances owner)
    | duplicateInstance owner name => exact .inl (.duplicateInstance owner name)
  | missingMarshalField => exact .inl (.missingMarshalField typeName _ _)
  | duplicate => exact .inl (.duplicateEncoding typeName _ _ _)

theorem Source.enumeration_eq_repeatedField_iff {s : Source} {form : TextForm} {typeName : Text}
    {e : RepeatedField} :
    (s.enumeration form typeName).outcome = .error (.repeatedField e) ↔
      s.find? typeName = .error e := by
  constructor
  · intro h
    cases enumeration_eq_error h with
    | repeatedField found => exact found
  · intro found
    simp only [enumeration, Report.outcome_bind, Report.outcome_ofExcept, found]
    rfl

namespace Generator

variable {g : Generator} {s : Source} {r : Request} {casing : Casing} {e : GenerationError}

theorem exists_run_only_iff (known : Casing.parse? r.format = some casing) {typeName : Text} :
    (∃ code, (g.run s (r.only typeName)).2 = .ok (some code)) ↔
      ∃ b, s.body (r.form casing) typeName = .ok b := by
  rw [run_only known]
  cases s.body (r.form casing) typeName <;> simp [Except.map]

/-- A request for a known casing is refused as the first of its types that fails. -/
theorem run_eq_error_iff (known : Casing.parse? r.format = some casing) :
    (g.run s r).2 = .error e ↔ ∃ done typeName later, r.typeNames = done ++ typeName :: later ∧
      (∀ other ∈ done, ∃ code, (fresh.run s (r.only other)).2 = .ok (some code)) ∧
      (s.enumeration (r.form casing) typeName).outcome = .error e := by
  rw [run_of_casing known]
  by_cases nonempty : r.typeNames = []
  · simp only [nonempty]
    constructor
    · intro h
      cases h
    · rintro ⟨done, typeName, later, none, -⟩
      simp at none
  · have failed : (r.typeNames.mapM (s.body (r.form casing))).map (fun bodies =>
          some (codeHeader s.package ++ bodies.flatten)) = .error e ↔
        r.typeNames.mapM (s.body (r.form casing)) = .error e := by
      cases r.typeNames.mapM (s.body (r.form casing)) <;> simp [Except.map]
    simp only [Source.outcome_generate nonempty, failed, mapM_eq_error_iff,
      Source.body_eq_error_iff, exists_run_only_iff known]

/-- A request is refused for an announced cause, or else for a repeated field: all types before in
the request have code, and two fields of the first declaration of the next have one name. -/
theorem run_announced (g : Generator) (p : Package) (r : Request) :
    (∀ e, (g.run p.source r).2 = .error e → e.Announced ∨ ∃ name, e = .repeatedField ⟨name⟩) ∧
    ∀ name, (g.run p.source r).2 = .error (.repeatedField ⟨name⟩) ↔
      Casing.parse? r.format ≠ none ∧
      ∃ done typeName later decl, r.typeNames = done ++ typeName :: later ∧
        (∀ other ∈ done, ∃ code, (fresh.run p.source (r.only other)).2 = .ok (some code)) ∧
        p.decl? typeName = some decl ∧ FirstRepeated (decl.fields.map (·.name)) name := by
  cases known : Casing.parse? r.format with
  | none =>
    have refused : (g.run p.source r).2 = .error (.unknownCasing r.format.display) :=
      run_eq_unknownCasing_iff.2 ⟨known, rfl⟩
    rw [refused]
    refine ⟨fun e same => ?_, fun name => by simp⟩
    cases same
    exact .inl (.unknownCasing _)
  | some casing =>
    refine ⟨fun e refused => ?_, fun name => ?_⟩
    · obtain ⟨typeName, refused⟩ := run_eq_error known refused
      exact refused.announced
    · simp only [run_eq_error_iff known, Source.enumeration_eq_repeatedField_iff,
        Package.find?_source_eq_error_iff, ne_eq, reduceCtorEq, not_false_eq_true, true_and,
        exists_and_left]

/-- A file with a type of which two fields are blank. -/
def blankCards : FileTree where
  workingDirectory := []
  nodes := [([text "p"], .directory), ([text "p", text "card.go"], .file (text (
    "package p\n\n// enumr:Ace\ntype Card struct \x7b\n\t_ int\n\t_ string\n\x7d\n")))]

/-- A request for the type. -/
def blankCardsRequest : Request where
  typeNames := [text "Card"]
  format := []
  marshalField := none
  allowZero := false

/-- The package is loaded, the type has the two fields, and the request is refused for them. -/
theorem exists_load_blankCards :
    ∃ p decl, (Package.load blankCards ⟨.relative, [text "p"]⟩).outcome = .ok p ∧
      p.decl? (text "Card") = some decl ∧ decl.fields.map (·.name) = [text "_", text "_"] ∧
      (fresh.run p.source blankCardsRequest).2 = .error (.repeatedField ⟨text "_"⟩) := by
  have evaluated : (Package.load blankCards ⟨.relative, [text "p"]⟩).outcome.toOption.any (fun p =>
      (p.decl? (text "Card")).map (·.fields.map (·.name)) = some [text "_", text "_"] ∧
        (fresh.run p.source blankCardsRequest).2 = .error (.repeatedField ⟨text "_"⟩)) = true := by
    decide +kernel
  obtain ⟨p, loaded, evaluated⟩ := exists_ok_of_any evaluated
  obtain ⟨declared, refused⟩ := of_decide_eq_true evaluated
  obtain ⟨decl, declared, names⟩ := Option.map_eq_some_iff.1 declared
  exact ⟨p, decl, loaded, declared, names, refused⟩

theorem run_announced_blankCards :
    ∃ p, (Package.load blankCards ⟨.relative, [text "p"]⟩).outcome = .ok p ∧
      (fresh.run p.source blankCardsRequest).2 = .error (.repeatedField ⟨text "_"⟩) := by
  obtain ⟨p, decl, loaded, declared, names, -⟩ := exists_load_blankCards
  have repeated : FirstRepeated (decl.fields.map (·.name)) (text "_") :=
    ⟨[text "_"], [], names, List.nodup_singleton _, List.mem_singleton.2 rfl⟩
  exact ⟨p, loaded, ((run_announced fresh p blankCardsRequest).2 _).2 ⟨by decide, [], _, [], decl,
    rfl, List.forall_mem_nil _, declared, repeated⟩⟩

/-- A package that is loaded, and a request that is refused for another cause than the announced
ones. -/
theorem run_blankCards :
    ∃ p, (Package.load blankCards ⟨.relative, [text "p"]⟩).outcome = .ok p ∧
      (fresh.run p.source blankCardsRequest).2 = .error (.repeatedField ⟨text "_"⟩) ∧
      ¬ GenerationError.Announced (.repeatedField ⟨text "_"⟩) := by
  obtain ⟨p, -, loaded, -, -, refused⟩ := exists_load_blankCards
  exact ⟨p, loaded, refused, nofun⟩

end Generator

end EnumText
