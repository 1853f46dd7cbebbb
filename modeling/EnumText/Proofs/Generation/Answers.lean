import Mathlib.Data.List.Nodup
import EnumText.Generation
import EnumText.Proofs.Report

/-!
# What a request comes to

For each step from a request to the code, one lemma says when it succeeds and with what. Notes do
not count.

* `Binding.mem_instancesOf_iff`: the instances among variables.
* `resolve_eq_ok_iff`: the instances of a type come from its directives, or else from variables.
* `enumeration_eq_ok_iff`, `outcome_enumerations`: what is generated for types.
* `Generator.run_eq_some_iff`: the code that answers a request.
-/

namespace EnumText

theorem firstRepeatedAfter_eq_none_iff {seen names : List Text} :
    firstRepeatedAfter seen names = none ↔ names.Nodup ∧ ∀ name ∈ names, name ∉ seen := by
  induction names generalizing seen with
  | nil => simp [firstRepeatedAfter]
  | cons name rest ih =>
    rw [firstRepeatedAfter, List.nodup_cons, List.forall_mem_cons]
    by_cases repeated : name ∈ seen
    · simp [repeated]
    · rw [if_neg (by simpa using repeated), ih]
      constructor
      · rintro ⟨distinct, others⟩
        refine ⟨⟨fun again => others name again List.mem_cons_self, distinct⟩, repeated, ?_⟩
        exact fun other mem old => others other mem (List.mem_cons_of_mem _ old)
      · rintro ⟨⟨once, distinct⟩, -, others⟩
        refine ⟨distinct, fun other mem old => ?_⟩
        rcases List.mem_cons.1 old with rfl | old
        · exact once mem
        · exact others other mem old

theorem firstRepeated?_eq_none_iff {names : List Text} :
    firstRepeated? names = none ↔ names.Nodup := by
  rw [firstRepeated?, firstRepeatedAfter_eq_none_iff]
  exact and_iff_left fun _ _ => List.not_mem_nil

theorem TypeInfo.check_eq_ok_iff {type type' : TypeInfo} :
    type.check = .ok type' ↔ (type.fields.map (·.name)).Nodup ∧ type' = type := by
  rw [← firstRepeated?_eq_none_iff, check]
  split
  · next name repeated => simp [repeated]
  · next none => simp [none, eq_comm]

/-- The instances among the variables of a declaration are those with a composite literal of the
type. -/
theorem Binding.mem_instancesOf_iff {b : Binding} {typeName : Text} {fields : List Field}
    {i : Instance} :
    i ∈ b.instancesOf typeName fields ↔ ∃ name c, (name, some c) ∈ b.names.zip b.values ∧
      c.typeName = typeName ∧ i = ⟨name, c.fieldValues fields, .scan⟩ := by
  rw [instancesOf, List.mem_filterMap]
  constructor
  · rintro ⟨⟨name, value⟩, pair, made⟩
    obtain ⟨c, rfl, kept⟩ := Option.bind_eq_some_iff.1 made
    split at kept
    · next same =>
      cases kept
      exact ⟨name, c, pair, same, rfl⟩
    · cases kept
  · rintro ⟨name, c, pair, rfl, rfl⟩
    exact ⟨(name, some c), pair, if_pos rfl⟩

namespace Source

variable {s : Source} {form : TextForm}

/-- A type that is found is declared under its name, and its fields have different names. -/
theorem find?_eq_some {typeName : Text} {type : TypeInfo}
    (h : s.find? typeName = .ok (some type)) :
    type ∈ s.types ∧ type.name = typeName ∧ (type.fields.map (·.name)).Nodup := by
  unfold find? at h
  split at h
  · cases h
  · next found named =>
    rcases map_eq_ok_iff.1 h with ⟨checked, check, same⟩
    obtain ⟨distinct, rfl⟩ := TypeInfo.check_eq_ok_iff.1 check
    cases same
    exact ⟨List.mem_of_find?_eq_some named, by simpa using List.find?_some named, distinct⟩

theorem checkNames_eq_ok_iff {typeName : Text} {instances : List Instance} :
    checkNames typeName instances = .ok () ↔ (instances.map (·.name)).Nodup := by
  rw [← firstRepeated?_eq_none_iff, checkNames]
  split
  · next name repeated => simp [repeated]
  · next none => simp [none]

/-- The instances that directives define for a type. -/
def directed (type : TypeInfo) : List Instance :=
  (Directive.readDirectives type.fields type.doc).value

/-- The names that directives define for a type. -/
def directedNames (type : TypeInfo) : List Text := (directed type).map (·.name)

/-- A type has the instances of its directives, or else those of the variables. -/
theorem resolve_eq_ok_iff {type : TypeInfo} {r : Resolution} :
    (s.resolve type).outcome = .ok r ↔
      if directed type = [] then
        s.scan type.name type.fields ≠ [] ∧
          checkNames type.name (s.scan type.name type.fields) = .ok () ∧
          r = ⟨s.scan type.name type.fields, false⟩
      else checkNames type.name (directed type) = .ok () ∧ r = ⟨directed type, true⟩ := by
  have read : (s.resolve type).outcome =
      Report.outcome (if (directed type).isEmpty then do
          if (s.scan type.name type.fields).isEmpty then throw (.noInstances type.name)
          Report.ofExcept (checkNames type.name (s.scan type.name type.fields))
          Report.note (.foundVariables (s.scan type.name type.fields).length type.name)
          return ⟨s.scan type.name type.fields, false⟩
        else do
          Report.ofExcept (checkNames type.name (directed type))
          ExceptT.lift (s.noteShadowed type (directed type))
          Report.note (.foundDirectives (directed type).length type.name)
          return ⟨directed type, true⟩) := by
    rw [resolve, Report.outcome_bind]
    rfl
  rw [read]
  simp only [List.isEmpty_iff]
  split
  · simp only [Report.outcome_check_eq_ok_iff, Report.outcome_bind, Report.outcome_ofExcept,
      bind_eq_ok_iff, Report.outcome_note, Report.outcome_pure]
    refine and_congr_right fun _ => ⟨?_, ?_⟩
    · rintro ⟨_, checked, _, -, same⟩
      exact ⟨checked, (Except.ok.inj same).symm⟩
    · rintro ⟨checked, rfl⟩
      exact ⟨(), checked, (), trivial, rfl⟩
  · simp only [Report.outcome_bind, Report.outcome_ofExcept, bind_eq_ok_iff, Report.outcome_lift,
      Report.outcome_note, Report.outcome_pure]
    constructor
    · rintro ⟨_, checked, _, -, _, -, same⟩
      exact ⟨checked, (Except.ok.inj same).symm⟩
    · rintro ⟨checked, rfl⟩
      exact ⟨(), checked, (), trivial, (), trivial, rfl⟩

/-- The enumeration of a type with given instances. -/
def enumerationOf (form : TextForm) (type : TypeInfo) (r : Resolution) : Enumeration where
  typeName := type.name
  instances := r.instances
  casing := form.casing
  generateVars := r.generateVars
  marshalField := form.field?
  allowZero := form.allowZero
  fields := type.fields

/-- An enumeration is made of a type that is found, and of its instances. -/
theorem enumeration_eq_ok_iff {typeName : Text} {e : Enumeration} :
    (s.enumeration form typeName).outcome = .ok e ↔ ∃ type r,
      s.find? typeName = .ok (some type) ∧ (s.resolve type).outcome = .ok r ∧
      form.checkField typeName r.instances = .ok () ∧ e = enumerationOf form type r ∧
      e.check = .ok () := by
  simp only [enumeration, Report.outcome_bind, Report.outcome_ofExcept, bind_eq_ok_iff,
    mapError_eq_ok_iff]
  constructor
  · rintro ⟨found, declared, body⟩
    cases found with
    | none => cases body
    | some type =>
      obtain ⟨-, rfl, -⟩ := find?_eq_some declared
      simp only [Report.outcome_bind, Report.outcome_ofExcept, Report.outcome_mapError,
        Report.outcome_note, Report.outcome_pure, bind_eq_ok_iff, mapError_eq_ok_iff] at body
      obtain ⟨r, resolved, _, marshal, _, distinct, _, -, same⟩ := body
      cases same
      exact ⟨type, r, declared, resolved, marshal, rfl, distinct⟩
  · rintro ⟨type, r, declared, resolved, marshal, rfl, distinct⟩
    obtain ⟨-, rfl, -⟩ := find?_eq_some declared
    refine ⟨_, declared, ?_⟩
    simp only [Report.outcome_bind, Report.outcome_ofExcept, Report.outcome_mapError,
      Report.outcome_note, Report.outcome_pure, bind_eq_ok_iff, mapError_eq_ok_iff]
    exact ⟨r, resolved, (), marshal, (), distinct, (), trivial, rfl⟩

theorem outcome_enumerations (typeNames : List Text) :
    (s.enumerations form typeNames).outcome =
      typeNames.mapM fun typeName => (s.enumeration form typeName).outcome := by
  induction typeNames with
  | nil => rfl
  | cons typeName rest ih =>
    simp only [enumerations, Report.outcome_bind, ih, List.mapM_cons]
    rfl

/-- Code is generated for enumerations, if there are any. -/
theorem generate_eq_some_iff {typeNames : List Text} {code : Text} :
    (s.generate form typeNames).outcome = .ok (some code) ↔ ∃ enumerations,
      typeNames.mapM (fun typeName => (s.enumeration form typeName).outcome) = .ok enumerations ∧
      enumerations ≠ [] ∧ codeFile? s.package enumerations = .ok code := by
  simp only [generate, Report.outcome_bind, outcome_enumerations, bind_eq_ok_iff]
  refine exists_congr fun enumerations => and_congr_right fun _ => ?_
  cases enumerations with
  | nil =>
    constructor
    · intro h
      cases h
    · intro h
      exact absurd rfl h.1
  | cons e rest =>
    simp only [List.isEmpty_cons, Bool.false_eq_true, if_false, Report.outcome_bind,
      Report.outcome_ofExcept, Report.outcome_pure, bind_eq_ok_iff, mapError_eq_ok_iff]
    constructor
    · rintro ⟨_, written, same⟩
      cases same
      exact ⟨List.cons_ne_nil _ _, written⟩
    · rintro ⟨-, written⟩
      exact ⟨code, written, rfl⟩

end Source

/-- A request is answered with code if it names a casing. What was asked before does not count. -/
theorem Generator.run_eq_some_iff {g : Generator} {s : Source} {r : Request} {code : Text} :
    (g.run s r).2 = .ok (some code) ↔ ∃ casing, Casing.parse? r.format = some casing ∧
      (s.generate ⟨casing, r.marshalField, r.allowZero⟩ r.typeNames).outcome =
        .ok (some code) := by
  unfold run
  cases Casing.parse? r.format with
  | none => simp
  | some casing => simp

end EnumText
