import EnumText.Proofs.Directive.Values
import EnumText.Proofs.Package.Declared

/-!
# Which instances count for a type

The instances of a type are those of its directives, or else those of the variables: the two are
never mixed, and where there are directives the variables have no say but for a warning.

* `outcome_resolve`: what resolution comes to.
* `resolve_eq_noInstances_iff`, `resolve_eq_duplicateInstance_iff`: when it fails, and how.
* `notes_resolve_of_directed`: what is told on the way where there are directives.
* `resolve_exact`: resolution as a whole.
-/

namespace EnumText

/-- An instance that directives define says so. -/
theorem Source.origin_of_mem_directed {type : TypeInfo} {i : Instance} (mem : i ∈ directed type) :
    i.origin = .directive := by
  obtain ⟨name, values, rfl⟩ := Directive.exists_eq_of_mem mem
  rfl

/-- An instance that is a variable says so. -/
theorem Source.origin_of_mem_scan {s : Source} {typeName : Text} {fields : List Field}
    {i : Instance}
    (mem : i ∈ s.scan typeName fields) : i.origin = .scan := by
  obtain ⟨b, -, inside⟩ := List.mem_flatMap.1 mem
  obtain ⟨name, c, -, -, rfl⟩ := Binding.mem_instancesOf_iff.1 inside
  rfl

namespace Source

variable {s : Source} {type : TypeInfo}

/-! ## The two ways to instances -/

/-- What resolution does with directives. -/
def takeDirectives (s : Source) (type : TypeInfo) (directives : List Instance) :
    Report ResolutionError Resolution := do
  Report.ofExcept (checkNames type.name directives)
  ExceptT.lift (s.noteShadowed type directives)
  Report.note (.foundDirectives directives.length type.name)
  return ⟨directives, true⟩

/-- What resolution does without directives. -/
def takeVariables (s : Source) (type : TypeInfo) : Report ResolutionError Resolution := do
  let scanned := s.scan type.name type.fields
  if scanned.isEmpty then throw (.noInstances type.name)
  Report.ofExcept (checkNames type.name scanned)
  Report.note (.foundVariables scanned.length type.name)
  return ⟨scanned, false⟩

theorem resolve_eq (s : Source) (type : TypeInfo) :
    s.resolve type = ExceptT.lift (Directive.readDirectives type.fields type.doc) >>=
      fun directives =>
        if directives.isEmpty then s.takeVariables type else s.takeDirectives type directives :=
  rfl

theorem outcome_takeDirectives (s : Source) (type : TypeInfo) (directives : List Instance) :
    (s.takeDirectives type directives).outcome =
      (checkNames type.name directives).map fun _ => ⟨directives, true⟩ := by
  unfold takeDirectives
  cases checkNames type.name directives <;> rfl

theorem outcome_takeVariables (some : s.scan type.name type.fields ≠ []) :
    (s.takeVariables type).outcome =
      (checkNames type.name (s.scan type.name type.fields)).map fun _ =>
        ⟨s.scan type.name type.fields, false⟩ := by
  unfold takeVariables
  rw [if_neg (mt List.isEmpty_iff.1 some)]
  cases checkNames type.name (s.scan type.name type.fields) <;> rfl

/-! ## Outcomes -/

/-- The instances that count for a type. -/
def counted (s : Source) (type : TypeInfo) : List Instance :=
  if directed type = [] then s.scan type.name type.fields else directed type

theorem counted_eq_nil_iff :
    s.counted type = [] ↔ directed type = [] ∧ s.scan type.name type.fields = [] := by
  unfold counted
  split
  · next none => exact (and_iff_right none).symm
  · next some => exact iff_of_false some fun h => some h.1

/-- Resolution fails without instances, and for a name that is repeated. Otherwise it comes to the
instances that count. -/
theorem outcome_resolve (s : Source) (type : TypeInfo) :
    (s.resolve type).outcome =
      if s.counted type = [] then .error (.noInstances type.name)
      else (checkNames type.name (s.counted type)).map fun _ =>
        ⟨s.counted type, decide (directed type ≠ [])⟩ := by
  rw [resolve_eq, Report.outcome_bind, Report.outcome_lift]
  change Report.outcome
      (if (directed type).isEmpty then _ else s.takeDirectives type (directed type))
    = _
  simp only [List.isEmpty_iff, counted]
  split
  · next none =>
    split
    · next empty =>
      unfold takeVariables
      rw [if_pos (List.isEmpty_iff.2 empty)]
      rfl
    · next some =>
      rw [outcome_takeVariables some, none]
      rfl
  · next some =>
    rw [outcome_takeDirectives]
    simp [some]

theorem checkNames_eq_error_iff {typeName : Text} {instances : List Instance}
    {e : ResolutionError} :
    checkNames typeName instances = .error e ↔
      ∃ name, e = .duplicateInstance typeName name ∧
        FirstRepeated (instances.map (·.name)) name := by
  simp only [← firstRepeated?_eq_some_iff]
  unfold checkNames
  split
  · next name repeated => simp [repeated, eq_comm]
  · next none => simp [none]

theorem resolve_eq_noInstances_iff {owner : Text} :
    (s.resolve type).outcome = .error (.noInstances owner) ↔
      owner = type.name ∧ directed type = [] ∧ s.scan type.name type.fields = [] := by
  rw [outcome_resolve, ← counted_eq_nil_iff]
  split
  · next none => simp [none, eq_comm]
  · next some =>
    refine iff_of_false (fun h => ?_) fun h => some h.2
    cases check : checkNames type.name (s.counted type) with
    | ok =>
      rw [check] at h
      cases h
    | error e =>
      obtain ⟨name, rfl, -⟩ := checkNames_eq_error_iff.1 check
      rw [check] at h
      cases h

theorem resolve_eq_duplicateInstance_iff {owner name : Text} :
    (s.resolve type).outcome = .error (.duplicateInstance owner name) ↔
      owner = type.name ∧ FirstRepeated ((s.counted type).map (·.name)) name := by
  rw [outcome_resolve]
  split
  · next none =>
    refine iff_of_false (fun h => nomatch h) ?_
    rintro ⟨-, before, after, same, -⟩
    rw [none] at same
    simp at same
  · next some =>
    have failed : (checkNames type.name (s.counted type)).map (fun _ =>
          (⟨s.counted type, decide (directed type ≠ [])⟩ : Resolution)) =
          .error (.duplicateInstance owner name) ↔
        checkNames type.name (s.counted type) = .error (.duplicateInstance owner name) := by
      cases checkNames type.name (s.counted type) <;> simp [Except.map]
    rw [failed, checkNames_eq_error_iff]
    simp [and_assoc]

/-! ## Other variables -/

/-- Where directives define instances, only the warnings about variables depend on the source. -/
theorem notes_resolve_of_directed (some : directed type ≠ []) :
    (s.resolve type).notes = (Directive.readDirectives type.fields type.doc).notes ++
      match checkNames type.name (directed type) with
      | .error _ => []
      | .ok _ => (s.noteShadowed type (directed type)).notes ++
        [.foundDirectives (directed type).length type.name] := by
  have taken : (s.takeDirectives type (directed type)).notes =
      match checkNames type.name (directed type) with
      | .error _ => []
      | .ok _ => (s.noteShadowed type (directed type)).notes ++
        [.foundDirectives (directed type).length type.name] := by
    unfold takeDirectives
    cases check : checkNames type.name (directed type) with
    | error e => exact Report.notes_bind_of_error (Report.outcome_ofExcept _) _
    | ok =>
      rw [Report.notes_bind_of_ok (Report.outcome_ofExcept _),
        Report.notes_bind_of_ok (Report.outcome_lift _), Report.notes_lift]
      rfl
  rw [resolve_eq, Report.notes_bind_of_ok (Report.outcome_lift _), Report.notes_lift, ← taken]
  exact congrArg _ (congrArg _ (if_neg (mt List.isEmpty_iff.1 some)))

theorem level_of_mem_noteShadowed {instances : List Instance} {n : Note}
    (mem : n ∈ (s.noteShadowed type instances).notes) : n.level = .warning := by
  obtain ⟨v, -, rfl⟩ := List.mem_map.1 mem
  rfl

/-- All that is told but the warnings is the same for two sources. -/
theorem filter_notes_resolve_of_directed (some : directed type ≠ []) (s s' : Source) :
    (s'.resolve type).notes.filter (·.level ≠ .warning) =
      (s.resolve type).notes.filter (·.level ≠ .warning) := by
  have silent (s : Source) :
      (s.noteShadowed type (directed type)).notes.filter (·.level ≠ .warning) = [] :=
    List.filter_eq_nil_iff.2 fun n mem => by simp [level_of_mem_noteShadowed mem]
  rw [notes_resolve_of_directed some, notes_resolve_of_directed some]
  cases checkNames type.name (directed type) with
  | error e => rfl
  | ok => simp only [List.filter_append, silent]

/-- Resolution comes to instances with different names, which are all from directives or all
variables. It fails for a type without instances, and for the first name that is repeated among the
instances that count. Where there are directives, other variables change no more than warnings. -/
theorem resolve_exact (s : Source) (type : TypeInfo) :
    (∀ r, (s.resolve type).outcome = .ok r →
      r.instances ≠ [] ∧ (r.instances.map (·.name)).Nodup ∧
        (r.generateVars = true ∧ r.instances = directed type ∧
            (∀ i ∈ r.instances, i.origin = .directive) ∨
          r.generateVars = false ∧ r.instances = s.scan type.name type.fields ∧
            directed type = [] ∧ ∀ i ∈ r.instances, i.origin = .scan)) ∧
    (∀ owner, (s.resolve type).outcome = .error (.noInstances owner) ↔
      owner = type.name ∧ directed type = [] ∧ s.scan type.name type.fields = []) ∧
    (∀ owner name, (s.resolve type).outcome = .error (.duplicateInstance owner name) ↔
      owner = type.name ∧ FirstRepeated ((s.counted type).map (·.name)) name) ∧
    ∀ (s' : Source) (type' : TypeInfo), type'.name = type.name → type'.fields = type.fields →
      type'.doc = type.doc → directed type ≠ [] →
        (s'.resolve type').outcome = (s.resolve type).outcome ∧
          (s'.resolve type').notes.filter (·.level ≠ .warning) =
            (s.resolve type).notes.filter (·.level ≠ .warning) := by
  refine ⟨fun r resolved => ?_, fun owner => resolve_eq_noInstances_iff,
    fun owner name => resolve_eq_duplicateInstance_iff, fun s' type' name fields doc some => ?_⟩
  · rw [resolve_eq_ok_iff] at resolved
    split at resolved
    · next none =>
      obtain ⟨some, distinct, rfl⟩ := resolved
      exact ⟨some, checkNames_eq_ok_iff.1 distinct,
        .inr ⟨rfl, rfl, none, fun i mem => origin_of_mem_scan mem⟩⟩
    · next some =>
      obtain ⟨distinct, rfl⟩ := resolved
      exact ⟨some, checkNames_eq_ok_iff.1 distinct,
        .inl ⟨rfl, rfl, fun i mem => origin_of_mem_directed mem⟩⟩
  · obtain rfl : type' = type := by
      obtain ⟨_, _, _⟩ := type'
      cases name
      cases fields
      cases doc
      rfl
    have counted (s : Source) : s.counted type' = directed type' := if_neg some
    refine ⟨?_, filter_notes_resolve_of_directed some s s'⟩
    rw [outcome_resolve, outcome_resolve, counted, counted]

/-- A type with a directive. -/
def ace : TypeInfo where
  name := text "Card"
  doc := [text "// enumr:Ace Rank:1"]
  fields := [⟨text "Rank", text "int"⟩]

/-- A source that declares it, and a variable of it with the name of its instance. -/
def shadowedAce : Source where
  package := text "cards"
  types := [ace]
  bindings := [⟨[text "Ace"], [some ⟨text "Card", [⟨none, text "2"⟩]⟩]⟩]

theorem resolve_exact_ace : directed ace ≠ [] ∧
    (∃ r, (shadowedAce.resolve ace).outcome = .ok r ∧ r.instances ≠ [] ∧ r.generateVars = true) ∧
    ({ shadowedAce with bindings := [] }.resolve ace).outcome =
      (shadowedAce.resolve ace).outcome ∧
    ({ shadowedAce with bindings := [] }.resolve ace).notes ≠ (shadowedAce.resolve ace).notes := by
  have some : directed ace ≠ [] := by decide
  obtain ⟨r, resolved, vars⟩ := exists_ok_of_any (x := (shadowedAce.resolve ace).outcome)
    (p := (·.generateVars)) (by decide)
  obtain ⟨good, -, -, other⟩ := resolve_exact shadowedAce ace
  refine ⟨some, ⟨r, resolved, (good r resolved).1, vars⟩, ?_, by decide⟩
  exact (other { shadowedAce with bindings := [] } ace rfl rfl rfl some).1

end Source

end EnumText
