import EnumText.Proofs.Directive.Accounting
import EnumText.Proofs.Generation.Declaring
import EnumText.Proofs.Generation.Resolving

/-!
# Variables that are warned of

A variable of the package that has the name of an instance for which a variable will be generated is
warned of only if its declaration gives it a composite literal of the type. Declarations of other
shapes are passed over: without a value, with another expression, or with a literal of another type.

* `Binding.exists_instancesOf_iff`: which names a declaration gives a literal of a type.
* `Source.warnings_noteShadowed`: the warnings about variables.
* `Source.warnings_resolve_of_ok`: the warnings of a resolution.
* `Source.warnings_resolve_of_generateVars`: which variables are warned of.
-/

namespace EnumText

/-- Whether a declaration gives a variable of some name a composite literal of a type. -/
def Binding.Instantiates (b : Binding) (typeName name : Text) : Prop :=
  ∃ (i : Nat) (c : Composite), b.names[i]? = some name ∧ b.values[i]? = some (some c) ∧
    c.typeName = typeName

theorem Binding.exists_instancesOf_iff {b : Binding} {typeName name : Text} (fields : List Field) :
    (∃ i ∈ b.instancesOf typeName fields, i.name = name) ↔ b.Instantiates typeName name := by
  constructor
  · rintro ⟨i, mem, named⟩
    obtain ⟨own, c, pair, same, rfl⟩ := mem_instancesOf_iff.1 mem
    obtain ⟨n, here⟩ := List.mem_iff_getElem?.1 pair
    obtain ⟨nameAt, valueAt⟩ := List.getElem?_zip_eq_some.1 here
    exact ⟨n, c, nameAt.trans (congrArg some named), valueAt, same⟩
  · rintro ⟨n, c, nameAt, valueAt, rfl⟩
    have pair : (name, some c) ∈ b.names.zip b.values :=
      List.mem_of_getElem? (List.getElem?_zip_eq_some.2 ⟨nameAt, valueAt⟩)
    exact ⟨_, mem_instancesOf_iff.2 ⟨name, c, pair, rfl, rfl⟩, rfl⟩

namespace Source

variable {s : Source} {type : TypeInfo} {name : Text}

/-! ## Warnings about variables -/

/-- The warning about a variable that has the name of an instance of a type. -/
def conflict (type : TypeInfo) (name : Text) : Text :=
  (Note.shadowedVariable name type.name).message

/-- The warnings about the variables that declarations give a literal of a type with directives. -/
def conflicts (type : TypeInfo) (bindings : List Binding) : List Text :=
  (((bindings.flatMap (Binding.instancesOf type.name type.fields)).map (·.name)).filter
    (· ∈ directedNames type)).map (conflict type)

/-- The warnings about the directives of a type. -/
def directiveWarnings (type : TypeInfo) : List Text :=
  Note.warnings (Directive.readDirectives type.fields type.doc).notes

theorem conflicts_append (type : TypeInfo) (a b : List Binding) :
    conflicts type (a ++ b) = conflicts type a ++ conflicts type b := by
  simp only [conflicts, List.flatMap_append, List.map_append, List.filter_append]

theorem mem_conflicts_iff {warning : Text} {bindings : List Binding} :
    warning ∈ conflicts type bindings ↔ ∃ name, warning = conflict type name ∧
      name ∈ directedNames type ∧ ∃ b ∈ bindings, b.Instantiates type.name name := by
  simp only [conflicts, List.mem_map, List.mem_filter, decide_eq_true_eq, List.mem_flatMap,
    ← Binding.exists_instancesOf_iff type.fields]
  constructor
  · rintro ⟨_, ⟨⟨i, ⟨b, bound, made⟩, rfl⟩, directed⟩, rfl⟩
    exact ⟨_, rfl, directed, b, bound, i, made, rfl⟩
  · rintro ⟨_, rfl, directed, b, bound, i, made, rfl⟩
    exact ⟨_, ⟨⟨i, ⟨b, bound, made⟩, rfl⟩, directed⟩, rfl⟩

/-- Different variables are warned of in different words. -/
theorem conflict_inj {other : Text} : conflict type name = conflict type other ↔ name = other := by
  refine ⟨fun same => ?_, congrArg _⟩
  simpa [conflict, Note.message, text] using same

theorem warnings_noteShadowed (s : Source) (type : TypeInfo) :
    Note.warnings (s.noteShadowed type (directed type)).notes = conflicts type s.bindings := by
  have among (v : Instance) : (directed type).any (fun i => decide (i.name = v.name)) =
      decide (v.name ∈ directedNames type) := by
    rw [Bool.eq_iff_iff]
    simp [directedNames]
  have warned (vs : List Instance) :
      Note.warnings (vs.map fun v => .shadowedVariable v.name type.name) =
        (vs.map (·.name)).map (conflict type) := by
    induction vs with
    | nil => rfl
    | cons v vs ih => exact congrArg _ ih
  unfold noteShadowed
  rw [warned, conflicts, List.filter_map]
  simp only [among, scan, Function.comp_def]

/-- A warning about a directive begins with other words than one about a variable. -/
theorem conflict_notMem_directiveWarnings (type other : TypeInfo) (name : Text) :
    conflict other name ∉ directiveWarnings type := by
  unfold directiveWarnings
  rw [Directive.notes_readDirectives, Note.warnings_flatMap, List.mem_flatMap]
  rintro ⟨line, -, mem⟩
  cases directive : Directive.isDirective line with
  | false =>
    rw [Directive.readDirective_of_not_isDirective directive] at mem
    cases mem
  | true =>
    rw [Directive.warnings_readDirective directive, List.mem_append] at mem
    rcases mem with skipped | nameless
    · obtain ⟨a, -, same⟩ := List.mem_map.1 skipped
      cases same
    · split at nameless
      · cases List.mem_singleton.1 nameless
      · cases nameless

/-! ## Resolution -/

theorem conflicts_of_not_directed (none : directed type = []) (bindings : List Binding) :
    conflicts type bindings = [] := by
  rw [conflicts, directedNames, none]
  simp

/-- What is warned of where a type has instances: first the directives, then variables with the
names of instances, if directives define these. -/
theorem warnings_resolve_of_ok {r : Resolution} (resolved : (s.resolve type).outcome = .ok r) :
    Note.warnings (s.resolve type).notes = directiveWarnings type ++ conflicts type s.bindings := by
  rw [resolve_eq_ok_iff] at resolved
  split at resolved
  · next none =>
    obtain ⟨some, distinct, -⟩ := resolved
    have silent : Note.warnings (s.takeVariables type).notes = [] := by
      unfold takeVariables
      rw [if_neg (mt List.isEmpty_iff.1 some), distinct]
      rfl
    have taken : (s.resolve type).notes = (Directive.readDirectives type.fields type.doc).notes ++
        (s.takeVariables type).notes := by
      rw [resolve_eq, Report.notes_bind_of_ok (Report.outcome_lift _), Report.notes_lift]
      exact congrArg _ (congrArg _ (if_pos (List.isEmpty_iff.2 none)))
    rw [taken, Note.warnings_append, silent, conflicts_of_not_directed none]
    rfl
  · next some =>
    rw [notes_resolve_of_directed some, resolved.1]
    simp only [Note.warnings_append, warnings_noteShadowed]
    exact congrArg _ (List.append_nil _)

/-- Of the variables with the name of an instance that directives define, those are warned of whose
declaration gives them a composite literal of the type, once for each such literal and in their
order. There is no warning about any other variable. -/
theorem warnings_resolve_of_generateVars {r : Resolution}
    (resolved : (s.resolve type).outcome = .ok r) (generated : r.generateVars = true) :
    r.instances.map (·.name) = directedNames type ∧
      Note.warnings (s.resolve type).notes =
        directiveWarnings type ++ conflicts type s.bindings ∧
      ∀ name, conflict type name ∈ Note.warnings (s.resolve type).notes ↔
        name ∈ directedNames type ∧ ∃ b ∈ s.bindings, b.Instantiates type.name name := by
  have read := resolve_eq_ok_iff.1 resolved
  split at read
  · obtain ⟨-, -, rfl⟩ := read
    cases generated
  · next some =>
    obtain ⟨-, rfl⟩ := read
    have all := warnings_resolve_of_ok resolved
    refine ⟨rfl, all, fun name => ?_⟩
    rw [all, List.mem_append, mem_conflicts_iff]
    constructor
    · rintro (directive | ⟨other, same, rest⟩)
      · exact absurd directive (conflict_notMem_directiveWarnings type type name)
      · cases conflict_inj.1 same
        exact rest
    · exact fun rest => .inr ⟨name, rfl, rest⟩

/-- A type with three directives, the last of which is not complete. -/
def suitedCard : TypeInfo where
  name := text "Card"
  doc := ["// enumr:Ace Rank:1", "// enumr:King Rank:13", "// enumr:Ten wild"].map text
  fields := [⟨text "Rank", text "int"⟩]

/-- Variables with the names of its instances: one with a literal of the type, one with a literal of
another type and one with none. -/
def suitedCards : Source where
  package := text "cards"
  types := [suitedCard]
  bindings := [⟨[text "Ten", text "Ace"], [none, some ⟨text "Card", []⟩]⟩,
    ⟨[text "King"], [some ⟨text "Suit", []⟩]⟩]

theorem warnings_resolve_of_generateVars_suitedCards :
    ∃ r, (suitedCards.resolve suitedCard).outcome = .ok r ∧ r.generateVars = true ∧
      r.instances.map (·.name) = ["Ace", "King", "Ten"].map text ∧
      Note.warnings (suitedCards.resolve suitedCard).notes =
        [text "skipping directive argument without value: 'wild'",
          text ("var Ace is also declared by an enumr directive on Card; " ++
            "the generated declaration will conflict")] ∧
      conflict suitedCard (text "King") ∉ Note.warnings (suitedCards.resolve suitedCard).notes := by
  obtain ⟨r, resolved, generated⟩ := exists_ok_of_any
    (x := (suitedCards.resolve suitedCard).outcome) (p := (·.generateVars)) (by decide +kernel)
  obtain ⟨named, warned, each⟩ := warnings_resolve_of_generateVars resolved generated
  refine ⟨r, resolved, generated, named.trans (by decide +kernel),
    warned.trans (by decide +kernel), ?_⟩
  rw [each]
  rintro ⟨-, b, bound, i, c, nameAt, valueAt, typed⟩
  simp only [suitedCards, List.mem_cons, List.not_mem_nil, or_false] at bound
  rcases bound with rfl | rfl
  · match i, nameAt with
    | 0, same => exact absurd same (by decide)
    | 1, same => exact absurd same (by decide)
  · match i, valueAt with
    | 0, same =>
      cases same
      exact absurd typed (by decide)

/-- A source file where a directive and a declaration give one name to a variable. -/
def calledAce : Text :=
  text "package p\n\n// enumr:Ace\ntype Card struct\x7b\x7d\n\nvar Ace = NewCard()\n"

/-- What is read from it. -/
def calledAceFile : SourceFile where
  package := text "p"
  types := [⟨⟨text "Card", [text "// enumr:Ace"], []⟩, true, 4⟩]
  bindings := [⟨[text "Ace"], [none]⟩]

/-- A variable with the name of an instance is not warned of if its value is a call. -/
theorem resolve_calledAce :
    SourceFile.ofText? ⟨.relative, [text "card.go"]⟩ calledAce = .ok calledAceFile ∧
      let card : TypeInfo := ⟨text "Card", [text "// enumr:Ace"], []⟩
      let s : Source := ⟨text "p", [card], calledAceFile.bindings⟩
      s.find? (text "Card") = .ok (some card) ∧
      (s.resolve card).outcome = .ok ⟨[⟨text "Ace", [], .directive⟩], true⟩ ∧
      (∃ b ∈ s.bindings, text "Ace" ∈ b.names) ∧ Note.warnings (s.resolve card).notes = [] := by
  refine ⟨eq_ok_of_toOption (by decide +kernel), eq_ok_of_toOption (by decide +kernel),
    eq_ok_of_toOption (by decide +kernel), by decide, by decide +kernel⟩

end Source

end EnumText
