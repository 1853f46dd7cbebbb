import EnumText.Proofs.Generation.Batches

/-!
# Why a request is refused

The checks of a request for one type come in a fixed order: the casing, the type, its instances, the
field that holds their texts, and the keys that the texts are read by. `Refused` lists the ways in
which a type fails, each with what was passed before.

* `enumeration_eq_error`: a type fails in no other way.
* `exists_text`: past the check of the field, each instance has a text.
* `Generator.run_single_iff`: a request for one type is refused exactly for these causes.
-/

namespace EnumText

/-! ## Texts -/

namespace Enumeration

variable {e : Enumeration}

/-- An instance that sets the field for its text has a text. -/
theorem exists_text {i : Instance} (set : ∀ field ∈ e.marshalField, i.fields.has field = true) :
    ∃ t, e.text? i = .ok t := by
  unfold text?
  split
  · exact ⟨_, rfl⟩
  · exact ⟨_, rfl⟩
  · next field _ some =>
    obtain ⟨literal, found⟩ := Option.isSome_iff_exists.1 (set field some)
    rw [found]
    exact ⟨_, rfl⟩

/-- Instances that have texts are refused for their keys alone. -/
theorem eq_duplicate_of_checkFrom {owners : List (Text × Text)} {instances : List Instance}
    {texts : List Text} {error : EncodingError} (read : instances.mapM e.text? = .ok texts)
    (refused : e.checkFrom owners instances = .error error) :
    ∃ first second key, error = .duplicate e.typeName first second key := by
  -- each instance that passes becomes an owner for those after it
  induction instances generalizing owners texts with
  | nil => cases refused
  | cons i rest ih =>
    obtain ⟨t, more, first, others, rfl⟩ := mapM_cons_eq_ok_iff.1 read
    rw [checkFrom, first] at refused
    simp only [bind, Except.bind] at refused
    split at refused
    · cases refused
      exact ⟨_, _, _, rfl⟩
    · exact ih others refused

end Enumeration

/-! ## Types -/

namespace TextForm

variable {form : TextForm} {typeName : Text} {instances : List Instance}

/-- The first of the instances that do not set a field. -/
def FirstUnset (field : Text) (instances : List Instance) (i : Instance) : Prop :=
  ∃ before after, instances = before ++ i :: after ∧
    (∀ j ∈ before, j.fields.has field = true) ∧ i.fields.has field = false

theorem find?_eq_some_iff_firstUnset {field : Text} {i : Instance} :
    instances.find? (fun i => !i.fields.has field) = some i ↔ FirstUnset field instances i := by
  simp only [List.find?_eq_some_iff_append, FirstUnset, Bool.not_eq_true', Bool.not_not]
  constructor
  · rintro ⟨unset, before, after, same, set⟩
    exact ⟨before, after, same, set, unset⟩
  · rintro ⟨before, after, same, set, unset⟩
    exact ⟨unset, before, after, same, set⟩

theorem checkField_eq_ok_iff :
    form.checkField typeName instances = .ok () ↔
      ∀ field ∈ form.field?, ∀ i ∈ instances, i.fields.has field = true := by
  unfold checkField
  cases form.field? with
  | none => simp
  | some field =>
    simp only [Option.mem_def, Option.some.injEq, forall_eq']
    cases found : instances.find? fun i => !i.fields.has field with
    | none => simpa using found
    | some i =>
      have unset := List.find?_some found
      simp only [reduceCtorEq, false_iff, not_forall]
      exact ⟨i, List.mem_of_find?_eq_some found, by simpa using unset⟩

theorem checkField_eq_error_iff {e : GenerationError} :
    form.checkField typeName instances = .error e ↔ ∃ field i, form.field? = some field ∧
      FirstUnset field instances i ∧ e = .missingMarshalField typeName i.name field := by
  simp only [← find?_eq_some_iff_firstUnset]
  unfold checkField
  cases form.field? with
  | none => simp
  | some field =>
    simp only [Option.some.injEq, exists_and_left, exists_eq_left']
    split
    · next i first => simp [first, eq_comm]
    · next none => simp [none]

end TextForm

namespace Source

variable {s : Source} {form : TextForm} {typeName : Text}

/-- The ways in which a type fails, in the order of the checks. -/
inductive Refused (s : Source) (form : TextForm) (typeName : Text) : GenerationError → Prop
  | repeatedField {e : RepeatedField} (found : s.find? typeName = .error e) :
    Refused s form typeName (.repeatedField e)
  | typeNotFound (found : s.find? typeName = .ok none) :
    Refused s form typeName (.typeNotFound typeName)
  | resolution {type : TypeInfo} {e : ResolutionError}
    (found : s.find? typeName = .ok (some type)) (failed : (s.resolve type).outcome = .error e) :
    Refused s form typeName (.resolution e)
  | missingMarshalField {type : TypeInfo} {r : Resolution} {field : Text} {i : Instance}
    (found : s.find? typeName = .ok (some type)) (resolved : (s.resolve type).outcome = .ok r)
    (given : form.field? = some field) (unset : TextForm.FirstUnset field r.instances i) :
    Refused s form typeName (.missingMarshalField typeName i.name field)
  | duplicate {type : TypeInfo} {r : Resolution} {texts : List Text} {first second key : Text}
    (found : s.find? typeName = .ok (some type)) (resolved : (s.resolve type).outcome = .ok r)
    (set : ∀ field ∈ form.field?, ∀ i ∈ r.instances, i.fields.has field = true)
    (read : r.instances.mapM (enumerationOf form type r).text? = .ok texts)
    (collide : ¬ ((enumerationOf form type r).zeroKeys ++ texts.map decodeKey).Nodup) :
    Refused s form typeName (.encoding (.duplicate typeName first second key))

/-- Once a type is found, its instances are resolved and checked. -/
theorem outcome_enumeration_of_type {type : TypeInfo}
    (found : s.find? typeName = .ok (some type)) :
    (s.enumeration form typeName).outcome =
      (s.resolve type).outcome.mapError .resolution >>= fun r =>
        form.checkField typeName r.instances >>= fun _ =>
          (enumerationOf form type r).check.mapError .encoding >>= fun _ =>
            .ok (enumerationOf form type r) := by
  obtain ⟨-, rfl, -⟩ := find?_eq_some found
  simp only [enumeration, Report.outcome_bind, Report.outcome_ofExcept, found]
  change Report.outcome _ = _
  simp only [Report.outcome_bind, Report.outcome_ofExcept, Report.outcome_mapError,
    Report.outcome_note, Report.outcome_pure]
  rfl

/-- A type fails in no other way. -/
theorem enumeration_eq_error {e : GenerationError}
    (h : (s.enumeration form typeName).outcome = .error e) : Refused s form typeName e := by
  cases found : s.find? typeName with
  | error e' =>
    simp only [enumeration, Report.outcome_bind, Report.outcome_ofExcept, found] at h
    cases h
    exact .repeatedField found
  | ok found' =>
    cases found' with
    | none =>
      simp only [enumeration, Report.outcome_bind, Report.outcome_ofExcept, found] at h
      cases h
      exact .typeNotFound found
    | some type =>
      obtain ⟨-, named, -⟩ := find?_eq_some found
      simp only [outcome_enumeration_of_type found, bind_eq_error_iff, mapError_eq_error_iff,
        mapError_eq_ok_iff] at h
      rcases h with ⟨e', failed, rfl⟩ | ⟨r, resolved, refused | ⟨_, set, collision⟩⟩
      · exact .resolution found failed
      · obtain ⟨field, i, given, unset, rfl⟩ := TextForm.checkField_eq_error_iff.1 refused
        exact .missingMarshalField found resolved given unset
      · -- past the check of the field no text is missing, so the keys are all that is left
        have set := TextForm.checkField_eq_ok_iff.1 set
        obtain ⟨texts, read⟩ : ∃ texts,
            r.instances.mapM (enumerationOf form type r).text? = .ok texts :=
          exists_mapM_eq_ok fun i mem =>
            Enumeration.exists_text fun field given => set field given i mem
        rcases collision with ⟨e', refused, rfl⟩ | ⟨_, _, wrong⟩
        · have collide : ¬ ((enumerationOf form type r).zeroKeys ++ texts.map decodeKey).Nodup := by
            intro distinct
            rw [Enumeration.check_eq_ok_iff.2 ⟨texts, read, distinct⟩] at refused
            cases refused
          obtain ⟨first, second, key, rfl⟩ := Enumeration.eq_duplicate_of_checkFrom read refused
          rw [show (enumerationOf form type r).typeName = typeName from named]
          exact .duplicate found resolved set read collide
        · cases wrong

/-! ## When each cause counts -/

theorem enumeration_eq_typeNotFound_iff {found : Option TypeInfo}
    (looked : s.find? typeName = .ok found) {name : Text} :
    (s.enumeration form typeName).outcome = .error (.typeNotFound name) ↔
      found = none ∧ name = typeName := by
  constructor
  · intro h
    cases enumeration_eq_error h with
    | typeNotFound absent =>
      rw [looked] at absent
      exact ⟨Except.ok.inj absent, rfl⟩
  · rintro ⟨rfl, rfl⟩
    simp only [enumeration, Report.outcome_bind, Report.outcome_ofExcept, looked]
    rfl

section Found

variable {type : TypeInfo} (found : s.find? typeName = .ok (some type))

include found

theorem enumeration_eq_resolution_iff {e : ResolutionError} :
    (s.enumeration form typeName).outcome = .error (.resolution e) ↔
      (s.resolve type).outcome = .error e := by
  constructor
  · intro h
    cases enumeration_eq_error h with
    | resolution found' failed =>
      cases found.symm.trans found'
      exact failed
  · intro failed
    rw [outcome_enumeration_of_type found, failed]
    rfl

variable {r : Resolution} (resolved : (s.resolve type).outcome = .ok r)

include resolved

theorem enumeration_eq_missingMarshalField_iff {owner name field : Text} :
    (s.enumeration form typeName).outcome = .error (.missingMarshalField owner name field) ↔
      owner = typeName ∧ form.field? = some field ∧
        ∃ i, TextForm.FirstUnset field r.instances i ∧ i.name = name := by
  constructor
  · intro h
    cases enumeration_eq_error h with
    | missingMarshalField found' resolved' given unset =>
      cases found.symm.trans found'
      cases resolved.symm.trans resolved'
      exact ⟨rfl, given, _, unset, rfl⟩
  · rintro ⟨rfl, given, i, unset, rfl⟩
    rw [outcome_enumeration_of_type found, resolved]
    refine bind_eq_error_iff.2 (.inr ⟨r, rfl, bind_eq_error_iff.2 (.inl ?_)⟩)
    exact TextForm.checkField_eq_error_iff.2 ⟨field, i, given, unset, rfl⟩

variable (set : ∀ field ∈ form.field?, ∀ i ∈ r.instances, i.fields.has field = true)
  {texts : List Text} (read : r.instances.mapM (enumerationOf form type r).text? = .ok texts)

include set read

theorem exists_enumeration_iff :
    (∃ e, (s.enumeration form typeName).outcome = .ok e) ↔
      ((enumerationOf form type r).zeroKeys ++ texts.map decodeKey).Nodup := by
  constructor
  · rintro ⟨e, h⟩
    obtain ⟨type', r', found', resolved', -, rfl, accepted⟩ := enumeration_eq_ok_iff.1 h
    cases found.symm.trans found'
    cases resolved.symm.trans resolved'
    obtain ⟨texts', read', distinct⟩ := Enumeration.check_eq_ok_iff.1 accepted
    cases read.symm.trans read'
    exact distinct
  · intro distinct
    have accepted := Enumeration.check_eq_ok_iff.2 ⟨texts, read, distinct⟩
    exact ⟨_, enumeration_eq_ok_iff.2
      ⟨type, r, found, resolved, TextForm.checkField_eq_ok_iff.2 set, rfl, accepted⟩⟩

theorem enumeration_eq_duplicate_iff :
    (∃ owner first second key, (s.enumeration form typeName).outcome =
        .error (.encoding (.duplicate owner first second key))) ↔
      ¬ ((enumerationOf form type r).zeroKeys ++ texts.map decodeKey).Nodup := by
  rw [← exists_enumeration_iff found resolved set read]
  constructor
  · rintro ⟨owner, first, second, key, h⟩ ⟨e, accepted⟩
    rw [h] at accepted
    cases accepted
  · intro refused
    cases h : (s.enumeration form typeName).outcome with
    | ok e => exact absurd ⟨e, h⟩ refused
    | error e =>
      cases enumeration_eq_error h with
      | repeatedField found' | typeNotFound found' =>
        cases found.symm.trans found'
      | resolution found' failed =>
        cases found.symm.trans found'
        cases resolved.symm.trans failed
      | missingMarshalField found' resolved' given unset =>
        cases found.symm.trans found'
        cases resolved.symm.trans resolved'
        obtain ⟨before, after, same, -, unset⟩ := unset
        rw [set _ given _ (by rw [same]; simp)] at unset
        cases unset
      | duplicate => exact ⟨_, _, _, _, rfl⟩

end Found

/-- Types that are given one after the other are found without a fault. -/
theorem exists_find?_of_ofTypes? {package : Text} {types : List TypeInfo} {bindings : List Binding}
    (given : ofTypes? package types bindings = .ok s) (typeName : Text) :
    ∃ found, s.find? typeName = .ok found := by
  obtain ⟨checked, passed, same⟩ := bind_eq_ok_iff.1 given
  cases same
  unfold find?
  split
  · exact ⟨none, rfl⟩
  · next type named =>
    obtain ⟨type', -, check⟩ := exists_of_mem_mapM passed type
      (List.mem_reverse.1 (List.mem_of_find?_eq_some named))
    obtain ⟨distinct, rfl⟩ := TypeInfo.check_eq_ok_iff.1 check
    rw [check]
    exact ⟨some type, rfl⟩

end Source

namespace Generator

variable {g : Generator} {s : Source} {r : Request} {casing : Casing} {typeName : Text}

theorem run_single_eq_error_iff (known : Casing.parse? r.format = some casing)
    (asked : r.typeNames = [typeName]) {e : GenerationError} :
    (g.run s r).2 = .error e ↔ (s.enumeration (r.form casing) typeName).outcome = .error e := by
  rw [run_single known asked, ← Source.body_eq_error_iff]
  cases s.body (r.form casing) typeName <;> simp [Except.map]

theorem exists_run_single_iff (known : Casing.parse? r.format = some casing)
    (asked : r.typeNames = [typeName]) :
    (∃ code, (g.run s r).2 = .ok (some code)) ↔
      ∃ e, (s.enumeration (r.form casing) typeName).outcome = .ok e := by
  rw [run_single known asked, ← Source.exists_body_iff]
  cases s.body (r.form casing) typeName <;> simp [Except.map]

/-- A request that is refused for a known casing has a type that is refused. -/
theorem run_eq_error (known : Casing.parse? r.format = some casing) {e : GenerationError}
    (h : (g.run s r).2 = .error e) : ∃ typeName, s.Refused (r.form casing) typeName e := by
  rw [run_of_casing known] at h
  cases asked : r.typeNames with
  | nil =>
    rw [asked] at h
    cases h
  | cons typeName rest =>
    have nonempty : r.typeNames ≠ [] := by
      rw [asked]
      exact List.cons_ne_nil _ _
    rw [Source.outcome_generate nonempty] at h
    cases failed : r.typeNames.mapM (s.body (r.form casing)) with
    | ok bodies =>
      rw [failed] at h
      cases h
    | error e' =>
      rw [failed] at h
      cases h
      obtain ⟨-, other, -, -, -, refused⟩ := mapM_eq_error_iff.1 failed
      exact ⟨other, Source.enumeration_eq_error (Source.body_eq_error_iff.1 refused)⟩

/-- No request fails for an instance whose text is missing: that is found out before. -/
theorem run_ne_unset (field : Text) : (g.run s r).2 ≠ .error (.encoding (.unset field)) := by
  intro h
  cases known : Casing.parse? r.format with
  | none =>
    rw [run, known] at h
    cases h
  | some casing =>
    obtain ⟨typeName, refused⟩ := run_eq_error known h
    cases refused

theorem run_eq_unknownCasing_iff {shown : Text} :
    (g.run s r).2 = .error (.unknownCasing shown) ↔
      Casing.parse? r.format = none ∧ shown = r.format.display := by
  constructor
  · intro h
    cases known : Casing.parse? r.format with
    | none =>
      rw [run, known] at h
      cases h
      exact ⟨rfl, rfl⟩
    | some casing =>
      obtain ⟨typeName, refused⟩ := run_eq_error known h
      cases refused
  · rintro ⟨unknown, rfl⟩
    rw [run, unknown]

/-- A request for one type is refused exactly for these causes, the first of which counts: a casing
that is not known, a type that the source does not have, a type without a resolution, an instance
that does not set the marshal field, the first of which is named, and two keys that agree, those of
instances or that of one and the empty text where it is read as the zero value. It is answered with
code otherwise. No request fails for an instance whose text is missing. -/
theorem run_single_iff (g : Generator) (s : Source) (r : Request) :
    (∀ field, (g.run s r).2 ≠ .error (.encoding (.unset field))) ∧
    (∀ package types bindings, Source.ofTypes? package types bindings = .ok s →
      ∀ typeName, ∃ found, s.find? typeName = .ok found) ∧
    ∀ typeName found, r.typeNames = [typeName] → s.find? typeName = .ok found →
      (∀ shown, (g.run s r).2 = .error (.unknownCasing shown) ↔
        Casing.parse? r.format = none ∧ shown = r.format.display) ∧
      ∀ casing, Casing.parse? r.format = some casing →
        (∀ name, (g.run s r).2 = .error (.typeNotFound name) ↔ found = none ∧ name = typeName) ∧
        ∀ type, found = some type →
          (∀ e, (g.run s r).2 = .error (.resolution e) ↔ (s.resolve type).outcome = .error e) ∧
          ∀ resolution, (s.resolve type).outcome = .ok resolution →
            (∀ owner name field,
              (g.run s r).2 = .error (.missingMarshalField owner name field) ↔
                owner = typeName ∧ r.marshalField = some field ∧ field ≠ [] ∧
                  ∃ i, TextForm.FirstUnset field resolution.instances i ∧ i.name = name) ∧
            ((∀ field, r.marshalField = some field → field ≠ [] →
                ∀ i ∈ resolution.instances, i.fields.has field = true) →
              ∃ texts, resolution.instances.mapM
                  (Source.enumerationOf (r.form casing) type resolution).text? = .ok texts ∧
                ((∃ owner first second key,
                    (g.run s r).2 = .error (.encoding (.duplicate owner first second key))) ↔
                  ¬ (texts.map decodeKey).Nodup ∨
                    r.allowZero = true ∧ [] ∈ texts.map decodeKey) ∧
                ((∃ code, (g.run s r).2 = .ok (some code)) ↔
                  (texts.map decodeKey).Nodup ∧
                    ¬ (r.allowZero = true ∧ [] ∈ texts.map decodeKey))) := by
  refine ⟨run_ne_unset, fun _ _ _ given => Source.exists_find?_of_ofTypes? given, ?_⟩
  intro typeName found asked looked
  refine ⟨fun _ => run_eq_unknownCasing_iff, fun casing known => ?_⟩
  have given (field : Text) : (r.form casing).field? = some field ↔
      r.marshalField = some field ∧ field ≠ [] := by
    simp only [TextForm.field?, Request.form, Option.filter_eq_some_iff, decide_eq_true_eq]
  simp only [run_single_eq_error_iff known asked, exists_run_single_iff known asked]
  refine ⟨fun _ => Source.enumeration_eq_typeNotFound_iff looked, ?_⟩
  rintro type rfl
  refine ⟨fun _ => Source.enumeration_eq_resolution_iff looked, fun resolution resolved => ?_⟩
  constructor
  · intro owner name field
    rw [Source.enumeration_eq_missingMarshalField_iff looked resolved, given field, and_assoc]
  · intro set
    have set : ∀ field ∈ (r.form casing).field?, ∀ i ∈ resolution.instances,
        i.fields.has field = true := by
      intro field some
      obtain ⟨some, nonempty⟩ := (given field).1 some
      exact set field some nonempty
    obtain ⟨texts, read⟩ : ∃ texts, resolution.instances.mapM
        (Source.enumerationOf (r.form casing) type resolution).text? = .ok texts :=
      exists_mapM_eq_ok fun i mem =>
        Enumeration.exists_text fun field some => set field some i mem
    have distinct := Enumeration.nodup_zeroKeys_iff
      (Source.enumerationOf (r.form casing) type resolution) (texts.map decodeKey)
    refine ⟨texts, read, ?_, ?_⟩
    · rw [Source.enumeration_eq_duplicate_iff looked resolved set read, distinct, not_and_or,
        not_not]
      exact Iff.rfl
    · rw [Source.exists_enumeration_iff looked resolved set read, distinct]
      exact Iff.rfl

/-- A source with a type whose instances have labels that are read alike, and a type of which two
instances have no label. -/
def salutes : Source where
  package := text "salutes"
  types := [
    ⟨text "Salute", [text "// enumr:Loud Label:HEY", text "// enumr:Soft Label:hey"],
      [⟨text "Label", text "string"⟩]⟩,
    ⟨text "Reply", [text "// enumr:Kind Label:hello", text "// enumr:Mute", text "// enumr:Rude"],
      [⟨text "Label", text "string"⟩]⟩]
  bindings := []

/-- A request for one of the types by the labels. -/
def salutesRequest (typeName : Text) : Request where
  typeNames := [typeName]
  format := text "snake_case"
  marshalField := some (text "Label")
  allowZero := false

theorem run_single_iff_salutes :
    Casing.parse? (text "snake_case") = some .snake ∧
    (fresh.run salutes (salutesRequest (text "Bow"))).2 = .error (.typeNotFound (text "Bow")) ∧
    (fresh.run salutes (salutesRequest (text "Reply"))).2 =
      .error (.missingMarshalField (text "Reply") (text "Mute") (text "Label")) ∧
    ∃ owner first second key, (fresh.run salutes (salutesRequest (text "Salute"))).2 =
      .error (.encoding (.duplicate owner first second key)) := by
  have known : Casing.parse? (text "snake_case") = some .snake := by decide
  have causes (typeName : Text) :=
    (run_single_iff fresh salutes (salutesRequest typeName)).2.2 typeName
  refine ⟨known, ?_, ?_, ?_⟩
  · have absent : salutes.find? (text "Bow") = .ok none := by decide +kernel
    obtain ⟨-, causes⟩ := causes (text "Bow") _ rfl absent
    exact ((causes _ known).1 _).2 ⟨rfl, rfl⟩
  · have found : salutes.find? (text "Reply") = .ok salutes.types[1]? := by decide +kernel
    let kind : Instance := ⟨text "Kind", [(text "Label", text "\"hello\"")], .directive⟩
    let mute : Instance := ⟨text "Mute", [], .directive⟩
    let rude : Instance := ⟨text "Rude", [], .directive⟩
    have resolved : (salutes.resolve salutes.types[1]).outcome = .ok ⟨[kind, mute, rude], true⟩ :=
      eq_ok_of_toOption (by decide +kernel)
    have unset : TextForm.FirstUnset (text "Label") [kind, mute, rude] mute :=
      ⟨[kind], [rude], rfl, by decide, rfl⟩
    obtain ⟨-, causes⟩ := causes (text "Reply") _ rfl found
    obtain ⟨-, causes⟩ := (causes _ known).2 _ rfl
    exact ((causes _ resolved).1 _ _ _).2 ⟨rfl, rfl, by decide, mute, unset, rfl⟩
  · have found : salutes.find? (text "Salute") = .ok salutes.types[0]? := by decide +kernel
    let loud : Instance := ⟨text "Loud", [(text "Label", text "\"HEY\"")], .directive⟩
    let soft : Instance := ⟨text "Soft", [(text "Label", text "\"hey\"")], .directive⟩
    have resolved : (salutes.resolve salutes.types[0]).outcome = .ok ⟨[loud, soft], true⟩ :=
      eq_ok_of_toOption (by decide +kernel)
    have set : ∀ i ∈ [loud, soft], i.fields.has (text "Label") = true := by decide
    obtain ⟨-, causes⟩ := causes (text "Salute") _ rfl found
    obtain ⟨-, causes⟩ := (causes _ known).2 _ rfl
    obtain ⟨texts, read, collision, -⟩ := (causes _ resolved).2 fun field given _ => by
      cases given
      exact set
    have same : texts = [text "HEY", text "hey"] := by
      refine Except.ok.inj (read.symm.trans ?_)
      decide +kernel
    subst same
    exact collision.2 (.inl (by decide +kernel))

end Generator

end EnumText
