import EnumText.Proofs.Enumeration.Decoding
import EnumText.Proofs.Generation.Answers

/-!
# Requests for several types

A file for several types is made of what the files for each of them alone have below the header.
Types are taken in turn, so the first that fails alone fails for all, and the warnings are those up
to it. What was asked before does not count.

* `outcome_generate`: the code of a file is put together from the `body` of each type.
* `notes_enumerations_append`: the notes on types that succeed come before those on the others.
* `Generator.run_batch`: a request for several types, told by the requests for each.
-/

namespace EnumText

namespace Source

variable {s : Source} {form : TextForm} {typeName : Text} {typeNames : List Text}

/-! ## Code -/

/-- An enumeration has passed all checks, so it can be shown. -/
theorem exists_view_of_enumeration {e : Enumeration}
    (h : (s.enumeration form typeName).outcome = .ok e) : ∃ v, e.view? = .ok v := by
  obtain ⟨type, r, -, -, -, -, accepted⟩ := enumeration_eq_ok_iff.1 h
  obtain ⟨texts, read, -⟩ := Enumeration.check_eq_ok_iff.1 accepted
  obtain ⟨v, view, -⟩ := Enumeration.exists_view read
  exact ⟨v, view⟩

/-- The code that is generated for a type, without the header of the file. -/
def body (s : Source) (form : TextForm) (typeName : Text) : Except GenerationError Text :=
  (s.enumeration form typeName).outcome >>= fun e =>
    (e.view?.mapError .encoding).map Enumeration.View.code

theorem body_of_enumeration {e : Enumeration} {v : Enumeration.View}
    (found : (s.enumeration form typeName).outcome = .ok e) (view : e.view? = .ok v) :
    s.body form typeName = .ok v.code := by
  rw [body, found]
  exact map_eq_ok_iff.2 ⟨v, mapError_eq_ok_iff.2 view, rfl⟩

theorem body_eq_error_iff {e : GenerationError} :
    s.body form typeName = .error e ↔ (s.enumeration form typeName).outcome = .error e := by
  cases found : (s.enumeration form typeName).outcome with
  | error e' =>
    rw [body, found]
    exact Iff.rfl.trans (by simp [bind, Except.bind])
  | ok enumeration =>
    obtain ⟨v, view⟩ := exists_view_of_enumeration found
    rw [body_of_enumeration found view]
    simp

theorem exists_body_iff :
    (∃ b, s.body form typeName = .ok b) ↔
      ∃ e, (s.enumeration form typeName).outcome = .ok e := by
  constructor
  · rintro ⟨b, made⟩
    obtain ⟨e, found, -⟩ := bind_eq_ok_iff.1 made
    exact ⟨e, found⟩
  · rintro ⟨e, found⟩
    obtain ⟨v, view⟩ := exists_view_of_enumeration found
    exact ⟨v.code, body_of_enumeration found view⟩

theorem mapM_body {enumerations : List Enumeration}
    (found : typeNames.mapM (fun typeName => (s.enumeration form typeName).outcome) =
      .ok enumerations) :
    ∃ views, enumerations.mapM Enumeration.view? = .ok views ∧
      typeNames.mapM (s.body form) = .ok (views.map Enumeration.View.code) := by
  induction typeNames generalizing enumerations with
  | nil =>
    cases found
    exact ⟨[], rfl, rfl⟩
  | cons typeName rest ih =>
    obtain ⟨e, more, first, others, rfl⟩ := mapM_cons_eq_ok_iff.1 found
    obtain ⟨v, view⟩ := exists_view_of_enumeration first
    obtain ⟨views, shown, bodies⟩ := ih others
    exact ⟨v :: views, mapM_cons_eq_ok_iff.2 ⟨v, views, view, shown, rfl⟩,
      mapM_cons_eq_ok_iff.2 ⟨v.code, _, body_of_enumeration first view, bodies, rfl⟩⟩

/-- The code of a file is the header and the bodies of the types in order. -/
theorem outcome_generate (nonempty : typeNames ≠ []) :
    (s.generate form typeNames).outcome =
      (typeNames.mapM (s.body form)).map fun bodies =>
        some (codeHeader s.package ++ bodies.flatten) := by
  cases found : typeNames.mapM fun typeName => (s.enumeration form typeName).outcome with
  | error e =>
    -- showing an accepted enumeration cannot fail, so the first failure is the same one
    have failed : typeNames.mapM (s.body form) = .error e := by
      obtain ⟨done, typeName, later, same, passed, first⟩ := mapM_eq_error_iff.1 found
      exact mapM_eq_error_iff.2 ⟨done, typeName, later, same,
        fun other mem => exists_body_iff.2 (passed other mem), body_eq_error_iff.2 first⟩
    rw [generate, Report.outcome_bind, outcome_enumerations, found, failed]
    rfl
  | ok enumerations =>
    obtain ⟨views, shown, bodies⟩ := mapM_body found
    have written : codeFile? s.package enumerations =
        .ok (codeHeader s.package ++ (views.map Enumeration.View.code).flatten) :=
      bind_eq_ok_iff.2 ⟨views, shown, rfl⟩
    have some : enumerations ≠ [] := by
      rintro rfl
      exact nonempty (List.map_eq_nil_iff.1 (map_eq_of_mapM found))
    rw [bodies]
    exact generate_eq_some_iff.2 ⟨enumerations, found, some, written⟩

/-! ## Notes -/

theorem notes_enumerations_append {done later : List Text}
    (passed : ∀ typeName ∈ done, ∃ e, (s.enumeration form typeName).outcome = .ok e) :
    (s.enumerations form (done ++ later)).notes =
      (done.flatMap fun typeName => (s.enumeration form typeName).notes) ++
        (s.enumerations form later).notes := by
  induction done with
  | nil => rfl
  | cons typeName done ih =>
    obtain ⟨⟨e, found⟩, others⟩ := List.forall_mem_cons.1 passed
    rw [List.cons_append, enumerations, Report.notes_bind_of_ok found, Report.notes_bind_pure,
      ih others, List.flatMap_cons, List.append_assoc]

theorem notes_generate (typeNames : List Text) :
    (s.generate form typeNames).notes = (s.enumerations form typeNames).notes := by
  rw [generate]
  cases found : (s.enumerations form typeNames).outcome with
  | error e => exact Report.notes_bind_of_error found _
  | ok enumerations =>
    rw [Report.notes_bind_of_ok found]
    split
    · exact List.append_nil _
    · rw [Report.notes_bind_pure, Report.notes_ofExcept, List.append_nil]

theorem notes_generate_of_ok
    (passed : ∀ typeName ∈ typeNames, ∃ e, (s.enumeration form typeName).outcome = .ok e) :
    (s.generate form typeNames).notes =
      typeNames.flatMap fun typeName => (s.enumeration form typeName).notes := by
  have all : (s.enumerations form (typeNames ++ [])).notes =
      (typeNames.flatMap fun typeName => (s.enumeration form typeName).notes) ++ [] :=
    notes_enumerations_append passed
  rw [notes_generate, ← List.append_nil typeNames, all, List.append_nil, List.append_nil]

theorem notes_generate_of_error {done later : List Text} {e : GenerationError}
    (passed : ∀ typeName ∈ done, ∃ e, (s.enumeration form typeName).outcome = .ok e)
    (failed : (s.enumeration form typeName).outcome = .error e) :
    (s.generate form (done ++ typeName :: later)).notes =
      (done ++ [typeName]).flatMap fun typeName => (s.enumeration form typeName).notes := by
  rw [notes_generate, notes_enumerations_append passed, enumerations,
    Report.notes_bind_of_error failed, List.flatMap_append, List.flatMap_singleton]

end Source

namespace Request

/-- What is asked for one of the types alone. -/
def only (r : Request) (typeName : Text) : Request := { r with typeNames := [typeName] }

/-- How the texts of instances are formed that a request asks for, in the casing that it names. -/
def form (r : Request) (casing : Casing) : TextForm := ⟨casing, r.marshalField, r.allowZero⟩

end Request

namespace Generator

variable {g : Generator} {s : Source} {r : Request} {casing : Casing}

theorem run_of_casing (known : Casing.parse? r.format = some casing) :
    g.run s r = (⟨Note.warnings (s.generate (r.form casing) r.typeNames).notes⟩,
      (s.generate (r.form casing) r.typeNames).outcome) := by
  rw [run, known]
  rfl

theorem run_only (known : Casing.parse? r.format = some casing) (typeName : Text) :
    g.run s (r.only typeName) =
      (⟨Note.warnings (s.enumeration (r.form casing) typeName).notes⟩,
        (s.body (r.form casing) typeName).map fun body => some (codeHeader s.package ++ body)) := by
  have notes : (s.generate (r.form casing) [typeName]).notes =
      (s.enumeration (r.form casing) typeName).notes := by
    rw [Source.notes_generate, Source.enumerations]
    cases found : (s.enumeration (r.form casing) typeName).outcome with
    | error e => exact Report.notes_bind_of_error found _
    | ok e => exact (Report.notes_bind_of_ok found _).trans (List.append_nil _)
  have outcome : (s.generate (r.form casing) [typeName]).outcome =
      (s.body (r.form casing) typeName).map fun body => some (codeHeader s.package ++ body) := by
    rw [Source.outcome_generate (List.cons_ne_nil _ _)]
    cases made : s.body (r.form casing) typeName with
    | error e => rw [mapM_cons_eq_error_iff.2 (.inl made)]; rfl
    | ok body =>
      rw [mapM_cons_eq_ok_iff.2 ⟨body, [], made, rfl, rfl⟩]
      exact congrArg (fun rest => Except.ok (some (codeHeader s.package ++ rest)))
        (List.append_nil body)
  rw [run_of_casing (r := r.only typeName) known, ← notes, ← outcome]
  rfl

theorem run_single {typeName : Text} (known : Casing.parse? r.format = some casing)
    (asked : r.typeNames = [typeName]) :
    (g.run s r).2 =
      (s.body (r.form casing) typeName).map fun body => some (codeHeader s.package ++ body) := by
  have only : r.only typeName = r := by
    obtain ⟨typeNames, format, marshalField, allowZero⟩ := r
    cases asked
    rfl
  have run := run_only (g := g) (s := s) known typeName
  rw [only] at run
  rw [run]

/-- A request for types is answered as the requests for each of them alone, whatever was asked
before. There is code for all of them exactly if there is code for each, and below the header it is
the code for each in order. Otherwise the request is refused as the first is that fails. The
warnings are those on the types up to there. -/
theorem run_batch (g : Generator) (known : Casing.parse? r.format = some casing)
    (nonempty : r.typeNames ≠ []) :
    let alone (typeName : Text) := fresh.run s (r.only typeName)
    let after (typeNames : List Text) : Generator :=
      ⟨typeNames.flatMap fun typeName => (alone typeName).1.warnings⟩
    ((∃ code, (g.run s r).2 = .ok (some code)) ↔
      ∀ typeName ∈ r.typeNames, ∃ code, (alone typeName).2 = .ok (some code)) ∧
    ((∃ bodies : List Text,
        r.typeNames.map (fun typeName => (alone typeName).2) =
          bodies.map (fun body => .ok (some (codeHeader s.package ++ body))) ∧
        g.run s r = (after r.typeNames, .ok (some (codeHeader s.package ++ bodies.flatten)))) ∨
      ∃ done typeName later e, r.typeNames = done ++ typeName :: later ∧
        (∀ other ∈ done, ∃ code, (alone other).2 = .ok (some code)) ∧
        (alone typeName).2 = .error e ∧
        g.run s r = (after (done ++ [typeName]), .error e)) := by
  intro alone after
  have each (typeName : Text) : alone typeName =
      (⟨Note.warnings (s.enumeration (r.form casing) typeName).notes⟩,
        (s.body (r.form casing) typeName).map fun body => some (codeHeader s.package ++ body)) :=
    run_only known typeName
  have afterwards (typeNames : List Text) : after typeNames = ⟨Note.warnings
      (typeNames.flatMap fun typeName => (s.enumeration (r.form casing) typeName).notes)⟩ := by
    simp only [after, each, Note.warnings_flatMap]
  have whole := run_of_casing (g := g) (s := s) known
  rw [Source.outcome_generate nonempty] at whole
  have coded (typeName : Text) : (∃ code, (alone typeName).2 = .ok (some code)) ↔
      ∃ b, s.body (r.form casing) typeName = .ok b := by
    rw [each]
    cases s.body (r.form casing) typeName <;> simp [Except.map]
  cases made : r.typeNames.mapM (s.body (r.form casing)) with
  | ok bodies =>
    have passed := exists_eq_ok_of_mapM made
    rw [made, Source.notes_generate_of_ok fun typeName mem =>
      Source.exists_body_iff.1 (passed typeName mem), ← afterwards] at whole
    refine ⟨⟨fun _ typeName mem => (coded typeName).2 (passed typeName mem), fun _ => ?_⟩,
      .inl ⟨bodies, ?_, whole⟩⟩
    · exact ⟨_, congrArg Prod.snd whole⟩
    · have all := congrArg (List.map (Except.map fun body => some (codeHeader s.package ++ body)))
        (map_eq_of_mapM made)
      rw [List.map_map, List.map_map] at all
      simp only [each]
      exact all
  | error e =>
    obtain ⟨done, typeName, later, same, passed, failed⟩ := mapM_eq_error_iff.1 made
    have refused : (alone typeName).2 = .error e := by
      rw [each, failed]
      rfl
    have earlier := fun other mem => Source.exists_body_iff.1 (passed other mem)
    rw [made, same, Source.notes_generate_of_error earlier (Source.body_eq_error_iff.1 failed),
      ← afterwards] at whole
    refine ⟨⟨fun ⟨code, answered⟩ => ?_, fun all => ?_⟩,
      .inr ⟨done, typeName, later, e, same, fun other mem => (coded other).2 (passed other mem),
        refused, whole⟩⟩
    · rw [whole] at answered
      cases answered
    · obtain ⟨code, answered⟩ := all typeName (by rw [same]; simp)
      rw [refused] at answered
      cases answered

/-- A source with a type whose directive has an argument without a colon, and a type whose instance
is a variable. -/
def deck : Source where
  package := text "deck"
  types := [
    ⟨text "Card", [text "// enumr:Ace Rank:1 wild"], [⟨text "Rank", text "int"⟩]⟩,
    ⟨text "Suit", [], []⟩]
  bindings := [⟨[text "Heart"], [some ⟨text "Suit", []⟩]⟩]

/-- A request for the types of the source, with one between them that is not declared. -/
def deckRequest : Request where
  typeNames := [text "Card", text "Joker", text "Suit"]
  format := text "snake_case"
  marshalField := none
  allowZero := true

theorem run_batch_deck :
    Casing.parse? deckRequest.format = some .snake ∧ deckRequest.typeNames ≠ [] ∧
    Generator.run ⟨[text "an earlier warning"]⟩ deck deckRequest =
      (⟨[text "skipping directive argument without value: 'wild'"]⟩,
        .error (.typeNotFound (text "Joker"))) := by
  have known : Casing.parse? deckRequest.format = some .snake := by decide
  have nonempty : deckRequest.typeNames ≠ [] := List.cons_ne_nil _ _
  have card : (fresh.run deck (deckRequest.only (text "Card"))).1 =
      ⟨[text "skipping directive argument without value: 'wild'"]⟩ := by decide +kernel
  have coded : (fresh.run deck (deckRequest.only (text "Card"))).2.toOption.isSome = true := by
    decide +kernel
  have joker : fresh.run deck (deckRequest.only (text "Joker")) =
      (⟨[]⟩, .error (.typeNotFound (text "Joker"))) := by decide +kernel
  refine ⟨known, nonempty, ?_⟩
  obtain ⟨-, ⟨bodies, all, -⟩ | ⟨done, typeName, later, e, same, passed, refused, answer⟩⟩ :=
    run_batch (s := deck) ⟨[text "an earlier warning"]⟩ known nonempty
  · have refused : .error (.typeNotFound (text "Joker")) ∈
        deckRequest.typeNames.map fun typeName => (fresh.run deck (deckRequest.only typeName)).2 :=
      List.mem_map.2 ⟨text "Joker", by decide, congrArg Prod.snd joker⟩
    rw [all] at refused
    obtain ⟨_, -, wrong⟩ := List.mem_map.1 refused
    cases wrong
  · cases done with
    | nil =>
      cases same
      rw [refused] at coded
      cases coded
    | cons first done =>
      cases done with
      | nil =>
        cases same
        dsimp only at refused
        rw [joker] at refused
        cases refused
        rw [answer]
        simp only [List.singleton_append, List.flatMap_cons, List.flatMap_nil, card, joker,
          List.append_nil]
      | cons second done =>
        obtain ⟨-, same⟩ := List.cons.inj (show [text "Card", text "Joker", text "Suit"] =
          first :: second :: (done ++ typeName :: later) from same)
        obtain ⟨rfl, -⟩ := List.cons.inj same
        obtain ⟨_, wrong⟩ := passed (text "Joker") (by simp)
        dsimp only at wrong
        rw [joker] at wrong
        cases wrong

end Generator

end EnumText
