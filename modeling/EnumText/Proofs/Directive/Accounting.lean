import EnumText.Proofs.Directive.Arguments
import EnumText.Proofs.Report

/-!
# What becomes of each line

A directive is a comment line whose content starts with the tag. Each directive defines an instance
or is noted as nameless, and other lines give nothing.

* `readDirective_of_isDirective`: what a directive gives, with the notes on it.
* `flatMap_filter_isDirective`: only the directives count among the lines of a doc comment.
* `readDirectives_accounted`: no directive is lost, and no argument of one.
-/

namespace EnumText.Directive

/-- The content of a comment line. -/
def contentOf (line : Text) : Text := Text.strip (line.drop 2)

/-- Whether a line is a directive. -/
def isDirective (line : Text) : Bool :=
  line.startsWith (text "//") && (contentOf line).startsWith (text "enumr:")

/-- The arguments of a directive. -/
def argumentsOf (line : Text) : List Text := splitArguments (contentOf line)

/-- The name that a directive gives, unless it is empty. -/
def nameOf (line : Text) : Option Text :=
  ((readArguments (argumentsOf line)).value.get? tag).filter (· ≠ [])

variable {line : Text}

/-! ## One line -/

theorem content?_eq_ite (line : Text) :
    content? line = if isDirective line then some (contentOf line) else none := by
  have whole : tag ++ text ":" = text "enumr:" := rfl
  rw [content?, isDirective, whole]
  cases line.startsWith (text "//") <;> rfl

/-- The first argument of a directive has the tag as its key. -/
theorem exists_argumentsOf_eq_cons (directive : isDirective line = true) :
    ∃ first others, argumentsOf line = first :: others ∧ HasKey tag first :=
  exists_hasKey_tag (Bool.and_eq_true_iff.1 directive).2

theorem readDirective_of_not_isDirective (other : isDirective line = false) (fields : List Field) :
    readDirective fields line = ⟨[], none⟩ := by
  rw [readDirective, content?_eq_ite, other]
  rfl

/-- A directive defines the instance that it names, or it is noted as nameless. -/
theorem readDirective_of_isDirective (directive : isDirective line = true) (fields : List Field) :
    readDirective fields line =
      ⟨(readArguments (argumentsOf line)).notes ++
          if nameOf line = none then [.namelessDirective (contentOf line)] else [],
        (nameOf line).map fun name =>
          ⟨name, fieldLiterals fields ((readArguments (argumentsOf line)).value.erase tag),
            .directive⟩⟩ := by
  obtain ⟨first, others, cons, -⟩ := exists_argumentsOf_eq_cons directive
  have nonempty : (splitArguments (contentOf line)).isEmpty = false := by
    rw [← argumentsOf, cons]
    rfl
  rw [readDirective, content?_eq_ite, directive, nameOf, argumentsOf]
  simp only [if_true, nonempty]
  cases readArguments (splitArguments (contentOf line)) with
  | mk notes values =>
    dsimp only [bind]
    cases values.get? tag with
    | none => rfl
    | some name =>
      cases name with
      | nil => rfl
      | cons c name => rfl

theorem readDirective_eq_some_iff {fields : List Field} {i : Instance} :
    (readDirective fields line).value = some i ↔ isDirective line = true ∧
      ∃ name, nameOf line = some name ∧ i = ⟨name, fieldLiterals fields
        ((readArguments (argumentsOf line)).value.erase tag), .directive⟩ := by
  cases directive : isDirective line with
  | true =>
    rw [readDirective_of_isDirective directive, Option.map_eq_some_iff]
    simp only [true_and, eq_comm]
  | false =>
    rw [readDirective_of_not_isDirective directive]
    simp

/-- An argument without a colon is warned of, and so is a directive that is nameless. -/
theorem warnings_readDirective (directive : isDirective line = true) (fields : List Field) :
    Note.warnings (readDirective fields line).notes =
      ((argumentsOf line).filter fun a => .scalar ':' ∉ a).map
          (fun a => text "skipping directive argument without value: " ++ a.display) ++
        if nameOf line = none
          then [text "directive without instance name: " ++ (contentOf line).display] else [] := by
  have skipped (arguments : List Text) : Note.warnings (arguments.map .skippedArgument) =
      arguments.map fun a => text "skipping directive argument without value: " ++ a.display := by
    induction arguments with
    | nil => rfl
    | cons a arguments ih => exact congrArg _ ih
  rw [readDirective_of_isDirective directive, Note.warnings_append, notes_readArguments, skipped]
  split <;> rfl

/-! ## All lines -/

theorem value_readDirectives (fields : List Field) (doc : List Text) :
    (readDirectives fields doc).value =
      doc.flatMap fun line => (readDirective fields line).value.toList := by
  induction doc with
  | nil => rfl
  | cons line doc ih =>
    rw [List.flatMap_cons, ← ih]
    rfl

theorem notes_readDirectives (fields : List Field) (doc : List Text) :
    (readDirectives fields doc).notes =
      doc.flatMap fun line => (readDirective fields line).notes := by
  induction doc with
  | nil => rfl
  | cons line doc ih =>
    have step : (readDirectives fields (line :: doc)).notes =
      (readDirective fields line).notes ++ ((readDirectives fields doc).notes ++ []) := rfl
    rw [List.flatMap_cons, ← ih, step, List.append_nil]

/-- What other lines give nothing to is made of what the directives give. -/
theorem flatMap_filter_isDirective {α : Type} {f : Text → List α}
    (none : ∀ line, isDirective line = false → f line = []) (doc : List Text) :
    (doc.filter isDirective).flatMap f = doc.flatMap f := by
  induction doc with
  | nil => rfl
  | cons line doc ih =>
    cases directive : isDirective line with
    | true => rw [List.filter_cons_of_pos directive, List.flatMap_cons, List.flatMap_cons, ih]
    | false =>
      rw [List.filter_cons_of_neg (by simp [directive]), List.flatMap_cons, ih, none line directive]
      rfl

/-- Whether a warning is about a directive without a name. -/
def isNameless (warning : Text) : Bool :=
  warning.startsWith (text "directive without instance name")

/-- A directive gives one instance or one warning of a missing name. -/
theorem countP_isNameless (directive : isDirective line = true) (fields : List Field) :
    (readDirective fields line).value.toList.length +
      (Note.warnings (readDirective fields line).notes).countP isNameless = 1 := by
  have skipped (arguments : List Text) : (arguments.map fun a =>
      text "skipping directive argument without value: " ++ a.display).countP isNameless = 0 := by
    rw [List.countP_eq_zero, List.forall_mem_map]
    intro a _ nameless
    cases nameless
  rw [warnings_readDirective directive, List.countP_append, skipped,
    readDirective_of_isDirective directive]
  cases nameOf line with
  | none => rfl
  | some name => rfl

theorem countP_isDirective (fields : List Field) (doc : List Text) :
    doc.countP isDirective = (readDirectives fields doc).value.length +
      (Note.warnings (readDirectives fields doc).notes).countP isNameless := by
  rw [value_readDirectives, notes_readDirectives, Note.warnings_flatMap]
  induction doc with
  | nil => rfl
  | cons line doc ih =>
    rw [List.countP_cons, ih, List.flatMap_cons, List.flatMap_cons, List.length_append,
      List.countP_append]
    cases directive : isDirective line with
    | true =>
      have one := countP_isNameless directive fields
      rw [if_pos rfl]
      omega
    | false =>
      have nothing := readDirective_of_not_isDirective directive fields
      rw [nothing]
      simp [Note.warnings]

/-- No directive is lost: each gives one instance or one warning that it has no name, in the order
of the lines, and other lines give neither. The arguments of a directive are recorded under their
keys, the last one with a key for that key, and each without a colon gives one warning. -/
theorem readDirectives_accounted (fields : List Field) (doc : List Text) :
    doc.countP isDirective = (readDirectives fields doc).value.length +
        (Note.warnings (readDirectives fields doc).notes).countP isNameless ∧
      (readDirectives fields doc).value = (doc.filter isDirective).flatMap (fun line =>
        (readDirective fields line).value.toList) ∧
      Note.warnings (readDirectives fields doc).notes =
        (doc.filter isDirective).flatMap (fun line =>
          Note.warnings (readDirective fields line).notes) ∧
      ∀ line ∈ doc, isDirective line = true →
        (readDirective fields line).value.map (·.name) = nameOf line ∧
        (∀ key value, (readArguments (argumentsOf line)).value.get? key = some value ↔
          ∃ written, LastGives (argumentsOf line) key written ∧ value = denoted written) ∧
        (∀ a ∈ argumentsOf line, .scalar ':' ∈ a → ∃ key value, HasKey key a ∧
          (readArguments (argumentsOf line)).value.get? key = some value) ∧
        Note.warnings (readDirective fields line).notes =
          ((argumentsOf line).filter fun a => .scalar ':' ∉ a).map
              (fun a => text "skipping directive argument without value: " ++ a.display) ++
            if nameOf line = none
              then [text "directive without instance name: " ++ (contentOf line).display]
              else [] := by
  have nothing {line : Text} (other : isDirective line = false) :=
    readDirective_of_not_isDirective other fields
  refine ⟨countP_isDirective fields doc, ?_, ?_, ?_⟩
  · rw [value_readDirectives]
    exact (flatMap_filter_isDirective (fun line other => by rw [nothing other]; rfl) doc).symm
  · rw [notes_readDirectives, Note.warnings_flatMap]
    exact (flatMap_filter_isDirective (fun line other => by rw [nothing other]; rfl) doc).symm
  · intro line _ directive
    refine ⟨?_, fun key value => get?_readArguments_eq_some_iff, ?_,
      warnings_readDirective directive fields⟩
    · rw [readDirective_of_isDirective directive, Option.map_map]
      exact Option.map_id'
    · intro a mem colon
      obtain ⟨key, has⟩ := exists_hasKey_iff.2 colon
      obtain ⟨value, found⟩ := exists_get?_readArguments_iff.2 ⟨a, mem, has⟩
      exact ⟨key, value, has, found⟩

/-- Prose, a directive with a word that stands alone and a field that is set twice, and one whose
name is an empty literal. -/
theorem readDirectives_accounted_cards :
    let fields : List Field := [⟨text "Rank", text "int"⟩]
    let ace := text "// enumr:Ace wild Rank:1 Rank:14"
    let doc := [text "// Card lists cards.", ace, text "//enumr:\"\" Rank:2"]
    ((readDirectives fields doc).value.length +
        (Note.warnings (readDirectives fields doc).notes).countP isNameless = 2) ∧
      (ace ∈ doc ∧ isDirective ace = true) ∧
      (readDirective fields ace).value.map (·.name) = some (text "Ace") ∧
      (readArguments (argumentsOf ace)).value.get? (text "Rank") = some (text "14") ∧
      Note.warnings (readDirective fields ace).notes =
        [text "skipping directive argument without value: " ++ (text "wild").display] := by
  intro fields ace doc
  have mem : ace ∈ doc := by decide
  have directive : isDirective ace = true := by decide
  obtain ⟨count, -, -, each⟩ := readDirectives_accounted fields doc
  obtain ⟨named, recorded, -, warned⟩ := each ace mem directive
  have last : LastGives (argumentsOf ace) (text "Rank") (text "14") := by
    refine ⟨by decide, ["enumr:Ace", "wild", "Rank:1"].map text, [], by decide, ?_⟩
    intro a mem
    cases mem
  exact ⟨count.symm.trans (by decide), ⟨mem, directive⟩, named.trans (by decide),
    (recorded _ _).2 ⟨_, last, by decide⟩, warned.trans (by decide)⟩

end EnumText.Directive
