import EnumText.Proofs.Directive.Accounting

/-!
# What a directive names and sets

The name and the values for fields are read into one map. A later argument with the tag as its key
therefore gives another name, and a field that is called like the tag is never set.

* `get?_readArguments_singleton`: what an argument gives by itself.
* `readDirective_lastTag`: the instance of a directive, in terms of its arguments.
-/

namespace EnumText.Directive

variable {fields : List Field} {line key : Text} {i : Instance}

/-- An argument by itself gives a value to its key. -/
theorem get?_readArguments_singleton {written : Text} (absent : .scalar ':' ∉ key) :
    (readArguments [key ++ text ":" ++ written]).value.get? key = some (denoted written) :=
  get?_readArguments_eq_some_iff.2 ⟨written, ⟨absent, [], [], rfl, List.forall_mem_nil _⟩, rfl⟩

/-- The name of an instance is what the last argument with the tag gives by itself. -/
theorem get?_readArguments_of_lastTag (matched : (readDirective fields line).value = some i)
    {argument : Text} {after : List Text} (before : List Text)
    (whole : argumentsOf line = before ++ argument :: after) (tagged : HasKey tag argument)
    (last : ∀ a ∈ after, ¬ HasKey tag a) :
    (readArguments [argument]).value.get? tag = some i.name := by
  obtain ⟨-, name, named, rfl⟩ := readDirective_eq_some_iff.1 matched
  obtain ⟨found, -⟩ := Option.filter_eq_some_iff.1 named
  obtain ⟨absent, written, rfl⟩ := tagged
  have given : (readArguments (argumentsOf line)).value.get? tag = some (denoted written) :=
    get?_readArguments_eq_some_iff.2 ⟨written, ⟨absent, before, after, whole, last⟩, rfl⟩
  rw [get?_readArguments_singleton absent, ← given, found]

/-- The fields of an instance are those that are keys of arguments, without the tag. -/
theorem has_fields_iff (matched : (readDirective fields line).value = some i) {f : Field}
    (declared : f ∈ fields) :
    i.fields.has f.name = true ↔ f.name ≠ tag ∧ ∃ a ∈ argumentsOf line, HasKey f.name a := by
  obtain ⟨-, name, -, rfl⟩ := readDirective_eq_some_iff.1 matched
  rw [has_fieldLiterals declared, Assignments.has, Assignments.get?_erase,
    ← exists_get?_readArguments_iff, ← Option.isSome_iff_exists]
  split
  · next same => simp [same]
  · next apart => simp [apart]

/-- The first argument of a directive names the instance and the others set declared fields, as far
as the tag is no key of the others. Of several arguments with the tag the last one names the
instance, and none sets a field. -/
theorem readDirective_lastTag (matched : (readDirective fields line).value = some i) :
    ∃ first others, argumentsOf line = first :: others ∧ HasKey tag first ∧
      ((∀ a ∈ others, ¬ HasKey tag a) →
        (readArguments [first]).value.get? tag = some i.name) ∧
      (∀ before argument after, others = before ++ argument :: after → HasKey tag argument →
        (∀ a ∈ after, ¬ HasKey tag a) →
        (readArguments [argument]).value.get? tag = some i.name) ∧
      ∀ f ∈ fields, i.fields.has f.name = true ↔ f.name ≠ tag ∧ ∃ a ∈ others, HasKey f.name a := by
  obtain ⟨directive, -⟩ := readDirective_eq_some_iff.1 matched
  obtain ⟨first, others, cons, tagged⟩ := exists_argumentsOf_eq_cons directive
  refine ⟨first, others, cons, tagged, ?_, ?_, ?_⟩
  · exact get?_readArguments_of_lastTag matched [] cons tagged
  · intro before argument after whole
    rw [whole] at cons
    exact get?_readArguments_of_lastTag matched (first :: before) cons
  · intro f declared
    rw [has_fields_iff matched declared, cons]
    apply and_congr_right
    intro apart
    rw [List.exists_mem_cons_iff]
    exact or_iff_right fun here => apart (here.eq tagged)

/-- The second argument with the tag names the instance, and the field that is called like the tag
is not set. -/
theorem readDirective_lastTag_five :
    let fields : List Field := [⟨text "Rank", text "int"⟩, ⟨text "enumr", text "int"⟩]
    let line := text "// enumr:Ace Rank:1 enumr:5"
    ∃ i, (readDirective fields line).value = some i ∧
      (readArguments [text "enumr:5"]).value.get? tag = some i.name ∧
      i.fields.has (text "Rank") = true ∧ i.fields.has (text "enumr") = false := by
  intro fields line
  have matched : (readDirective fields line).value =
      some ⟨text "5", [(text "Rank", text "1")], .directive⟩ := by decide
  have split : argumentsOf line = [text "enumr:Ace", text "Rank:1", text "enumr:5"] := by decide
  obtain ⟨first, others, cons, -, -, named, set⟩ := readDirective_lastTag matched
  obtain ⟨rfl, rfl⟩ := List.cons.inj (cons.symm.trans split)
  have rank := set ⟨text "Rank", text "int"⟩ (by decide)
  have called := set ⟨text "enumr", text "int"⟩ (by decide)
  refine ⟨_, matched, ?_, ?_, ?_⟩
  · apply named [text "Rank:1"] _ [] rfl ⟨by decide, text "5", rfl⟩
    exact List.forall_mem_nil _
  · exact rank.2 ⟨by decide, text "Rank:1", List.mem_cons_self, by decide, text "1", rfl⟩
  · exact Bool.eq_false_iff.2 fun has => (called.1 has).1 rfl

/-- The first argument gives the name `Ace`, but the second one takes it away, and it sets no
field. -/
theorem readDirective_repeated_tag :
    let line := text "// enumr:Ace enumr:5"
    let i : Instance := ⟨text "5", [], .directive⟩
    (readDirective [⟨text "enumr", text "int"⟩] line).value = some i ∧
      argumentsOf line = [text "enumr:Ace", text "enumr:5"] ∧
      (readArguments [text "enumr:Ace"]).value.get? tag = some (text "Ace") ∧
      i.name ≠ text "Ace" ∧ HasKey (text "enumr") (text "enumr:5") ∧
      i.fields.has (text "enumr") = false := by
  intro line i
  have second : HasKey (text "enumr") (text "enumr:5") := ⟨by decide, text "5", rfl⟩
  exact ⟨by decide, by decide, by decide, by decide, second, by decide⟩

end EnumText.Directive
