import EnumText.Proofs.Assignments
import EnumText.Proofs.Directive.Splitting

/-!
# What the arguments of a directive give

An argument has the text before its first colon as its key. All arguments are read into one map, so
of those with the same key the last one counts, and those without a key are noted and passed over.

* `HasKey`, `LastGives`: what the arguments say by themselves.
* `notes_readArguments`: the arguments without a key are noted in order.
* `get?_readArguments_eq_some_iff`: a key has what the last argument with it gives.
* `has_fieldLiterals`, `fieldLiterals_of_nodup`: the declared fields that are set.
* `exists_hasKey_tag`: a directive begins with an argument that has the tag as its key.
-/

namespace EnumText

variable {c : Rune} {t key written : Text}

/-- The text before the first occurrence of a rune, and the text after it. -/
theorem Text.cut?_eq_some_iff :
    Text.cut? c t = some (key, written) ↔ c ∉ key ∧ t = key ++ c :: written := by
  induction t generalizing key with
  | nil => simp [cut?]
  | cons d t ih =>
    rw [cut?]
    split
    · next same =>
      subst same
      constructor
      · intro found
        cases found
        exact ⟨List.not_mem_nil, rfl⟩
      · intro ⟨absent, whole⟩
        cases key with
        | nil =>
          cases whole
          rfl
        | cons e key =>
          cases whole
          exact absurd List.mem_cons_self absent
    · next apart =>
      rw [Option.map_eq_some_iff]
      constructor
      · intro found
        obtain ⟨⟨before, after⟩, below, same⟩ := found
        cases same
        obtain ⟨absent, rfl⟩ := ih.1 below
        exact ⟨fun mem => (List.mem_cons.1 mem).elim (fun same => apart same.symm) absent, rfl⟩
      · intro ⟨absent, whole⟩
        cases key with
        | nil => exact absurd (List.cons.inj whole).1 apart
        | cons e key =>
          obtain ⟨rfl, rfl⟩ := List.cons.inj whole
          exact ⟨(key, written), ih.2 ⟨List.not_mem_of_not_mem_cons absent, rfl⟩, rfl⟩

theorem Text.cut?_eq_none_iff : Text.cut? c t = none ↔ c ∉ t := by
  constructor
  · intro none mem
    obtain ⟨key, written, whole, absent⟩ := List.eq_append_cons_of_mem mem
    rw [cut?_eq_some_iff.2 ⟨absent, whole⟩] at none
    cases none
  · intro absent
    cases found : cut? c t with
    | none => rfl
    | some parts =>
      obtain ⟨-, rfl⟩ := cut?_eq_some_iff.1 found
      simp at absent

namespace Directive

/-- What a value in an argument stands for: a literal for what it denotes, and all else for
itself. -/
def denoted (written : Text) : Text := (Literal.unquote? written).getD written

/-- The key of an argument: the text before its first colon. -/
def HasKey (key argument : Text) : Prop :=
  .scalar ':' ∉ key ∧ ∃ written, argument = key ++ text ":" ++ written

/-- The last of the arguments that have a key gives it a value. -/
def LastGives (arguments : List Text) (key written : Text) : Prop :=
  .scalar ':' ∉ key ∧ ∃ before after,
    arguments = before ++ (key ++ text ":" ++ written) :: after ∧ ∀ a ∈ after, ¬ HasKey key a

variable {argument value : Text} {arguments before after : List Text} {values : Assignments}

theorem cut?_colon_eq_some_iff : argument.cut? (.scalar ':') = some (key, written) ↔
    .scalar ':' ∉ key ∧ argument = key ++ text ":" ++ written := by
  have whole : key ++ text ":" ++ written = key ++ .scalar ':' :: written :=
    List.append_assoc key (text ":") written
  rw [Text.cut?_eq_some_iff, whole]

theorem hasKey_of_cut? (h : argument.cut? (.scalar ':') = some (key, written)) :
    HasKey key argument := by
  obtain ⟨absent, same⟩ := cut?_colon_eq_some_iff.1 h
  exact ⟨absent, written, same⟩

/-- An argument has one key at most. -/
theorem HasKey.eq {other : Text} (h : HasKey key argument) (h' : HasKey other argument) :
    key = other := by
  obtain ⟨absent, written, same⟩ := h
  obtain ⟨absent', written', same'⟩ := h'
  have cut := cut?_colon_eq_some_iff.2 ⟨absent, same⟩
  rw [cut?_colon_eq_some_iff.2 ⟨absent', same'⟩] at cut
  cases cut
  rfl

/-- An argument has a key if a colon stands in it. -/
theorem exists_hasKey_iff : (∃ key, HasKey key argument) ↔ .scalar ':' ∈ argument := by
  constructor
  · intro ⟨key, absent, written, same⟩
    rw [same]
    simp [text]
  · intro mem
    cases found : argument.cut? (.scalar ':') with
    | none => exact absurd mem (Text.cut?_eq_none_iff.1 found)
    | some parts => exact ⟨parts.1, hasKey_of_cut? found⟩

/-! ## One argument -/

theorem recordArgument_append (absent : .scalar ':' ∉ key) (written : Text)
    (values : Assignments) :
    recordArgument values (key ++ text ":" ++ written) =
      pure (values.put key (denoted written)) := by
  rw [recordArgument, cut?_colon_eq_some_iff.2 ⟨absent, rfl⟩]
  rfl

theorem get?_recordArgument_of_not_hasKey (other : ¬ HasKey key argument) (values : Assignments) :
    (recordArgument values argument).value.get? key = values.get? key := by
  rw [recordArgument]
  cases found : argument.cut? (.scalar ':') with
  | none => rfl
  | some parts =>
    have apart : key ≠ parts.1 := by
      intro same
      rw [same] at other
      exact other (hasKey_of_cut? found)
    exact (Assignments.get?_put parts.1 _ key values).trans (if_neg apart)

theorem notes_recordArgument (values : Assignments) (argument : Text) :
    (recordArgument values argument).notes =
      if .scalar ':' ∈ argument then [] else [.skippedArgument argument] := by
  rw [recordArgument]
  cases found : argument.cut? (.scalar ':') with
  | none =>
    rw [if_neg (Text.cut?_eq_none_iff.1 found)]
    rfl
  | some parts =>
    rw [if_pos (exists_hasKey_iff.1 ⟨parts.1, hasKey_of_cut? found⟩)]
    rfl

/-! ## All arguments -/

theorem lastGives_cons :
    LastGives (argument :: arguments) key written ↔ LastGives arguments key written ∨
      (.scalar ':' ∉ key ∧ argument = key ++ text ":" ++ written ∧
        ∀ a ∈ arguments, ¬ HasKey key a) := by
  constructor
  · intro ⟨absent, before, after, whole, last⟩
    cases before with
    | nil =>
      obtain ⟨rfl, rfl⟩ := List.cons.inj whole
      exact .inr ⟨absent, rfl, last⟩
    | cons a before =>
      obtain ⟨rfl, rfl⟩ := List.cons.inj whole
      exact .inl ⟨absent, before, after, rfl, last⟩
  · intro either
    rcases either with ⟨absent, before, after, rfl, last⟩ | ⟨absent, rfl, last⟩
    · exact ⟨absent, argument :: before, after, rfl, last⟩
    · exact ⟨absent, [], arguments, rfl, last⟩

theorem LastGives.exists_hasKey (h : LastGives arguments key written) :
    ∃ a ∈ arguments, HasKey key a := by
  obtain ⟨absent, before, after, rfl, -⟩ := h
  exact ⟨_, List.mem_append_right _ List.mem_cons_self, absent, written, rfl⟩

theorem exists_lastGives (mem : argument ∈ arguments) (has : HasKey key argument) :
    ∃ written, LastGives arguments key written := by
  induction arguments generalizing argument with
  | nil => cases mem
  | cons first arguments ih =>
    by_cases later : ∃ a ∈ arguments, HasKey key a
    · obtain ⟨a, mem, has⟩ := later
      obtain ⟨written, last⟩ := ih mem has
      exact ⟨written, lastGives_cons.2 (.inl last)⟩
    · have here : argument = first :=
        (List.mem_cons.1 mem).resolve_right fun mem => later ⟨argument, mem, has⟩
      obtain ⟨absent, written, same⟩ := has
      exact ⟨written, lastGives_cons.2
        (.inr ⟨absent, here ▸ same, fun a mem has => later ⟨a, mem, has⟩⟩)⟩

/-- Arguments that are read after others leave a key as it is, unless one of them has it. -/
theorem get?_foldlM_recordArgument (arguments : List Text) (values : Assignments) :
    (arguments.foldlM recordArgument values).value.get? key = some value ↔
      (∃ written, LastGives arguments key written ∧ value = denoted written) ∨
        (∀ a ∈ arguments, ¬ HasKey key a) ∧ values.get? key = some value := by
  induction arguments generalizing values with
  | nil =>
    have none (written : Text) : ¬ LastGives [] key written := fun h => by
      obtain ⟨a, mem, -⟩ := h.exists_hasKey
      cases mem
    change values.get? key = some value ↔ _
    simp [none]
  | cons argument arguments ih =>
    have step : ((argument :: arguments).foldlM recordArgument values).value =
      (arguments.foldlM recordArgument (recordArgument values argument).value).value := rfl
    rw [step, ih]
    simp only [lastGives_cons, List.forall_mem_cons]
    by_cases here : HasKey key argument
    · obtain ⟨absent, written, rfl⟩ := here
      have inj (other : Text) : key ++ text ":" ++ written = key ++ text ":" ++ other ↔
          written = other := List.append_right_inj _
      have own : HasKey key (key ++ text ":" ++ written) := ⟨absent, written, rfl⟩
      have put : (recordArgument values (key ++ text ":" ++ written)).value.get? key =
          some (denoted written) := by
        rw [recordArgument_append absent]
        exact (Assignments.get?_put key _ key values).trans (if_pos rfl)
      rw [put]
      simp only [inj, absent, own, not_true_eq_false, false_and, or_false, not_false_eq_true,
        true_and, Option.some.injEq]
      constructor
      · intro either
        rcases either with ⟨other, last, rfl⟩ | ⟨last, rfl⟩
        · exact ⟨other, .inl last, rfl⟩
        · exact ⟨written, .inr ⟨rfl, last⟩, rfl⟩
      · intro ⟨other, either, same⟩
        rcases either with last | ⟨rfl, last⟩
        · exact .inl ⟨other, last, same⟩
        · exact .inr ⟨last, same.symm⟩
    · have other (written : Text) : ¬ (.scalar ':' ∉ key ∧ argument = key ++ text ":" ++ written ∧
          ∀ a ∈ arguments, ¬ HasKey key a) := fun h => here ⟨h.1, written, h.2.1⟩
      simp only [get?_recordArgument_of_not_hasKey here, other, here, or_false,
        not_false_eq_true, true_and]

/-- A key has the value that the last argument with it gives. -/
theorem get?_readArguments_eq_some_iff :
    (readArguments arguments).value.get? key = some value ↔
      ∃ written, LastGives arguments key written ∧ value = denoted written := by
  rw [readArguments, get?_foldlM_recordArgument]
  exact or_iff_left fun none => (nomatch none.2)

theorem exists_get?_readArguments_iff :
    (∃ value, (readArguments arguments).value.get? key = some value) ↔
      ∃ a ∈ arguments, HasKey key a := by
  constructor
  · intro ⟨value, found⟩
    obtain ⟨written, last, -⟩ := get?_readArguments_eq_some_iff.1 found
    exact last.exists_hasKey
  · intro ⟨a, mem, has⟩
    obtain ⟨written, last⟩ := exists_lastGives mem has
    exact ⟨denoted written, get?_readArguments_eq_some_iff.2 ⟨written, last, rfl⟩⟩

/-- The arguments without a colon are noted in order. -/
theorem notes_readArguments (arguments : List Text) :
    (readArguments arguments).notes =
      (arguments.filter fun a => .scalar ':' ∉ a).map .skippedArgument := by
  have fold (values : Assignments) : (arguments.foldlM recordArgument values).notes =
      (arguments.filter fun a => .scalar ':' ∉ a).map .skippedArgument := by
    induction arguments generalizing values with
    | nil => rfl
    | cons argument arguments ih =>
      have step : ((argument :: arguments).foldlM recordArgument values).notes =
        (recordArgument values argument).notes ++
          (arguments.foldlM recordArgument (recordArgument values argument).value).notes := rfl
      rw [step, ih, notes_recordArgument]
      by_cases colon : .scalar ':' ∈ argument <;> simp [colon]
  exact fold []

/-! ## The values of fields -/

variable {fields : List Field}

/-- A declared field is set if it has a value. -/
theorem has_fieldLiterals {f : Field} (declared : f ∈ fields) (values : Assignments) :
    (fieldLiterals fields values).has f.name = values.has f.name := by
  have unset : (fieldLiterals fields values).get? f.name = none ↔ values.get? f.name = none := by
    rw [fieldLiterals, Assignments.get?_ofList_eq_none_iff]
    constructor
    · intro absent
      cases found : values.get? f.name with
      | none => rfl
      | some value =>
        have own : (f.name, fieldLiteral f value) ∈ fields.filterMap fun f =>
            (values.get? f.name).map fun value => (f.name, fieldLiteral f value) :=
          List.mem_filterMap.2 ⟨f, declared, by rw [found]; rfl⟩
        exact absurd (List.mem_map_of_mem (f := Prod.fst) own) absent
    · intro none mem
      obtain ⟨p, own, same⟩ := List.mem_map.1 mem
      obtain ⟨g, -, made⟩ := List.mem_filterMap.1 own
      obtain ⟨value, found, rfl⟩ := Option.map_eq_some_iff.1 made
      have sameName : g.name = f.name := same
      rw [sameName, none] at found
      cases found
  rw [Assignments.has, Assignments.has, Bool.eq_iff_iff, Option.isSome_iff_ne_none,
    Option.isSome_iff_ne_none]
  exact not_congr unset

/-- Where the names of fields differ, each field that has a value is listed once. -/
theorem fieldLiterals_of_nodup (distinct : (fields.map (·.name)).Nodup) (values : Assignments) :
    let entries := fields.filterMap fun f =>
      (values.get? f.name).map fun value => (f.name, fieldLiteral f value)
    fieldLiterals fields values = entries ∧ (entries.map Prod.fst).Nodup := by
  intro entries
  have keys : (entries.map Prod.fst).Nodup := by
    refine (Assignments.keys_filterMap_sublist (·.name) ?_ fields).nodup distinct
    intro f p made
    obtain ⟨value, -, rfl⟩ := Option.map_eq_some_iff.1 made
    rfl
  exact ⟨Assignments.ofList_of_nodup keys, keys⟩

/-! ## The first argument of a directive -/

/-- The first argument of a directive has the tag as its key. -/
theorem exists_hasKey_tag {content : Text} (starts : content.startsWith (tag ++ text ":") = true) :
    ∃ first others, splitArguments content = first :: others ∧ HasKey tag first := by
  obtain ⟨rest, rfl⟩ := List.isPrefixOf_iff_prefix.1 starts
  have begun : (tag ++ text ":").reverse ≠ [] := by decide
  obtain ⟨more, others, same⟩ := exists_argumentsAfter_eq_cons .plain begun rest
  rw [List.reverse_reverse] at same
  refine ⟨tag ++ text ":" ++ more, others, ?_, by decide, more, rfl⟩
  rw [splitArguments, argumentsAfter_word (by decide), List.append_nil, same]

end Directive

end EnumText
