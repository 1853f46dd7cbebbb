import EnumText.Directive
import EnumText.Proofs.Assignments
import EnumText.Proofs.Directive.Arguments
import EnumText.Proofs.Literal.Quoting
import EnumText.Proofs.Token.Identifier

/-!
# Written directives are read back

`Directive.line` writes the directive of an instance: its name, then each value as a quoted literal
after the name of its field.

* `argumentsAfter_quote`: a quoted literal stays in one argument, whatever it holds.
* `splitArguments_content`: the arguments of a written directive.
* `readDirective_line`: the instance that is read from it.
-/

namespace EnumText.Directive

/-- What a directive gives a field: its name, and the value as a quoted literal. -/
def fieldArgument (p : Field × Text) : Text := p.1.name ++ text ":" ++ Literal.quote p.2

/-- The content of the directive that gives an instance values for fields. -/
def content (name : Text) (pairs : List (Field × Text)) : Text :=
  tag ++ text ":" ++ name ++ pairs.flatMap fun p => text " " ++ fieldArgument p

/-- The comment line of the directive that gives an instance values for fields. -/
def line (name : Text) (pairs : List (Field × Text)) : Text := text "// " ++ content name pairs

/-! ## Splitting -/

theorem protected_of_guarded {body : Text} (guarded : Literal.Guarded body) : Protected body := by
  induction guarded with
  | nil => exact .nil
  | plain ne_quote ne_backslash _ _ ih => exact .plain ne_quote ne_backslash ih
  | @backslash c _ _ _ ih => exact .backslash c ih

/-- A quoted literal stays in the argument, whatever it holds. -/
theorem argumentsAfter_quote (v current rest : Text) :
    argumentsAfter .plain current (Literal.quote v ++ rest) =
      argumentsAfter .plain ((Literal.quote v).reverse ++ current) rest :=
  argumentsAfter_quoted
    ⟨_, protected_of_guarded (Literal.guarded_flatMap_escape v), rfl⟩ current rest

theorem plain_of_isIdentifier {word : Text} (h : Text.isIdentifier word = true) :
    ∀ c ∈ word, c ≠ .scalar '"' ∧ c.isBlank = false := by
  intro c mem
  have part := Text.isIdentifierPart_of_mem h c mem
  refine ⟨?_, Rune.isBlank_of_isIdentifierPart part⟩
  intro same
  subst same
  cases part

theorem argumentsAfter_fieldArgument {p : Field × Text}
    (identifier : Text.isIdentifier p.1.name = true) (rest : Text) :
    argumentsAfter .plain [] (fieldArgument p ++ rest) =
      argumentsAfter .plain (fieldArgument p).reverse rest := by
  have plain : ∀ c ∈ p.1.name ++ text ":", c ≠ .scalar '"' ∧ c.isBlank = false :=
    List.forall_mem_append.2 ⟨plain_of_isIdentifier identifier, by decide⟩
  rw [fieldArgument, List.append_assoc, argumentsAfter_word plain, argumentsAfter_quote,
    List.append_nil, ← List.reverse_append]

theorem argumentsAfter_fieldArguments {pairs : List (Field × Text)}
    (identifiers : ∀ p ∈ pairs, Text.isIdentifier p.1.name = true) {current : Text}
    (started : current ≠ []) :
    argumentsAfter .plain current (pairs.flatMap fun p => text " " ++ fieldArgument p) =
      current.reverse :: pairs.map fieldArgument := by
  induction pairs generalizing current with
  | nil => exact finishArgument_of_ne_nil started
  | cons p pairs ih =>
    rcases List.forall_mem_cons.1 identifiers with ⟨first, others⟩
    rw [List.flatMap_cons, List.append_assoc, argumentsAfter_space,
      finishArgument_of_ne_nil started, argumentsAfter_fieldArgument first,
      ih others (by simp [fieldArgument, Literal.quote]), List.reverse_reverse]
    rfl

/-- The arguments of a written directive: its name, and one for each field. -/
theorem splitArguments_content {name : Text} {pairs : List (Field × Text)}
    (identifier : Text.isIdentifier name = true)
    (identifiers : ∀ p ∈ pairs, Text.isIdentifier p.1.name = true) :
    splitArguments (content name pairs) =
      (tag ++ text ":" ++ name) :: pairs.map fieldArgument := by
  have plain : ∀ c ∈ tag ++ text ":" ++ name, c ≠ .scalar '"' ∧ c.isBlank = false :=
    List.forall_mem_append.2 ⟨by decide, plain_of_isIdentifier identifier⟩
  have started : (tag ++ text ":" ++ name).reverse ≠ [] := by
    rw [Ne, List.reverse_eq_nil_iff]
    exact List.cons_ne_nil _ _
  rw [splitArguments, content, argumentsAfter_word plain, List.append_nil,
    argumentsAfter_fieldArguments identifiers started, List.reverse_reverse]

/-! ## Reading arguments -/

theorem unquote?_of_isIdentifier {name : Text} (h : Text.isIdentifier name = true) :
    Literal.unquote? name = none := by
  cases name with
  | nil => rfl
  | cons c rest =>
    have part := Text.isIdentifierPart_of_mem h c List.mem_cons_self
    have raw : c ≠ .scalar '\x60' := by rintro rfl; cases part
    have quote : c ≠ .scalar '"' := by rintro rfl; cases part
    have rune : c ≠ .scalar '\x27' := by rintro rfl; cases part
    simp only [Literal.unquote?, raw, quote, rune, if_false, ite_self]

theorem foldlM_recordArgument {pairs : List (Field × Text)} (values : Assignments)
    (identifiers : ∀ p ∈ pairs, Text.isIdentifier p.1.name = true)
    (survive : ∀ p ∈ pairs, Utf8.decode (Text.encode p.2) = p.2)
    (distinct : (values.map Prod.fst ++ pairs.map (·.1.name)).Nodup) :
    (pairs.map fieldArgument).foldlM recordArgument values =
      pure (values ++ pairs.map fun p => (p.1.name, p.2)) := by
  induction pairs generalizing values with
  | nil =>
    rw [List.map_nil, List.map_nil, List.append_nil]
    rfl
  | cons p pairs ih =>
    rcases List.forall_mem_cons.1 identifiers with ⟨identifier, identifiers⟩
    rcases List.forall_mem_cons.1 survive with ⟨survives, survive⟩
    have absent : p.1.name ∉ values.map Prod.fst := fun mem =>
      (List.nodup_append.1 distinct).2.2 _ mem _ List.mem_cons_self rfl
    have first : recordArgument values (fieldArgument p) =
        pure (values ++ [(p.1.name, p.2)]) := by
      rw [fieldArgument, recordArgument_append (Text.not_mem_of_isIdentifier identifier rfl),
        denoted, Literal.unquote?_quote, survives, Option.getD_some,
        Assignments.put_of_not_mem absent]
    have others := ih (values ++ [(p.1.name, p.2)]) identifiers survive
      (by simpa using distinct)
    rw [List.map_cons, List.foldlM_cons, first]
    apply others.trans
    rw [List.append_assoc]
    rfl

/-- The values of a written directive, none of which gives rise to a note. -/
theorem readArguments_content {name : Text} {pairs : List (Field × Text)}
    (identifier : Text.isIdentifier name = true)
    (identifiers : ∀ p ∈ pairs, Text.isIdentifier p.1.name = true)
    (survive : ∀ p ∈ pairs, Utf8.decode (Text.encode p.2) = p.2)
    (distinct : (tag :: pairs.map (·.1.name)).Nodup) :
    readArguments (splitArguments (content name pairs)) =
      pure ((tag, name) :: pairs.map fun p => (p.1.name, p.2)) := by
  have first : recordArgument [] (tag ++ text ":" ++ name) = pure [(tag, name)] := by
    rw [recordArgument_append (by decide), denoted, unquote?_of_isIdentifier identifier]
    rfl
  rw [splitArguments_content identifier identifiers, readArguments, List.foldlM_cons, first]
  exact foldlM_recordArgument [(tag, name)] identifiers survive distinct

/-! ## Reading a line -/

theorem strip_space {front : Text} {first last : Rune} (firstBlank : first.isBlank = false)
    (lastBlank : last.isBlank = false) :
    Text.strip (text " " ++ (first :: front ++ [last])) = first :: front ++ [last] := by
  change Text.strip (.scalar ' ' :: (first :: front ++ [last])) = _
  have space : Rune.isBlank (.scalar ' ') = true := by decide
  rw [Text.strip, Text.trim, List.dropWhile_cons, if_pos space, List.cons_append,
    List.dropWhile_cons, if_neg (by simp [firstBlank]), ← List.cons_append, List.reverse_concat,
    List.dropWhile_cons, if_neg (by simp [lastBlank]), List.reverse_cons, List.reverse_reverse]

/-- A written directive ends with its name or with a quote. -/
theorem exists_last_of_content {name : Text} (identifier : Text.isIdentifier name = true)
    (pairs : List (Field × Text)) :
    ∃ front last, content name pairs = .scalar 'e' :: front ++ [last] ∧ last.isBlank = false := by
  rcases List.eq_nil_or_concat pairs with rfl | ⟨init, p, rfl⟩
  · rcases List.eq_nil_or_concat name with rfl | ⟨start, last, rfl⟩
    · cases identifier
    · refine ⟨text "numr:" ++ start, last, ?_, ?_⟩
      · rw [content, List.flatMap_nil, List.append_nil, List.concat_eq_append, ← List.append_assoc]
        rfl
      · exact (plain_of_isIdentifier identifier last (by simp)).2
  · refine ⟨text "numr:" ++ name ++ (init.flatMap fun p => text " " ++ fieldArgument p) ++
      text " " ++ p.1.name ++ text ":" ++ .scalar '"' :: p.2.flatMap Literal.escape,
      .scalar '"', ?_, by decide⟩
    simp only [content, List.concat_eq_append, List.flatMap_append, List.flatMap_cons,
      List.flatMap_nil, List.append_nil, fieldArgument, Literal.quote, ← List.append_assoc]
    rfl

theorem content?_line {name : Text} (identifier : Text.isIdentifier name = true)
    (pairs : List (Field × Text)) : content? (line name pairs) = some (content name pairs) := by
  rcases exists_last_of_content identifier pairs with ⟨front, last, written, lastBlank⟩
  have starts : (content name pairs).startsWith (tag ++ text ":") = true := by
    rw [content, List.append_assoc]
    exact List.isPrefixOf_iff_prefix.2 (List.prefix_append _ _)
  have strip : Text.strip ((line name pairs).drop 2) = content name pairs := by
    change Text.strip (text " " ++ content name pairs) = _
    rw [written]
    exact strip_space (by decide) lastBlank
  have comment : (line name pairs).startsWith (text "//") = true := rfl
  rw [content?, if_pos comment, strip]
  exact if_pos starts

/-! ## The fields of the instance -/

theorem erase_tag {name : Text} {values : Assignments} (absent : tag ∉ values.map Prod.fst) :
    Assignments.erase ((tag, name) :: values) tag = values := by
  rw [Assignments.erase, List.filter_cons_of_neg (by simp)]
  apply List.filter_eq_self.2
  intro p mem
  rw [decide_eq_true_eq]
  exact fun same => absent (same ▸ List.mem_map_of_mem mem)

/-- The given values are literals under the names of their fields, each once. -/
theorem mem_fieldLiterals_iff {fields : List Field} {pairs : List (Field × Text)}
    (distinctFields : (fields.map (·.name)).Nodup) (given : ∀ p ∈ pairs, p.1 ∈ fields)
    (distinct : (pairs.map (·.1.name)).Nodup) {literals : Assignments}
    (written : literals = fieldLiterals fields (pairs.map fun p => (p.1.name, p.2))) :
    (literals.map Prod.fst).Nodup ∧ ∀ key value, (key, value) ∈ literals ↔
      ∃ f v, (f, v) ∈ pairs ∧ key = f.name ∧ value = fieldLiteral f v := by
  obtain ⟨listed, keys⟩ :=
    fieldLiterals_of_nodup distinctFields (pairs.map fun p => (p.1.name, p.2))
  rw [listed] at written
  subst written
  refine ⟨keys, fun key value => ?_⟩
  simp only [List.mem_filterMap, Option.map_eq_some_iff, Prod.mk.injEq]
  constructor
  · intro h
    rcases h with ⟨f, mem, v, found, rfl, rfl⟩
    rw [Assignments.get?_eq_some_iff (by simpa [Function.comp_def] using distinct)] at found
    rcases List.mem_map.1 found with ⟨p, own, same⟩
    rcases Prod.mk.inj same with ⟨sameName, rfl⟩
    have sameField : p.1 = f :=
      List.inj_on_of_nodup_map distinctFields (given p own) mem sameName
    subst sameField
    exact ⟨p.1, p.2, own, rfl, rfl⟩
  · intro h
    rcases h with ⟨f, v, mem, rfl, rfl⟩
    refine ⟨f, given _ mem, v, ?_, rfl, rfl⟩
    rw [Assignments.get?_eq_some_iff (by simpa [Function.comp_def] using distinct)]
    exact List.mem_map_of_mem (f := fun p : Field × Text => (p.1.name, p.2)) mem

/-- A written directive is read back as the instance that it gives, with each given value under the
name of its field and nothing else: quoted where the field holds strings, and as it is elsewhere. It
gives rise to no note. -/
theorem readDirective_line {fields : List Field} {name : Text} {pairs : List (Field × Text)}
    (fieldNames : ∀ f ∈ fields, Text.isIdentifier f.name = true ∧ f.name ≠ tag)
    (distinctFields : (fields.map (·.name)).Nodup) (identifier : Text.isIdentifier name = true)
    (given : ∀ p ∈ pairs, p.1 ∈ fields) (distinct : (pairs.map Prod.fst).Nodup)
    (survive : ∀ p ∈ pairs, Utf8.decode (Text.encode p.2) = p.2) :
    ∃ literals, readDirective fields (line name pairs) =
        ⟨[], some ⟨name, literals, .directive⟩⟩ ∧
      (literals.map Prod.fst).Nodup ∧ ∀ key value, (key, value) ∈ literals ↔
        ∃ f v, (f, v) ∈ pairs ∧ key = f.name ∧
          value = if f.kind = .string then Literal.quote v else v := by
  have identifiers : ∀ p ∈ pairs, Text.isIdentifier p.1.name = true := fun p mem =>
    (fieldNames p.1 (given p mem)).1
  have distinctNames : (pairs.map (·.1.name)).Nodup := by
    have apart : ((pairs.map Prod.fst).map Field.name).Nodup := by
      refine List.Nodup.map_on (fun f hf g hg => ?_) distinct
      rcases List.mem_map.1 hf with ⟨p, own, rfl⟩
      rcases List.mem_map.1 hg with ⟨q, other, rfl⟩
      exact List.inj_on_of_nodup_map distinctFields (given p own) (given q other)
    rwa [List.map_map] at apart
  have absent : tag ∉ pairs.map (·.1.name) := by
    intro mem
    rcases List.mem_map.1 mem with ⟨p, own, same⟩
    exact (fieldNames p.1 (given p own)).2 same
  have erased : Assignments.erase ((tag, name) :: pairs.map fun p => (p.1.name, p.2)) tag =
      pairs.map fun p => (p.1.name, p.2) :=
    erase_tag (by rwa [List.map_map])
  rcases mem_fieldLiterals_iff distinctFields given distinctNames rfl with ⟨keys, entries⟩
  refine ⟨_, ?_, keys, entries⟩
  have read := readArguments_content identifier identifiers survive
    (List.nodup_cons.2 ⟨absent, distinctNames⟩)
  have nonempty : (splitArguments (content name pairs)).isEmpty = false := by
    rw [splitArguments_content identifier identifiers]
    rfl
  simp only [readDirective, content?_line identifier, nonempty, read]
  cases name with
  | nil => cases identifier
  | cons c name =>
    exact congrArg (fun values => (⟨[], some ⟨c :: name, fieldLiterals fields values, .directive⟩⟩ :
      Noted (Option Instance))) erased

/-- A string value with a quote, a backslash, a line break and a stray byte, and a value of another
kind, given in another order than that of the fields. -/
theorem readDirective_line_card :
    ∃ literals, readDirective [⟨text "Code", text "int"⟩, ⟨text "Label", text "string"⟩]
        (line (text "Card") [(⟨text "Label", text "string"⟩, text "a \"b\"\\\n" ++ [.stray 127]),
          (⟨text "Code", text "int"⟩, text "1 + 2")]) =
        ⟨[], some ⟨text "Card", literals, .directive⟩⟩ ∧
      (text "Label", text "\"a \\\"b\\\"\\\\\\n\\xff\"") ∈ literals ∧
      (text "Code", text "1 + 2") ∈ literals := by
  obtain ⟨literals, read, -, entries⟩ := @readDirective_line
    [⟨text "Code", text "int"⟩, ⟨text "Label", text "string"⟩] (text "Card")
    [(⟨text "Label", text "string"⟩, text "a \"b\"\\\n" ++ [.stray 127]),
      (⟨text "Code", text "int"⟩, text "1 + 2")]
    (by decide) (by decide) (by decide) (by decide) (by decide) (by decide)
  refine ⟨literals, read, (entries _ _).2 ⟨_, _, List.mem_cons_self, rfl, ?_⟩,
    (entries _ _).2 ⟨_, _, List.mem_cons_of_mem _ List.mem_cons_self, rfl, ?_⟩⟩ <;> decide

end EnumText.Directive
