import EnumText.Proofs.Declaration.Expressions
import EnumText.Proofs.Directive.Arguments

/-!
# The values that directives give to fields

A directive gives values to the declared fields alone. A field of strings gets a quoted literal,
which is an expression whatever the value is.

* `get?_fieldLiterals`: the value of a declared field.
* `exists_eq_quote`: the value of a field of strings.
* `Literal.isExpression_quote`: literals are expressions.
-/

namespace EnumText

open Lexeme (split)

/-- A quoted literal is one token. -/
theorem Literal.split_quote (v : Text) :
    split (quote v) = ([⟨.token .string, quote v⟩], none) := by
  have closed := Lexeme.guarded_quotedLength (guarded_flatMap_escape v) []
  have reads := Lexeme.Reads.string closed
  have cut := Lexeme.split_cons reads
  have length : (v.flatMap escape).length + 1 = (v.flatMap escape ++ [Rune.scalar '"']).length := by
    simp
  rw [length, List.take_length, List.drop_length] at cut
  exact cut

theorem Literal.isExpression_quote (v : Text) : (quote v).IsExpression := by
  have inline : .scalar '\n' ∉ quote v := by
    intro mem
    rcases List.mem_cons.1 mem with same | mem
    · cases same
    rcases List.mem_append.1 mem with mem | mem
    · exact (guarded_flatMap_escape v).ne_newline _ mem rfl
    · cases List.mem_singleton.1 mem
  refine ⟨inline, _, Listing.ofText?_eq_ok_iff.2 ⟨_, split_quote v, rfl⟩, ?_⟩
  have inlines : ∀ x ∈ [Lexeme.mk (.token .string) (quote v)], x.IsInline :=
    List.forall_mem_singleton.2 ⟨List.cons_ne_nil _ _, .inr ⟨_, rfl⟩⟩
  rw [← Listing.isOneExpression_iff]
  unfold Listing.isOneExpression
  rw [Listing.realTokens_of_inline inlines]
  have stop : (Cursor.start.advance (quote v)).offset = (quote v).length :=
    (Cursor.start.advance_offset _).trans (Nat.zero_add _)
  have balanced : Declaration.openAfter [.comma, .semicolon] 0 [Token.Kind.string] = some 0 := by
    decide
  simp [Layout.run, Layout.tokensOf, Layout.place, Layout.withTokens, Cursor.start, balanced,
    ← stop]

namespace Directive

theorem get?_fieldLiterals {fields : List Field} (distinct : (fields.map (·.name)).Nodup)
    {f : Field} (declared : f ∈ fields) (values : Assignments) :
    (fieldLiterals fields values).get? f.name = (values.get? f.name).map (fieldLiteral f) := by
  obtain ⟨listed, keys⟩ := fieldLiterals_of_nodup distinct values
  rw [listed]
  apply Option.ext
  intro literal
  rw [Assignments.get?_eq_some_iff keys]
  simp only [List.mem_filterMap, Option.map_eq_some_iff, Prod.mk.injEq]
  constructor
  · rintro ⟨g, known, value, found, same, rfl⟩
    obtain rfl := List.inj_on_of_nodup_map distinct known declared same
    exact ⟨value, found, rfl⟩
  · rintro ⟨value, found, rfl⟩
    exact ⟨f, declared, value, found, rfl, rfl⟩

/-- What the instances of directives are made of. -/
theorem exists_eq_of_mem {fields : List Field} {lines : List Text} {i : Instance}
    (mem : i ∈ (readDirectives fields lines).value) :
    ∃ name values, i = ⟨name, fieldLiterals fields values, .directive⟩ := by
  have one (line : Text) : ∀ i ∈ (readDirective fields line).value,
      ∃ name values, i = ⟨name, fieldLiterals fields values, .directive⟩ := by
    intro i made
    unfold readDirective at made
    split at made
    · cases made
    · next content _ =>
      dsimp only [bind] at made
      split at made
      · cases made
      split at made
      · cases made
      · cases made
      · cases made
        exact ⟨_, _, rfl⟩
  induction lines with
  | nil => cases mem
  | cons line rest ih =>
    have whole : (readDirectives fields (line :: rest)).value =
      (readDirective fields line).value.toList ++ (readDirectives fields rest).value := rfl
    rw [whole] at mem
    rcases List.mem_append.1 mem with own | later
    · exact one line i (Option.mem_toList.1 own)
    · exact ih later

/-- The instances of directives have literals of fields as their values. -/
theorem exists_fields_eq {fields : List Field} {lines : List Text} {i : Instance}
    (mem : i ∈ (readDirectives fields lines).value) :
    ∃ values, i.fields = fieldLiterals fields values := by
  obtain ⟨name, values, rfl⟩ := exists_eq_of_mem mem
  exact ⟨values, rfl⟩

/-- A field of strings has a quoted literal as its value. -/
theorem exists_eq_quote {fields : List Field} (distinct : (fields.map (·.name)).Nodup)
    {lines : List Text} {i : Instance} (mem : i ∈ (readDirectives fields lines).value) {f : Field}
    (declared : f ∈ fields) (string : f.kind = .string) {value : Text}
    (set : i.fields.get? f.name = some value) : ∃ v, value = Literal.quote v := by
  obtain ⟨values, same⟩ := exists_fields_eq mem
  rw [same, get?_fieldLiterals distinct declared] at set
  obtain ⟨v, -, rfl⟩ := Option.map_eq_some_iff.1 set
  exact ⟨v, by rw [fieldLiteral, if_pos string]⟩

end Directive

end EnumText
