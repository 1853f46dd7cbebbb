import EnumText.Package
import EnumText.Proofs.Assignments
import EnumText.Proofs.Declaration.Boundaries
import EnumText.Proofs.Declaration.Positional
import EnumText.Proofs.Declaration.Slots
import EnumText.Proofs.Generation.Answers

/-!
# Values that scanned variables have by position

A literal without keys gives its elements to the fields of its type in order. An embedded type is no
field, but has an element. So a field has the element whose index is the number of fields before it,
which is the element at its own slot only if no type is embedded above it.

* `Composite.get?_fieldValues`: the value of a field is the element of the same index.
* `getElem?_reduceOption`: the index of a field among those of the type.
* `Package.scan_positional`: the values of a scanned variable.
-/

namespace EnumText

open Listing Declaration

/-! ## Elements and fields -/

/-- A literal without keys gives each field the element of the same index. -/
theorem Composite.get?_fieldValues {c : Composite} {fields : List Field} {j : Nat} {f : Field}
    {e : Element} (unkeyed : c.isKeyed = false) (distinct : (fields.map (·.name)).Nodup)
    (enough : fields.length ≤ c.elements.length) (here : fields[j]? = some f)
    (value : c.elements[j]? = some e) : (c.fieldValues fields).get? f.name = some e.value := by
  have keys : ((fields.zip c.elements).map fun p => (p.1.name, p.2.value)).map Prod.fst =
      fields.map (·.name) := by
    calc ((fields.zip c.elements).map fun p => (p.1.name, p.2.value)).map Prod.fst
        = ((fields.zip c.elements).map Prod.fst).map (·.name) := by
          rw [List.map_map, List.map_map]
          rfl
      _ = fields.map (·.name) := by rw [List.map_fst_zip enough]
  have mem : (f, e) ∈ fields.zip c.elements :=
    List.mem_of_getElem? (List.getElem?_zip_eq_some.2 ⟨here, value⟩)
  rw [fieldValues, if_neg (by simp [unkeyed]),
    Assignments.ofList_of_nodup (keys.symm ▸ distinct),
    Assignments.get?_eq_some_iff (keys.symm ▸ distinct)]
  exact List.mem_map_of_mem (f := fun p : Field × Element => (p.1.name, p.2.value)) mem

/-- What stands in a list with gaps comes after as many others as are before it. -/
theorem getElem?_reduceOption {α : Type} {slots : List (Option α)} {s : Nat} {a : α}
    (here : slots[s]? = some (some a)) :
    slots.reduceOption[(slots.take s).reduceOption.length]? = some a := by
  obtain ⟨inside, same⟩ := List.getElem?_eq_some_iff.1 here
  have split : slots.reduceOption =
      (slots.take s).reduceOption ++ a :: (slots.drop (s + 1)).reduceOption := by
    rw [← List.reduceOption_cons_of_some, ← same, ← List.reduceOption_append,
      List.getElem_cons_drop, List.take_append_drop]
  rw [split, List.getElem?_append_right (Nat.le_refl _), Nat.sub_self]
  rfl

theorem length_reduceOption_take {α : Type} {slots : List (Option α)} {s : Nat}
    (inside : s ≤ slots.length) (noGap : none ∉ slots.take s) :
    (slots.take s).reduceOption.length = s := by
  have all : (slots.take s).reduceOption.length = (slots.take s).length :=
    List.reduceOption_length_eq_iff.2 fun x mem =>
      Option.isSome_iff_ne_none.2 fun gap => noGap (gap ▸ mem)
  rw [all, List.length_take_of_le inside]

/-- A literal with an element for each slot of a type gives a field the element whose index is the
number of fields before it. -/
theorem Composite.exists_get?_fieldValues {c : Composite} {fields : List Field}
    {slots : List (Option Text)} {s : Nat} {field : Text} (unkeyed : c.isKeyed = false)
    (distinct : (fields.map (·.name)).Nodup) (named : fields.map (·.name) = slots.reduceOption)
    (full : c.elements.length = slots.length) (slot : slots[s]? = some (some field)) :
    ∃ e, c.elements[(slots.take s).reduceOption.length]? = some e ∧
      (c.fieldValues fields).get? field = some e.value := by
  have here := getElem?_reduceOption slot
  rw [← named, List.getElem?_map, Option.map_eq_some_iff] at here
  obtain ⟨f, fieldAt, rfl⟩ := here
  have enough : fields.length ≤ c.elements.length := by
    have gaps : slots.reduceOption.length ≤ slots.length := List.reduceOption_length_le slots
    rwa [← named, List.length_map, ← full] at gaps
  obtain ⟨inside, -⟩ := List.getElem?_eq_some_iff.1 fieldAt
  have element := List.getElem?_eq_getElem (Nat.lt_of_lt_of_le inside enough)
  exact ⟨_, element, get?_fieldValues unkeyed distinct enough fieldAt element⟩

/-! ## Declarations of a package -/

/-- A part of a declaration stands in a file of a package, below its package clause. -/
inductive Package.HasSpec (p : Package) (word : String) (l : Listing) (spec : List Token) : Prop
  | mk {file : Path} {content : Text} {f : SourceFile} (listed : Listing.ofText? content = .ok l)
    (read : SourceFile.ofText? file content = .ok f) (mem : f ∈ p.files)
    (stands : SpecIn word spec ((skipSemicolons l.tokens).drop 2))

variable {p : Package} {l : Listing} {spec : List Token} {slots : List (Option Text)}
variable {name typeName : Text} {runs : List (List Token)}

theorem Package.HasSpec.exists_declarations {word : String} (h : p.HasSpec word l spec) :
    ∃ ts fuel types bindings, SpecIn word spec ts ∧ l.declarations fuel ts = .ok (types, bindings) ∧
      types.map (·.toTypeInfo) ⊆ p.source.types ∧ bindings ⊆ p.source.bindings := by
  obtain ⟨listed, read, mem, stands⟩ := h
  obtain ⟨l', listed', found⟩ := SourceFile.ofText?_eq_ok_iff.1 read
  cases listed.symm.trans listed'
  obtain ⟨word, package, rest, types, bindings, first, -, -, declared, rfl⟩ :=
    SourceFile.ofListing?_eq_ok_iff.1 found
  rw [first] at stands
  exact ⟨rest, _, types, bindings, stands, declared,
    fun type here => List.mem_flatMap.2 ⟨_, mem, here⟩,
    fun b here => List.mem_flatMap.2 ⟨_, mem, here⟩⟩

/-- A struct type of a file is one of the types of its package. -/
theorem Package.HasSpec.exists_type (h : p.HasSpec "type" l spec)
    (isStruct : StructSpec typeName slots spec) :
    ∃ type ∈ p.source.types, type.name = typeName ∧
      type.fields.map (·.name) = slots.reduceOption := by
  obtain ⟨ts, fuel, types, bindings, stands, declared, sub, -⟩ := h.exists_declarations
  obtain ⟨t, rest, rfl, isName⟩ := isStruct.exists_cons
  obtain ⟨doc, type, last, read, mem⟩ := exists_typeSpec stands isName declared
  exact ⟨type.toTypeInfo, sub (List.mem_map_of_mem mem), isStruct.map_name read⟩

/-- A variable of a file is one of the variables of its package. -/
theorem Package.HasSpec.exists_binding (h : p.HasSpec "var" l spec)
    (isLiteral : LiteralSpec name typeName runs spec) :
    ∃ b ∈ p.source.bindings, ∃ i : Nat, b.names[i]? = some name ∧
      b.values[i]? = some (some (l.positional typeName runs)) := by
  obtain ⟨ts, fuel, types, bindings, stands, declared, -, sub⟩ := h.exists_declarations
  obtain ⟨t, rest, rfl, isName⟩ := isLiteral.exists_cons
  obtain ⟨b, last, read, mem⟩ := exists_varSpec stands isName declared
  exact ⟨b, sub mem, isLiteral.exists_index read⟩

/-- A variable with a literal of a type is found by a scan for it. -/
theorem Source.mem_scan {s : Source} {b : Binding} {c : Composite} {i : Nat} (mem : b ∈ s.bindings)
    (named : b.names[i]? = some name) (valued : b.values[i]? = some (some c))
    (fields : List Field) :
    (⟨name, c.fieldValues fields, .scan⟩ : Instance) ∈ s.scan c.typeName fields := by
  have pair : (name, some c) ∈ b.names.zip b.values :=
    List.mem_of_getElem? (List.getElem?_zip_eq_some.2 ⟨named, valued⟩)
  refine List.mem_flatMap.2 ⟨b, mem, List.mem_filterMap.2 ⟨_, pair, ?_⟩⟩
  simp

/-- The only type of a name is found, if its fields have different names. -/
theorem Source.find?_eq_of_only {s : Source} {type : TypeInfo} (mem : type ∈ s.types)
    (only : ∀ other ∈ s.types, other.name = type.name → other = type)
    (distinct : (type.fields.map (·.name)).Nodup) : s.find? type.name = .ok (some type) := by
  unfold find?
  cases first : s.types.find? (·.name = type.name) with
  | none => exact absurd (decide_eq_true rfl) (List.find?_eq_none.1 first type mem)
  | some other =>
    have named : other.name = type.name := by simpa using List.find?_some first
    obtain rfl := only other (List.mem_of_find?_eq_some first) named
    dsimp only
    rw [TypeInfo.check_eq_ok_iff.2 ⟨distinct, rfl⟩]
    rfl

/-! ## Scanned values -/

/-- A type is found by its name, if no other has it. A variable of it with as many elements as there
are slots is found too. It has as value of a field the element whose index is the number of fields
before it, and that is the one at its own slot where no type is embedded before it. -/
theorem Package.scan_positional {l' : Listing} {spec' : List Token}
    (typed : p.HasSpec "type" l spec) (isStruct : StructSpec typeName slots spec)
    (bound : p.HasSpec "var" l' spec') (isLiteral : LiteralSpec name typeName runs spec')
    (full : runs.length = slots.length) :
    ∃ type ∈ p.source.types, type.name = typeName ∧
      type.fields.map (·.name) = slots.reduceOption ∧
      ((∀ other ∈ p.source.types, other.name = typeName → other = type) →
        slots.reduceOption.Nodup → p.source.find? typeName = .ok (some type)) ∧
      (p.source.find? typeName = .ok (some type) →
        ∃ i ∈ p.source.scan typeName type.fields, i.name = name ∧
          ∀ s field, slots[s]? = some (some field) →
            ∃ run, runs[(slots.take s).reduceOption.length]? = some run ∧
              i.fields.get? field = some (l'.textOf run) ∧
              (none ∉ slots.take s → runs[s]? = some run)) := by
  obtain ⟨type, mem, named, fields⟩ := typed.exists_type isStruct
  obtain ⟨b, declared, k, nameAt, valueAt⟩ := bound.exists_binding isLiteral
  refine ⟨type, mem, named, fields, fun only distinct => ?_, fun found => ?_⟩
  · subst named
    exact Source.find?_eq_of_only mem only (fields ▸ distinct)
  obtain ⟨-, -, distinct⟩ := Source.find?_eq_some found
  refine ⟨_, Source.mem_scan declared nameAt valueAt type.fields, rfl, fun s field slot => ?_⟩
  obtain ⟨e, element, value⟩ := Composite.exists_get?_fieldValues (c := l'.positional typeName runs)
    (by simp [Composite.isKeyed, positional]) distinct fields (by simpa [positional] using full)
    slot
  rw [positional, List.getElem?_map, Option.map_eq_some_iff] at element
  obtain ⟨run, runAt, rfl⟩ := element
  refine ⟨run, runAt, value, fun noGap => ?_⟩
  obtain ⟨inside, -⟩ := List.getElem?_eq_some_iff.1 slot
  rwa [length_reduceOption_take (Nat.le_of_lt inside) noGap] at runAt

/-! ## A type below an embedded one -/

/-- A struct type with an embedded one above its only field, and a variable of it. -/
def cardText : Text :=
  text "package p; type Card struct \x7b *Deck; Name string \x7d; " ++
    text "var Ace = Card\x7bnil, \"Ace\"\x7d"

/-- The elements of the variable. -/
def aceRuns : List (List Token) := [[.inLine .identifier "nil" 67], [.inLine .string "\"Ace\"" 72]]

/-- The tokens from the name of the variable on. -/
def aceSpec : List Token :=
  [.inLine .identifier "Ace" 56, .inLine .assign "=" 60, .inLine .identifier "Card" 62,
    .inLine (.opening .curly) "\x7b" 66, .inLine .identifier "nil" 67, .inLine .comma "," 70,
    .inLine .string "\"Ace\"" 72, .inLine (.closing .curly) "\x7d" 77, .inLine .semicolon "" 78]

/-- The tokens between the brackets of the type. -/
def cardLines : List Token :=
  [.inLine .operator "*" 30, .inLine .identifier "Deck" 31, .inLine .semicolon ";" 35,
    .inLine .identifier "Name" 37, .inLine .identifier "string" 42]

/-- The tokens from the name of the type on. -/
def cardSpec : List Token :=
  .inLine .identifier "Card" 16 :: .inLine .keyword "struct" 21 ::
    .inLine (.opening .curly) "\x7b" 28 :: (cardLines ++ .inLine (.closing .curly) "\x7d" 49 ::
    .inLine .semicolon ";" 50 :: .inLine .keyword "var" 52 :: aceSpec)

/-- The listing of the source. -/
def cardListing : Listing where
  tokens := [.inLine .keyword "package" 0, .inLine .identifier "p" 8, .inLine .semicolon ";" 9,
    .inLine .keyword "type" 11] ++ cardSpec
  eof := .inLine .eof "" 78
  comments := []
  source := cardText

/-- What is read of the type. -/
def cardInfo : TypeInfo := ⟨text "Card", [], [⟨text "Name", text "string"⟩]⟩

/-- The package of the source. -/
def cardPackage : Package :=
  ⟨text "p", default, [⟨text "p", [⟨cardInfo, true, 1⟩],
    [⟨[text "Ace"], [some (cardListing.positional (text "Card") aceRuns)]⟩]⟩]⟩

theorem hasSpec_cardPackage {word : String} {spec : List Token}
    (stands : SpecIn word spec (cardListing.tokens.drop 2)) :
    cardPackage.HasSpec word cardListing spec :=
  .mk (by decide +kernel : Listing.ofText? cardText = .ok cardListing)
    (by decide +kernel : SourceFile.ofText? default cardText = .ok _)
    (List.mem_singleton.2 rfl) stands

theorem structSpec_cardSpec : StructSpec (text "Card") [none, some (text "Name")] cardSpec := by
  have pointer : Embeds [.inLine .operator "*" 30, .inLine .identifier "Deck" 31] := .pointer rfl
  have embedded : FieldLine [none] [.inLine .operator "*" 30, .inLine .identifier "Deck" 31] :=
    .embedded pointer ⟨by simp, rfl, by simp [Token.inLine]⟩ .none
  have type : IsType [.inLine .identifier "string" 42] := ⟨by simp, rfl, by simp [Token.inLine]⟩
  have name := @NameList.last (.inLine .identifier "Name" 37) rfl
  have named : FieldLine [some (text "Name")]
      [.inLine .identifier "Name" 37, .inLine .identifier "string" 42] :=
    .named name type (by simp [Token.inLine]) .none
  have lines : StructBody [none, some (text "Name")] cardLines :=
    @StructBody.line (.inLine .semicolon ";" 35) _ _ _ _ embedded rfl (.last named)
  refine @StructSpec.mk (.inLine .identifier "Card" 16) _ _ _ _ _ cardLines _ _ rfl .none .none
    ?_ ?_ lines ?_
  · decide
  · rfl
  · rfl

theorem literalSpec_aceSpec : LiteralSpec (text "Ace") (text "Card") aceRuns aceSpec := by
  have each : ∀ run ∈ aceRuns, IsPositional run := List.forall_mem_cons.2
    ⟨⟨⟨by simp, rfl⟩, by simp⟩, List.forall_mem_singleton.2 ⟨⟨by simp, rfl⟩, by simp⟩⟩
  have literal : PositionalLiteral (text "Card") aceRuns ((aceSpec.drop 2).take 6) :=
    @PositionalLiteral.mk (.inLine .identifier "Card" 62) _ _ _ _ rfl rfl
      (.cons _ rfl (.last _)) each rfl
  have value : IsValue ((aceSpec.drop 2).take 6) := ⟨List.cons_ne_nil _ _, rfl⟩
  have ends : ∀ t ∈ (aceSpec.drop 8).head?, t.kind = .semicolon ∨ t.kind = .closing .round := by
    rintro _ ⟨⟩
    exact .inl rfl
  have name := @NameList.last (.inLine .identifier "Ace" 56) rfl
  exact @LiteralSpec.mk _ _ _ _ _ [] _ _ _ (.inLine .assign "=" 60) _ 0 name rfl (by simp) rfl
    (.last _) (List.forall_mem_singleton.2 value) ends rfl rfl literal

theorem hasSpec_cardSpec : cardPackage.HasSpec "type" cardListing cardSpec := by
  have above : Statements [.inLine .semicolon ";" 9] := ⟨rfl, by simp [Token.inLine]⟩
  have word : (Token.inLine .keyword "type" 11).isWord "type" = true := by decide
  exact hasSpec_cardPackage (.single above word)

theorem hasSpec_aceSpec : cardPackage.HasSpec "var" cardListing aceSpec := by
  have above : Statements ((cardListing.tokens.drop 2).take 12) :=
    ⟨rfl, by simp [Token.inLine, cardListing, cardSpec, cardLines]⟩
  have word : (Token.inLine .keyword "var" 52).isWord "var" = true := by decide
  exact hasSpec_cardPackage (.single above word)

/-- The name of the card is the element for the embedded type. -/
theorem Package.scan_positional_card :
    ∃ i ∈ cardPackage.source.scan (text "Card") cardInfo.fields, i.name = text "Ace" ∧
      i.fields.get? (text "Name") = some (cardListing.textOf [.inLine .identifier "nil" 67]) := by
  obtain ⟨type, mem, -, -, only, values⟩ := Package.scan_positional hasSpec_cardSpec
    structSpec_cardSpec hasSpec_aceSpec literalSpec_aceSpec rfl
  obtain rfl : type = cardInfo := List.mem_singleton.1 mem
  have found := only (fun other mem _ => List.mem_singleton.1 mem) (List.nodup_singleton _)
  obtain ⟨i, scanned, name, value⟩ := values found
  obtain ⟨run, runAt, read, -⟩ := value 1 (text "Name") rfl
  cases runAt
  exact ⟨i, scanned, name, read⟩

/-- A value need not be the element at the slot of its field. -/
theorem Package.scan_cardPackage :
    cardPackage.HasSpec "type" cardListing cardSpec ∧
      StructSpec (text "Card") [none, some (text "Name")] cardSpec ∧
      cardPackage.HasSpec "var" cardListing aceSpec ∧
      LiteralSpec (text "Ace") (text "Card") aceRuns aceSpec ∧
      cardPackage.source.find? (text "Card") = .ok (some cardInfo) ∧
      cardPackage.source.scan (text "Card") cardInfo.fields =
        [⟨text "Ace", [(text "Name", text "nil")], .scan⟩] ∧
      aceRuns[1]?.map cardListing.textOf = some (text "\"Ace\"") := by
  refine ⟨hasSpec_cardSpec, structSpec_cardSpec, hasSpec_aceSpec, literalSpec_aceSpec, ?_, ?_, ?_⟩
  · decide
  · decide
  · decide

end EnumText
