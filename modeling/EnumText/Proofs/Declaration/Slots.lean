import Mathlib.Data.List.ReduceOption
import EnumText.Proofs.Declaration.Balance
import EnumText.Proofs.Declaration.Reading

/-!
# The slots of a struct type

A value of a struct type has a slot for each name of a field, and one for each embedded type. What
is read of a struct type are the names alone, so an embedded type leaves no trace, unless arguments
follow its name.

* `FieldLine`, `StructBody`, `StructSpec`: how a struct type is written, with its slots in order.
* `FieldLine.exists_fields`, `StructBody.map_name`, `StructSpec.map_name`: the fields that are read
  are those slots that have a name.
-/

namespace EnumText

/-- A token of a source that has one line. -/
def Token.inLine (kind : Token.Kind) (spelling : String) (start : Nat) : Token :=
  ⟨kind, text spelling, 1, start + 1, start, start + spelling.length⟩

end EnumText

namespace EnumText.Listing

open Declaration

variable {l : Listing} {t : Token} {ts rest more : List Token}

/-! ## Lines -/

/-- Names with commas between them. -/
inductive NameList : List Text → List Token → Prop
  | last {t : Token} (isName : t.kind = .identifier) : NameList [t.spelling] [t]
  | cons {t comma : Token} {names : List Text} {ts : List Token} (isName : t.kind = .identifier)
    (isComma : comma.kind = .comma) (others : NameList names ts) :
    NameList (t.spelling :: names) (t :: comma :: ts)

/-- Tokens that hang together on a line of a struct type, and do not end with a tag. -/
structure IsType (ts : List Token) : Prop where
  ne_nil : ts ≠ []
  apart : openAfter [.semicolon] 0 (ts.map (·.kind)) = some 0
  last : ∀ t ∈ ts.getLast?, ¬ (t.kind = .string ∨ t.kind = .rawString)

/-- What may stand at the end of a line. -/
inductive IsTag : List Token → Prop
  | none : IsTag []
  | tag {t : Token} (literal : t.kind = .string ∨ t.kind = .rawString) : IsTag [t]

/-- A type that is embedded: by its name, by one of another package, or by a pointer to it. -/
inductive Embeds : List Token → Prop
  | name {t : Token} (isName : t.kind = .identifier) : Embeds [t]
  | qualified {t dot : Token} {ts : List Token} (isName : t.kind = .identifier)
    (isDot : dot.kind = .dot) : Embeds (t :: dot :: ts)
  | pointer {star : Token} {ts : List Token} (isStar : star.kind = .operator) : Embeds (star :: ts)

/-- A line of a struct type with its slots: the names of fields, or one without a name for an
embedded type. A name with arguments after it is written as a field is, and has the name for its
slot. -/
inductive FieldLine : List (Option Text) → List Token → Prop
  | named {names : List Text} {ns type tag : List Token} (list : NameList names ns)
    (isType : IsType type) (first : ∀ t ∈ type.head?, t.kind ≠ .comma ∧ t.kind ≠ .dot)
    (tagged : IsTag tag) : FieldLine (names.map some) (ns ++ type ++ tag)
  | embedded {type tag : List Token} (embeds : Embeds type) (isType : IsType type)
    (tagged : IsTag tag) : FieldLine [none] (type ++ tag)

variable {names : List Text} {ns type tag : List Token} {slots : List (Option Text)}

theorem NameList.apart {stops : List Token.Kind} (list : NameList names ns)
    (noName : .identifier ∉ stops) (noComma : .comma ∉ stops) :
    openAfter stops 0 (ns.map (·.kind)) = some 0 := by
  induction list with
  | last isName =>
    rw [List.map_singleton, isName]
    exact openAfter_cons (.other rfl rfl (.inr noName))
  | cons isName isComma _ ih =>
    rw [List.map_cons, List.map_cons, isName, isComma,
      openAfter_cons (.other rfl rfl (.inr noName)), openAfter_cons (.other rfl rfl (.inr noComma))]
    exact ih

theorem IsTag.apart (tagged : IsTag tag) :
    openAfter [.semicolon] 0 (tag.map (·.kind)) = some 0 := by
  cases tagged with
  | none => rfl
  | tag literal =>
    rcases literal with kind | kind
    · rw [List.map_singleton, kind]
      rfl
    · rw [List.map_singleton, kind]
      rfl

theorem FieldLine.apart (line : FieldLine slots ts) :
    openAfter [.semicolon] 0 (ts.map (·.kind)) = some 0 := by
  cases line with
  | named list isType _ tagged =>
    rw [List.map_append, List.map_append, List.append_assoc,
      openAfter_append (list.apart (by simp) (by simp)), openAfter_append isType.apart]
    exact tagged.apart
  | embedded _ isType tagged =>
    rw [List.map_append, openAfter_append isType.apart]
    exact tagged.apart

theorem FieldLine.ne_nil (line : FieldLine slots ts) : ts ≠ [] := by
  cases line with
  | named list isType => simp [isType.ne_nil]
  | embedded embeds isType => simp [isType.ne_nil]

theorem withoutTag_append (some : ts ≠ [])
    (last : ∀ t ∈ ts.getLast?, ¬ (t.kind = .string ∨ t.kind = .rawString)) (tagged : IsTag tag) :
    withoutTag (ts ++ tag) = ts := by
  cases tagged with
  | none =>
    rw [List.append_nil, withoutTag]
    split
    · next t mem => rw [if_neg fun literal => last t mem literal.1]
    · rfl
  | @tag t literal =>
    have longer : 1 < (ts ++ [t]).length := by
      have := List.length_pos_iff.2 some
      simpa using this
    rw [withoutTag, List.getLast?_concat]
    dsimp only
    rw [if_pos ⟨literal, longer⟩, List.dropLast_concat]

theorem fieldNames_append (list : NameList names ns) (some : type ≠ [])
    (first : ∀ t ∈ type.head?, t.kind ≠ .comma) : fieldNames (ns ++ type) = (names, type) := by
  induction list with
  | last isName =>
    obtain ⟨u, type, rfl⟩ := List.exists_cons_of_ne_nil some
    rw [List.singleton_append, fieldNames, if_pos isName, if_neg (first u rfl)]
  | cons isName isComma _ ih =>
    rw [List.cons_append, List.cons_append, fieldNames, if_pos isName, if_pos isComma, ih]

/-- The fields of a line with names are these names, each with the text of the type. -/
theorem fieldsOfLine_named (list : NameList names ns) (isType : IsType type)
    (first : ∀ t ∈ type.head?, t.kind ≠ .comma ∧ t.kind ≠ .dot) (tagged : IsTag tag) :
    l.fieldsOfLine (ns ++ type ++ tag) = .ok (names.map fun name => ⟨name, l.textOf type⟩) := by
  have some := isType.ne_nil
  have bare : withoutTag (ns ++ type ++ tag) = ns ++ type := by
    refine withoutTag_append (by simp [some]) (fun t mem => isType.last t ?_) tagged
    rwa [List.getLast?_append_of_ne_nil _ some] at mem
  have begins : ∃ t u tail, ns ++ type = t :: u :: tail ∧ t.kind = .identifier ∧
      u.kind ≠ .dot := by
    cases list with
    | @last t isName =>
      obtain ⟨u, tail, rfl⟩ := List.exists_cons_of_ne_nil some
      exact ⟨t, u, tail, rfl, isName, (first u rfl).2⟩
    | @cons t comma names ts isName isComma others =>
      exact ⟨t, comma, ts ++ type, rfl, isName, by simp [isComma]⟩
  obtain ⟨t, u, tail, same, isName, noDot⟩ := begins
  have read := fieldNames_append list some fun t mem => (first t mem).1
  rw [same] at read
  rw [fieldsOfLine, bare, same]
  dsimp only
  rw [if_pos ⟨isName, noDot⟩, read]
  simp [some]

/-- The fields of a line are those of its slots that have a name. -/
theorem FieldLine.exists_fields (line : FieldLine slots ts) :
    ∃ fields, l.fieldsOfLine ts = .ok fields ∧ fields.map (·.name) = slots.reduceOption := by
  cases line with
  | @named names ns type tag list isType first tagged =>
    refine ⟨_, fieldsOfLine_named list isType first tagged, ?_⟩
    rw [List.map_map, List.reduceOption, List.filterMap_map]
    exact (List.map_id _).trans List.filterMap_some.symm
  | @embedded type tag embeds isType tagged =>
    rw [fieldsOfLine, withoutTag_append isType.ne_nil isType.last tagged]
    refine ⟨[], ?_, rfl⟩
    cases embeds with
    | name => rfl
    | qualified isName isDot => simp [isDot]
    | @pointer star ts isStar =>
      cases ts with
      | nil => rfl
      | cons u ts => simp [isStar]

/-! ## Struct types -/

/-- The lines of a struct type, with semicolons between them. -/
inductive StructBody : List (Option Text) → List Token → Prop
  | nil : StructBody [] []
  | semicolon {t : Token} {slots : List (Option Text)} {ts : List Token}
    (ends : t.kind = .semicolon) (below : StructBody slots ts) : StructBody slots (t :: ts)
  | last {slots : List (Option Text)} {ts : List Token} (line : FieldLine slots ts) :
    StructBody slots ts
  | line {t : Token} {slots others : List (Option Text)} {ts more : List Token}
    (line : FieldLine slots ts) (ends : t.kind = .semicolon) (below : StructBody others more) :
    StructBody (slots ++ others) (ts ++ t :: more)

variable {fuel : Nat} {fields : List Field}

theorem fieldsUpToClose_closing (closes : t.kind = .closing .curly) :
    l.fieldsUpToClose (fuel + 1) (t :: more) = .ok ([], more) := by
  rw [fieldsUpToClose, skipSemicolons_of_kind (by simp [closes])]
  simp only [if_pos closes]

theorem fieldsUpToClose_semicolon (ends : t.kind = .semicolon) :
    l.fieldsUpToClose (fuel + 1) (t :: more) = l.fieldsUpToClose (fuel + 1) more := by
  rw [fieldsUpToClose, fieldsUpToClose, skipSemicolons, skipSemicolons,
    List.dropWhile_cons_of_pos (by simp [ends])]

/-- Tokens that hang together are one line up to the semicolon or closing bracket after them. -/
theorem fieldsUpToClose_line (some : ts ≠ [])
    (apart : openAfter [.semicolon] 0 (ts.map (·.kind)) = Option.some 0)
    (stop : t.kind = .semicolon ∨ t.kind = .closing .curly) :
    l.fieldsUpToClose (fuel + 1) (ts ++ t :: more) = (do
      let own ← l.fieldsOfLine ts
      let (others, rest) ← l.fieldsUpToClose fuel (t :: more)
      return (own ++ others, rest)) := by
  have apart : openAfter [.semicolon, .closing .curly] 0 (ts.map (·.kind)) = Option.some 0 :=
    openAfter_closing apart .curly
  have collected := collect_of_apart l apart (t :: more) (by simpa using stop)
  obtain ⟨u, tail, rfl⟩ := List.exists_cons_of_ne_nil some
  obtain ⟨n, (pass : Passes _ 0 u.kind n), -⟩ := exists_passes apart
  have inside : ¬ (u.kind = .semicolon ∨ u.kind = .closing .curly) := fun stop =>
    pass.free ⟨rfl, .inl (by simpa using stop)⟩
  rw [not_or] at inside
  rw [List.cons_append] at collected ⊢
  rw [fieldsUpToClose, skipSemicolons_of_kind inside.1]
  simp only [if_neg inside.2, collected]
  rfl

theorem fieldsUpToClose_of_closing (closes : t.kind = .closing .curly)
    (read : l.fieldsUpToClose fuel (t :: more) = .ok (fields, rest)) : fields = [] := by
  cases fuel with
  | zero => cases read
  | succ fuel =>
    cases (fieldsUpToClose_closing closes).symm.trans read
    rfl

theorem fieldsUpToClose_of_semicolon (ends : t.kind = .semicolon)
    (read : l.fieldsUpToClose fuel (t :: more) = .ok (fields, rest)) :
    l.fieldsUpToClose fuel more = .ok (fields, rest) := by
  cases fuel with
  | zero => cases read
  | succ fuel => exact (fieldsUpToClose_semicolon ends).symm.trans read

theorem fieldsUpToClose_of_line (line : FieldLine slots ts)
    (stop : t.kind = .semicolon ∨ t.kind = .closing .curly)
    (read : l.fieldsUpToClose fuel (ts ++ t :: more) = .ok (fields, rest)) :
    ∃ fuel' own others, l.fieldsUpToClose fuel' (t :: more) = .ok (others, rest) ∧
      own.map (·.name) = slots.reduceOption ∧ fields = own ++ others := by
  cases fuel with
  | zero => cases read
  | succ fuel =>
    obtain ⟨own, found, names⟩ := line.exists_fields (l := l)
    rw [fieldsUpToClose_line line.ne_nil line.apart stop] at read
    rcases bind_eq_ok_iff.1 read with ⟨own', found', body⟩
    cases found.symm.trans found'
    rcases bind_eq_ok_iff.1 body with ⟨⟨others, last⟩, below, same⟩
    cases same
    exact ⟨fuel, own, others, below, names, rfl⟩

/-- The fields of a struct type are those of its slots that have a name. -/
theorem StructBody.map_name (h : StructBody slots ts) (closes : t.kind = .closing .curly)
    (read : l.fieldsUpToClose fuel (ts ++ t :: more) = .ok (fields, rest)) :
    fields.map (·.name) = slots.reduceOption := by
  induction h generalizing fuel fields with
  | nil =>
    rw [fieldsUpToClose_of_closing closes read]
    rfl
  | semicolon ends _ ih => exact ih (fieldsUpToClose_of_semicolon ends read)
  | last line =>
    obtain ⟨_, own, others, below, names, rfl⟩ :=
      fieldsUpToClose_of_line line (.inr closes) read
    rw [fieldsUpToClose_of_closing closes below, List.append_nil, names]
  | line line ends _ ih =>
    rw [List.append_assoc] at read
    obtain ⟨_, own, others, below, names, rfl⟩ :=
      fieldsUpToClose_of_line line (.inl ends) read
    rw [List.map_append, names, ih (fieldsUpToClose_of_semicolon ends below),
      List.reduceOption_append]

/-- The parameters of a generic type in square brackets, or none. -/
inductive TypeParameters : List Token → Prop
  | none : TypeParameters []
  | some {opening first second closing : Token} {inner : List Token}
    (opens : opening.kind = .opening .square) (isName : first.kind = .identifier)
    (noArray : second.kind ≠ .closing .square)
    (apart : openAfter [.closing .square] 0 ((first :: second :: inner).map (·.kind)) = some 0)
    (closes : closing.kind = .closing .square) :
    TypeParameters (opening :: (first :: second :: inner ++ [closing]))

/-- The equals sign of an alias, or none. -/
inductive IsAlias : List Token → Prop
  | none : IsAlias []
  | some {t : Token} (isAssign : t.kind = .assign) : IsAlias [t]

/-- A name that is declared as a struct type with some slots, and whatever follows it. -/
inductive StructSpec : Text → List (Option Text) → List Token → Prop
  | mk {name word opening closing : Token} {params equals body rest : List Token}
    {slots : List (Option Text)} (isName : name.kind = .identifier)
    (generic : TypeParameters params) (isAlias : IsAlias equals)
    (isStruct : word.isWord "struct" = true)
    (opens : opening.kind = .opening .curly) (lines : StructBody slots body)
    (closes : closing.kind = .closing .curly) :
    StructSpec name.spelling slots
      (name :: (params ++ (equals ++ word :: opening :: (body ++ closing :: rest))))

theorem TypeParameters.skip {params : List Token} (generic : TypeParameters params)
    (other : ∀ t ∈ more.head?, t.kind ≠ .opening .square) :
    l.skipTypeParameters (params ++ more) = .ok more := by
  unfold skipTypeParameters
  cases generic with
  | none =>
    have apart : at? (.opening .square) more = false := by
      cases more with
      | nil => rfl
      | cons t more => simpa [at?] using other t rfl
    rw [List.nil_append, apart, Bool.false_and]
    rfl
  | @some opening first second closing inner opens isName noArray apart closes =>
    have starts :
        l.startsTypeParameters (first :: second :: inner ++ [closing] ++ more) = true := by
      simp [startsTypeParameters, current, isName, noArray]
    have bracket : at? (.opening .square)
        (opening :: (first :: second :: inner ++ [closing]) ++ more) = true := by
      simp [at?, opens]
    have collected := collect_of_apart l apart (closing :: more) (by simp [closes])
    rw [bracket]
    simp only [List.cons_append, List.drop_one, List.tail_cons, List.append_assoc, Bool.true_and,
      List.nil_append] at starts collected ⊢
    rw [if_pos starts]
    have closed : l.expect (.closing .square) (closing :: more) = .ok (closing, more) :=
      expect_eq_ok_iff.2 ⟨rfl, closes⟩
    exact bind_eq_ok_iff.2 ⟨_, collected, bind_eq_ok_iff.2 ⟨_, closed, rfl⟩⟩

theorem IsAlias.skip {equals : List Token} (isAlias : IsAlias equals)
    (other : ∀ t ∈ more.head?, t.kind ≠ .assign) : afterAssign (equals ++ more) = more := by
  cases isAlias with
  | none =>
    have apart : at? .assign more = false := by
      cases more with
      | nil => rfl
      | cons t more => simpa [at?] using other t rfl
    rw [List.nil_append, afterAssign, apart]
    rfl
  | some isAssign =>
    rw [List.singleton_append, afterAssign, if_pos (by simp [at?, isAssign])]
    rfl

theorem StructSpec.exists_cons {name : Text} (h : StructSpec name slots ts) :
    ∃ t rest, ts = t :: rest ∧ t.kind = .identifier := by
  obtain ⟨isName⟩ := h
  exact ⟨_, _, rfl, isName⟩

/-- What is read of a struct type are its name and those of its slots that have one. -/
theorem StructSpec.map_name {name : Text} {doc : List Text} {type : TypeDecl}
    (h : StructSpec name slots ts) (read : l.typeSpec doc ts = .ok (type, rest)) :
    type.name = name ∧ type.fields.map (·.name) = slots.reduceOption := by
  obtain ⟨isName, generic, isAlias, isStruct, opens, lines, closes⟩ := h
  obtain ⟨_, _, params, fields, tail, _, _, same, -, skipped, found, -, rfl, -⟩ :=
    typeSpec_eq_ok_iff.1 read
  cases same
  have word := kind_of_isWord isStruct
  rw [generic.skip] at skipped
  · cases skipped
    rw [isAlias.skip (by simp [word])] at found
    rw [typeFields, if_pos (by simpa using isStruct)] at found
    rcases bind_eq_ok_iff.1 found with ⟨⟨_, _⟩, keyword, body⟩
    rcases bind_eq_ok_iff.1 body with ⟨⟨_, _⟩, opened, inner⟩
    obtain ⟨first, -⟩ := expectWord_eq_ok_iff.1 keyword
    cases first
    obtain ⟨first, -⟩ := expect_eq_ok_iff.1 opened
    cases first
    exact ⟨rfl, lines.map_name closes inner⟩
  · cases isAlias with
    | none => simp [word]
    | some isAssign => simp [isAssign]

end EnumText.Listing
