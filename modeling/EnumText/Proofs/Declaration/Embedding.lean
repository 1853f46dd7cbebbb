import EnumText.Proofs.Declaration.Slots

/-!
# Embedded fields

A line of a struct type that embeds a type names no field. What it names is told from its first two
tokens, and there the instance of a generic type looks like a field whose type is an array.

* `BodyLines`: a struct type cut into its lines, `BodyLines.structFields`: its fields are those of
  its lines, each read by itself.
* `EmbeddedField`: the lines that embed a type.
* `structFields_embedded`: they leave the fields of the other lines alone, and add none of their own
  unless they embed an instance of a generic type by its bare name.
-/

namespace EnumText.Listing

open Declaration

variable {l : Listing} {t : Token} {ts line rest more body : List Token}
variable {lines before after : List (List Token)}

/-! ## Lines of a struct type -/

/-- Tokens that stand on one line: no semicolon stands among them outside of brackets. -/
structure IsLine (ts : List Token) : Prop where
  ne_nil : ts ≠ []
  apart : openAfter [.semicolon] 0 (ts.map (·.kind)) = some 0

/-- The lines of a struct type, with semicolons between and around them. -/
inductive BodyLines : List (List Token) → List Token → Prop
  | nil : BodyLines [] []
  | semicolon {t : Token} {lines : List (List Token)} {ts : List Token}
    (ends : t.kind = .semicolon) (below : BodyLines lines ts) : BodyLines lines (t :: ts)
  | last {line : List Token} (isLine : IsLine line) : BodyLines [line] line
  | line {t : Token} {line ts : List Token} {lines : List (List Token)} (isLine : IsLine line)
    (ends : t.kind = .semicolon) (below : BodyLines lines ts) :
    BodyLines (line :: lines) (line ++ t :: ts)

theorem BodyLines.length_le (h : BodyLines lines body) : lines.length ≤ body.length := by
  induction h with
  | nil => exact Nat.le_refl 0
  | semicolon _ _ ih => exact Nat.le_succ_of_le ih
  | last isLine => exact List.length_pos_iff.2 isLine.ne_nil
  | line isLine _ _ ih =>
    rw [List.length_append, List.length_cons, List.length_cons]
    omega

/-- A line has fields of its own, and those of the lines below it follow. -/
theorem fieldsUpToClose_cons {fuel : Nat} (isLine : IsLine line)
    (stop : t.kind = .semicolon ∨ t.kind = .closing .curly)
    (below : l.fieldsUpToClose fuel (t :: more) =
      (lines.mapM l.fieldsOfLine).map fun fields => (fields.flatten, rest)) :
    l.fieldsUpToClose (fuel + 1) (line ++ t :: more) =
      ((line :: lines).mapM l.fieldsOfLine).map fun fields => (fields.flatten, rest) := by
  rw [fieldsUpToClose_line isLine.ne_nil isLine.apart stop, below, List.mapM_cons]
  cases l.fieldsOfLine line with
  | error fault => rfl
  | ok own => cases lines.mapM l.fieldsOfLine <;> rfl

theorem BodyLines.fieldsUpToClose {fuel : Nat} (h : BodyLines lines body)
    (closes : t.kind = .closing .curly) (enough : lines.length < fuel) :
    l.fieldsUpToClose fuel (body ++ t :: rest) =
      (lines.mapM l.fieldsOfLine).map fun fields => (fields.flatten, rest) := by
  obtain ⟨fuel, rfl⟩ := Nat.exists_eq_add_one_of_ne_zero (Nat.ne_zero_of_lt enough)
  induction h generalizing fuel with
  | nil => exact fieldsUpToClose_closing closes
  | semicolon ends _ ih =>
    rw [List.cons_append, fieldsUpToClose_semicolon ends]
    exact ih fuel enough
  | last isLine =>
    obtain ⟨fuel, rfl⟩ := Nat.exists_eq_add_one_of_ne_zero
      (Nat.ne_zero_of_lt (Nat.lt_of_succ_lt_succ enough))
    exact fieldsUpToClose_cons isLine (.inr closes) (fieldsUpToClose_closing closes)
  | line isLine ends _ ih =>
    have enough := Nat.lt_of_succ_lt_succ enough
    obtain ⟨fuel, rfl⟩ := Nat.exists_eq_add_one_of_ne_zero (Nat.ne_zero_of_lt enough)
    rw [List.append_assoc, List.cons_append]
    refine fieldsUpToClose_cons isLine (.inl ends) ?_
    rw [fieldsUpToClose_semicolon ends]
    exact ih fuel enough

/-- The fields of a struct type are those of its lines, each read by itself. -/
theorem BodyLines.structFields {word opening closing : Token} (h : BodyLines lines body)
    (isStruct : word.isWord "struct" = true) (opens : opening.kind = .opening .curly)
    (closes : closing.kind = .closing .curly) (rest : List Token) :
    l.structFields (word :: opening :: (body ++ closing :: rest)) =
      (lines.mapM l.fieldsOfLine).map fun fields => (fields.flatten, rest) := by
  have keyword : l.expectWord "struct" (word :: opening :: (body ++ closing :: rest)) =
      .ok (word, opening :: (body ++ closing :: rest)) := expectWord_eq_ok_iff.2 ⟨rfl, isStruct⟩
  have opened : l.expect (.opening .curly) (opening :: (body ++ closing :: rest)) =
      .ok (opening, body ++ closing :: rest) := expect_eq_ok_iff.2 ⟨rfl, opens⟩
  have enough : lines.length < (body ++ closing :: rest).length + 1 := by
    have most := h.length_le
    rw [List.length_append]
    omega
  rw [Listing.structFields, keyword]
  change (l.expect _ _ >>= _) = _
  rw [opened]
  exact h.fieldsUpToClose closes enough

/-- The fields of a line stand between those of the lines above and below it. -/
theorem BodyLines.structFields_around {word opening closing : Token} {own : List Field}
    (h : BodyLines (before ++ line :: after) body) (read : l.fieldsOfLine line = .ok own)
    (isStruct : word.isWord "struct" = true) (opens : opening.kind = .opening .curly)
    (closes : closing.kind = .closing .curly) (rest : List Token) :
    l.structFields (word :: opening :: (body ++ closing :: rest)) = do
      let front ← before.mapM l.fieldsOfLine
      let back ← after.mapM l.fieldsOfLine
      return (front.flatten ++ (own ++ back.flatten), rest) := by
  rw [h.structFields isStruct opens closes, List.mapM_append, List.mapM_cons, read]
  cases before.mapM l.fieldsOfLine with
  | error fault => rfl
  | ok front =>
    cases after.mapM l.fieldsOfLine with
    | error fault => rfl
    | ok back => exact congrArg (fun fields => Except.ok (fields, rest)) List.flatten_append

/-! ## Lines that embed a type -/

/-- The star of a pointer, or none. -/
inductive IsStar : List Token → Prop
  | none : IsStar []
  | star {t : Token} (operator : t.kind = .operator) (spelling : t.spelling = text "*") : IsStar [t]

/-- The name of a type, by itself or behind the name of its package. -/
inductive IsTypeName : List Token → Prop
  | bare {t : Token} (isName : t.kind = .identifier) : IsTypeName [t]
  | qualified {package dot t : Token} (isPackage : package.kind = .identifier)
    (isDot : dot.kind = .dot) (isName : t.kind = .identifier) : IsTypeName [package, dot, t]

/-- The arguments of a generic type in square brackets, or none. -/
inductive IsArguments : List Token → Prop
  | none : IsArguments []
  | list {opening closing : Token} {inner : List Token} (opens : opening.kind = .opening .square)
    (balanced : openAfter [] 0 (inner.map (·.kind)) = some 0)
    (closes : closing.kind = .closing .square) : IsArguments (opening :: (inner ++ [closing]))

/-- A line of a struct type that embeds a type. -/
structure EmbeddedField where
  star : List Token
  name : List Token
  arguments : List Token
  tag : List Token
  isStar : IsStar star
  isTypeName : IsTypeName name
  isArguments : IsArguments arguments
  isTag : IsTag tag

namespace EmbeddedField

/-- The type that a line embeds. -/
def type (e : EmbeddedField) : List Token := e.star ++ e.name ++ e.arguments

/-- The tokens of the line. -/
def tokens (e : EmbeddedField) : List Token := e.type ++ e.tag

/-- Whether the line embeds an instance of a generic type, and begins with the bare name of that. -/
def IsBareInstance (e : EmbeddedField) (name : Token) : Prop :=
  e.star = [] ∧ e.name = [name] ∧ e.arguments ≠ []

end EmbeddedField

theorem IsArguments.apart {arguments : List Token} (h : IsArguments arguments) :
    openAfter [.semicolon] 0 (arguments.map (·.kind)) = some 0 := by
  cases h with
  | none => rfl
  | @list opening closing inner opens balanced closes =>
    have inside : openAfter [.semicolon] 1 (inner.map (·.kind)) = some 1 :=
      openAfter_cover balanced (.inl Nat.one_ne_zero)
    rw [List.map_cons, List.map_append, opens,
      openAfter_cons (.opening rfl rfl (.inr (by decide))), openAfter_append inside,
      List.map_singleton, closes]
    rfl

/-- Arguments stand between their brackets. -/
theorem IsArguments.brackets {arguments : List Token} (h : IsArguments arguments) :
    (∀ t ∈ arguments.head?, t.kind = .opening .square) ∧
      ∀ t ∈ arguments.getLast?, t.kind = .closing .square := by
  cases h with
  | none => simp
  | list opens _ closes =>
    rw [← List.cons_append, List.getLast?_concat]
    exact ⟨by simpa using opens, by simpa using closes⟩

theorem IsStar.apart {star : List Token} (h : IsStar star) :
    openAfter [.semicolon] 0 (star.map (·.kind)) = some 0 := by
  cases h with
  | none => rfl
  | star operator _ =>
    rw [List.map_singleton, operator]
    rfl

theorem IsTypeName.apart {name : List Token} (h : IsTypeName name) :
    openAfter [.semicolon] 0 (name.map (·.kind)) = some 0 := by
  cases h with
  | bare isName =>
    rw [List.map_singleton, isName]
    rfl
  | qualified isPackage isDot isName =>
    rw [List.map_cons, List.map_cons, List.map_singleton, isPackage, isDot, isName]
    rfl

theorem IsTypeName.ne_nil {name : List Token} (h : IsTypeName name) : name ≠ [] := by
  cases h <;> exact List.cons_ne_nil _ _

theorem IsTypeName.kind_of_mem {name : List Token} (h : IsTypeName name) :
    ∀ t ∈ name, t.kind = .identifier ∨ t.kind = .dot := by
  cases h with
  | bare isName => exact List.forall_mem_singleton.2 (.inl isName)
  | qualified isPackage isDot isName =>
    exact List.forall_mem_cons.2 ⟨.inl isPackage, List.forall_mem_cons.2 ⟨.inr isDot,
      List.forall_mem_singleton.2 (.inl isName)⟩⟩

namespace EmbeddedField

variable (e : EmbeddedField)

/-- A type ends with its name or a bracket, and so with no tag. -/
theorem last_type : ∀ t ∈ e.type.getLast?, ¬ (t.kind = .string ∨ t.kind = .rawString) := by
  intro t last
  by_cases bare : e.arguments = []
  · rw [type, bare, List.append_nil, List.getLast?_append_of_ne_nil _ e.isTypeName.ne_nil] at last
    obtain kind | kind := e.isTypeName.kind_of_mem t (List.mem_of_getLast? last)
    · simp [kind]
    · simp [kind]
  · rw [type, List.getLast?_append_of_ne_nil _ bare] at last
    simp [e.isArguments.brackets.2 t last]

theorem isType_type : IsType e.type where
  ne_nil := by simp [type, e.isTypeName.ne_nil]
  apart := by
    rw [type, List.map_append, List.map_append, List.append_assoc,
      openAfter_append e.isStar.apart, openAfter_append e.isTypeName.apart]
    exact e.isArguments.apart
  last := e.last_type

theorem isLine : IsLine e.tokens where
  ne_nil := by simp [tokens, e.isType_type.ne_nil]
  apart := by
    rw [tokens, List.map_append, openAfter_append e.isType_type.apart]
    exact e.isTag.apart

/-- A line that begins with no name, or with one that no bracket follows, has a slot without a
name. -/
theorem fieldLine (other : ∀ name, ¬ e.IsBareInstance name) : FieldLine [none] e.tokens := by
  refine .embedded ?_ e.isType_type e.isTag
  obtain ⟨star, name, arguments, tag, isStar, isTypeName, isArguments, isTag⟩ := e
  cases isStar with
  | star operator _ => exact .pointer operator
  | none =>
    cases isTypeName with
    | qualified isPackage isDot _ => exact .qualified isPackage isDot
    | @bare t isName =>
      cases isArguments with
      | none => exact .name isName
      | list => exact absurd ⟨rfl, rfl, by simp⟩ (other t)

theorem fieldsOfLine_eq_nil (other : ∀ name, ¬ e.IsBareInstance name) :
    l.fieldsOfLine e.tokens = .ok [] := by
  obtain ⟨fields, read, names⟩ := (e.fieldLine other).exists_fields (l := l)
  rw [read, List.map_eq_nil_iff.1 names]

variable {e}

/-- The name of a generic type and its arguments are read as a field and its type. -/
theorem fieldsOfLine_eq_singleton {name : Token} (bare : e.IsBareInstance name) :
    l.fieldsOfLine e.tokens = .ok [⟨name.spelling, l.textOf e.arguments⟩] := by
  have isName : name.kind = .identifier := by
    have listed := e.isTypeName
    rw [bare.2.1] at listed
    cases listed with
    | bare isName => exact isName
  have isType : IsType e.arguments := by
    refine ⟨bare.2.2, e.isArguments.apart, fun t last => e.last_type t ?_⟩
    rw [type, List.getLast?_append_of_ne_nil _ bare.2.2]
    exact last
  have first : ∀ t ∈ e.arguments.head?, t.kind ≠ .comma ∧ t.kind ≠ .dot := by
    intro t first
    simp [e.isArguments.brackets.1 t first]
  have read := fieldsOfLine_named (l := l) (.last isName) isType first e.isTag
  rw [tokens, type, bare.1, bare.2.1]
  exact read

end EmbeddedField

/-- A line that embeds a type leaves the fields of the lines above and below it as they are, each
read by itself, and adds none of its own. But an instance of a generic type, embedded by its bare
name, is taken for a field with that name, and its arguments for the type. -/
theorem structFields_embedded {word opening closing : Token} (e : EmbeddedField)
    (lines : BodyLines (before ++ e.tokens :: after) body)
    (isStruct : word.isWord "struct" = true) (opens : opening.kind = .opening .curly)
    (closes : closing.kind = .closing .curly) (rest : List Token) :
    ((∀ name, ¬ e.IsBareInstance name) →
      l.structFields (word :: opening :: (body ++ closing :: rest)) = do
        let front ← before.mapM l.fieldsOfLine
        let back ← after.mapM l.fieldsOfLine
        return (front.flatten ++ back.flatten, rest)) ∧
    ∀ name, e.IsBareInstance name →
      l.structFields (word :: opening :: (body ++ closing :: rest)) = do
        let front ← before.mapM l.fieldsOfLine
        let back ← after.mapM l.fieldsOfLine
        return (front.flatten ++ ⟨name.spelling, l.textOf e.arguments⟩ :: back.flatten, rest) :=
  ⟨fun other =>
    lines.structFields_around (e.fieldsOfLine_eq_nil other) isStruct opens closes rest,
    fun _ bare => lines.structFields_around (EmbeddedField.fieldsOfLine_eq_singleton bare) isStruct
      opens closes rest⟩

/-! ## A type that embeds two others -/

/-- An instance of a generic type, embedded by its bare name. -/
def bareBase : EmbeddedField where
  star := []
  name := [.inLine .identifier "Base" 9]
  arguments := [.inLine (.opening .square) "[" 13, .inLine .identifier "int" 14,
    .inLine (.closing .square) "]" 17]
  tag := []
  isStar := .none
  isTypeName := .bare rfl
  isArguments := @IsArguments.list _ _ [.inLine .identifier "int" 14] rfl rfl rfl
  isTag := .none

/-- A pointer to an instance of a generic type of another package, with a tag. -/
def pointerDeck : EmbeddedField where
  star := [.inLine .operator "*" 20]
  name := [.inLine .identifier "q" 21, .inLine .dot "." 22, .inLine .identifier "Deck" 23]
  arguments := [.inLine (.opening .square) "[" 27, .inLine .identifier "int" 28,
    .inLine (.closing .square) "]" 31]
  tag := [.inLine .string "\"t\"" 33]
  isStar := .star rfl rfl
  isTypeName := .qualified rfl rfl rfl
  isArguments := @IsArguments.list _ _ [.inLine .identifier "int" 28] rfl rfl rfl
  isTag := .tag (.inl rfl)

/-- A line with a name. -/
def namedLine : List Token := [.inLine .identifier "Name" 38, .inLine .identifier "string" 43]

/-- The tokens between the brackets of the type. -/
def wrapperBody : List Token :=
  bareBase.tokens ++ .inLine .semicolon ";" 18 ::
    (pointerDeck.tokens ++ .inLine .semicolon ";" 36 :: namedLine)

/-- The listing of the type. -/
def wrapperListing : Listing where
  tokens := .inLine .keyword "struct" 0 :: .inLine (.opening .curly) "\x7b" 7 ::
    (wrapperBody ++ .inLine (.closing .curly) "\x7d" 50 :: [.inLine .semicolon "" 51])
  eof := .inLine .eof "" 51
  comments := []
  source := text "struct \x7b Base[int]; *q.Deck[int] \"t\"; Name string \x7d"

theorem structFields_embedded_wrapper :
    Listing.ofText? wrapperListing.source = .ok wrapperListing ∧
      wrapperListing.structFields wrapperListing.tokens = .ok
        ([⟨text "Base", text "[int]"⟩, ⟨text "Name", text "string"⟩],
          [.inLine .semicolon "" 51]) ∧
      wrapperListing.structFields (.inLine .keyword "struct" 0 ::
        .inLine (.opening .curly) "\x7b" 7 :: (bareBase.tokens ++
          [.inLine (.closing .curly) "\x7d" 50])) = .ok ([⟨text "Base", text "[int]"⟩], []) := by
  have alone : BodyLines ([] ++ bareBase.tokens :: []) bareBase.tokens := .last bareBase.isLine
  have named : IsLine namedLine := ⟨List.cons_ne_nil _ _, rfl⟩
  have lines : BodyLines ([bareBase.tokens] ++ pointerDeck.tokens :: [namedLine]) wrapperBody :=
    .line bareBase.isLine rfl (.line pointerDeck.isLine rfl (.last named))
  have word : (Token.inLine .keyword "struct" 0).isWord "struct" = true := by decide
  have opens : (Token.inLine (.opening .curly) "\x7b" 7).kind = .opening .curly := rfl
  have closes : (Token.inLine (.closing .curly) "\x7d" 50).kind = .closing .curly := rfl
  have pointer := (structFields_embedded (l := wrapperListing) pointerDeck lines word opens closes
    [.inLine .semicolon "" 51]).1 fun _ bare => nomatch bare.1
  have bare := (structFields_embedded (l := wrapperListing) bareBase alone word opens closes []).2
    (.inLine .identifier "Base" 9) ⟨rfl, rfl, List.cons_ne_nil _ _⟩
  refine ⟨eq_ok_of_toOption (by decide +kernel), pointer.trans ?_, bare.trans ?_⟩
  · exact eq_ok_of_toOption (by decide +kernel)
  · exact eq_ok_of_toOption (by decide +kernel)

/-- The instance of a generic type is recorded as a field. -/
theorem ofText?_bareBase :
    ∃ f, SourceFile.ofText? .here
        (text "package p; type T struct \x7b Base[int]; Name string \x7d") = .ok f ∧
      f.types.map (·.fields) =
        [[⟨text "Base", text "[int]"⟩, ⟨text "Name", text "string"⟩]] := by
  obtain ⟨f, read, shown⟩ := exists_ok_of_any (x := SourceFile.ofText? .here
      (text "package p; type T struct \x7b Base[int]; Name string \x7d"))
    (p := fun f => decide (f.types.map (·.fields) =
      [[⟨text "Base", text "[int]"⟩, ⟨text "Name", text "string"⟩]])) (by decide +kernel)
  exact ⟨f, read, of_decide_eq_true shown⟩

end EnumText.Listing
