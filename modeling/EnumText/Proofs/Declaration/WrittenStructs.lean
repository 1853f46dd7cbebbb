import EnumText.Proofs.Declaration.Relocation.Declarations
import EnumText.Proofs.Declaration.WrittenLiterals
import EnumText.Proofs.Listing.DocLines

/-!
# Struct types as they are written

A struct type is written line by line, each with names, the text of a type and maybe a tag, and it
is read back in this way: each line has one field for each of its names, with exactly the text of
its type. The text may hold commas, brackets, other struct types and functions.

* `Text.IsTypeText`: what is a type is said by the listing of its text alone.
* `Yields.typeText`, `Yields.tagText`: wherever it stands, it is found again, and so is a tag.
* `Yields.fieldLine`, `Yields.fieldLines`: the lines of a struct type.
* `Yields.structBody`, `IsStructDecl.declarations`: the declaration of a struct type.
-/

namespace EnumText

open Declaration
open Lexeme (Apart)

/-! ## Types and tags -/

namespace Listing

/-- A source is the text of one type: it has no comments, begins and ends with a token, closes the
brackets that it opens, has semicolons only inside of brackets, and its end implies one. A comma or
a dot at its beginning would go with the names before it, and a string at its end would be a tag. -/
structure OneType (l : Listing) : Prop where
  comments : l.comments = []
  ended : l.tokens.map (·.kind) = l.realTokens.map (·.kind) ++ [.semicolon]
  apart : openAfter [.semicolon] 0 (l.realTokens.map (·.kind)) = some 0
  first : ∃ t ∈ l.realTokens.head?, t.start = 0 ∧ t.kind ≠ .comma ∧ t.kind ≠ .dot
  last : ∃ t ∈ l.realTokens.getLast?, t.stop = l.source.length ∧ t.kind ≠ .string ∧
    t.kind ≠ .rawString

instance (l : Listing) : Decidable l.OneType :=
  decidable_of_iff (l.comments = [] ∧
    l.tokens.map (·.kind) = l.realTokens.map (·.kind) ++ [.semicolon] ∧
    openAfter [.semicolon] 0 (l.realTokens.map (·.kind)) = some 0 ∧
    (∃ t ∈ l.realTokens.head?, t.start = 0 ∧ t.kind ≠ .comma ∧ t.kind ≠ .dot) ∧
    ∃ t ∈ l.realTokens.getLast?, t.stop = l.source.length ∧ t.kind ≠ .string ∧
      t.kind ≠ .rawString)
    ⟨fun h => ⟨h.1, h.2.1, h.2.2.1, h.2.2.2.1, h.2.2.2.2⟩,
      fun h => ⟨h.comments, h.ended, h.apart, h.first, h.last⟩⟩

end Listing

namespace Text

/-- Whether a text is one type on one line. -/
def IsTypeText (v : Text) : Prop :=
  .scalar '\n' ∉ v ∧ ∃ l, Listing.ofText? v = .ok l ∧ l.OneType

instance (v : Text) : Decidable v.IsTypeText :=
  decidable_of_iff (.scalar '\n' ∉ v ∧ ∃ l ∈ (Listing.ofText? v).toOption, l.OneType) <| by
    refine and_congr_right fun _ => exists_congr fun l => and_congr_left fun _ => ?_
    cases Listing.ofText? v <;> simp [Except.toOption]

/-- Whether a text is one string or raw string, as a tag is. -/
def IsTagText (tag : Text) : Prop :=
  Lexeme.split tag = ([⟨.token .string, tag⟩], none) ∨
    Lexeme.split tag = ([⟨.token .rawString, tag⟩], none)

instance (tag : Text) : Decidable tag.IsTagText := inferInstanceAs (Decidable (_ ∨ _))

end Text

/-! ## Declarations -/

/-- A line of a struct type: names that share a type, and maybe a tag. -/
structure FieldDecl where
  names : List Text
  type : Text
  tag : Option Text := none
deriving DecidableEq, Inhabited

namespace FieldDecl

/-- The tag behind a type as it is written. -/
def tagText (d : FieldDecl) : Text :=
  match d.tag with
  | none => []
  | some tag => text " " ++ tag

/-- The line as it is written. -/
def written (d : FieldDecl) : Text :=
  List.intercalate (text ", ") d.names ++ text " " ++ d.type ++ d.tagText

/-- The fields of the line. -/
def fields (d : FieldDecl) : List Field := d.names.map fun name => ⟨name, d.type⟩

/-- A line that is read as it is written. -/
structure IsReadable (d : FieldDecl) : Prop where
  some : d.names ≠ []
  names : ∀ name ∈ d.names, name.isName = true
  type : d.type.IsTypeText
  tag : ∀ tag ∈ d.tag, tag.IsTagText

instance (d : FieldDecl) : Decidable d.IsReadable :=
  decidable_of_iff (d.names ≠ [] ∧ (∀ name ∈ d.names, name.isName = true) ∧ d.type.IsTypeText ∧
    ∀ tag ∈ d.tag, tag.IsTagText)
    ⟨fun h => ⟨h.1, h.2.1, h.2.2.1, h.2.2.2⟩, fun h => ⟨h.some, h.names, h.type, h.tag⟩⟩

end FieldDecl

/-- The declaration of a struct type, with its doc comment. -/
structure StructDecl where
  name : Text
  doc : List Text
  fields : List FieldDecl
deriving DecidableEq, Inhabited

namespace StructDecl

/-- What a file declares by it. -/
def info (s : StructDecl) : TypeInfo := ⟨s.name, s.doc, s.fields.flatMap FieldDecl.fields⟩

/-- The lines of the declaration below its doc comment, those of the fields behind blanks. -/
def body (indent : Text) (s : StructDecl) : List Text :=
  (text "type " ++ s.name ++ text " struct \x7b") ::
    (s.fields.map (fun d => indent ++ d.written) ++ [text "\x7d"])

/-- The lines of the declaration. -/
def lines (indent : Text) (s : StructDecl) : List Text := s.doc ++ s.body indent

/-- A declaration that is read as it is written. -/
structure IsReadable (s : StructDecl) : Prop where
  name : s.name.isName = true
  doc : ∀ d ∈ s.doc, d.IsDocLine
  fields : ∀ d ∈ s.fields, d.IsReadable

instance (s : StructDecl) : Decidable s.IsReadable :=
  decidable_of_iff (s.name.isName = true ∧ (∀ d ∈ s.doc, d.IsDocLine) ∧
    ∀ d ∈ s.fields, d.IsReadable)
    ⟨fun h => ⟨h.1, h.2.1, h.2.2⟩, fun h => ⟨h.name, h.doc, h.fields⟩⟩

end StructDecl

namespace Listing

variable {l : Listing} {ends : Bool} {more v indent : Text} {t : Token} {ts rest : List Token}
variable {Q : Listing → List Token → Prop} {fields own : List Field}

/-- The text of a type comes first, and the rest satisfies `Q`. -/
def Typed (v : Text) (Q : Listing → List Token → Prop) (l : Listing) (ts : List Token) : Prop :=
  ∃ type rest, ts = type ++ rest ∧ IsType type ∧
    (∀ t ∈ type.head?, t.kind ≠ .comma ∧ t.kind ≠ .dot) ∧ l.textOf type = v ∧ Q l rest

/-- What ends with an implied semicolon ends a statement. -/
theorem OneType.endsStatement {l : Listing} (one : l.OneType) (listed : ofText? v = .ok l)
    (inline : .scalar '\n' ∉ v) : l.realTokens.getLast?.any Token.endsStatement = true := by
  rcases ofText?_eq_ok_iff.1 listed with ⟨lexemes, cut, rfl⟩
  have comments := one.comments
  rw [Layout.place_eq_run] at comments
  have inlines := inline_of_expression inline cut .start comments
  have ended := one.ended
  rw [realTokens_of_inline inlines, Layout.place_eq_run, List.map_append] at ended
  have implied := List.append_cancel_left ended
  have last : (Layout.run .start none lexemes).last = _ := Layout.last_run_of_inline inlines
  rw [Option.or_none] at last
  rw [realTokens_of_inline inlines, ← last]
  by_contra open_
  rw [Layout.impliedSemicolon, if_neg open_] at implied
  cases implied

/-- The type is found again wherever its text stands. -/
theorem Yields.typeText (isType : v.IsTypeText) (next : Apart more) (h : Yields true more Q) :
    Yields ends (v ++ more) (Typed v Q) := by
  obtain ⟨inline, l₀, listed, one⟩ := isType
  rw [← one.endsStatement listed inline] at h
  obtain ⟨first, head, start, begins⟩ := one.first
  obtain ⟨last, tail, stop, noTag⟩ := one.last
  apply (Yields.inline inline listed one.comments ⟨first, head, start⟩ ⟨last, tail, stop⟩ next
    h).imp
  intro l ts found
  obtain ⟨type, rest, rfl, kinds, same, below⟩ := found
  have starts : ∀ t ∈ type.head?, t.kind = first.kind := by
    intro t mem
    have heads := congrArg List.head? kinds
    rw [List.head?_map, List.head?_map, Option.mem_def.1 head, Option.mem_def.1 mem] at heads
    exact Option.some.inj heads
  have finishes : ∀ t ∈ type.getLast?, t.kind = last.kind := by
    intro t mem
    have tails := congrArg List.getLast? kinds
    rw [List.getLast?_map, List.getLast?_map, Option.mem_def.1 tail, Option.mem_def.1 mem] at tails
    exact Option.some.inj tails
  refine ⟨type, rest, rfl, ⟨?_, ?_, fun t mem => ?_⟩, fun t mem => ?_, same, below⟩
  · rintro rfl
    rw [List.map_eq_nil_iff.1 kinds.symm] at head
    cases head
  · rw [kinds]
    exact one.apart
  · rw [finishes t mem, not_or]
    exact noTag
  · rw [starts t mem]
    exact begins

/-- A tag is one token. -/
theorem Yields.tagToken {tag : Text} (isTag : tag.IsTagText) (next : Apart more)
    (h : Yields true more Q) :
    Yields ends (tag ++ more) fun l ts =>
      ∃ t rest, ts = t :: rest ∧ (t.kind = .string ∨ t.kind = .rawString) ∧ Q l rest := by
  have stop (k : Token.Kind) (closed : (Lexeme.Kind.token k).isClosed = true) :
      ∀ last ∈ [Lexeme.mk (.token k) tag].getLast?, ∀ s ∈ more.head?,
        last.kind.endsBefore s = true := by
    intro last mem s _
    cases mem
    exact Lexeme.Kind.endsBefore_of_isClosed closed s
  rcases isTag with cut | cut
  · apply (Yields.piece cut next.soft (stop .string rfl) h).imp
    intro l ts found
    obtain ⟨t, rest, same, kind, -, below⟩ := found.one
    exact ⟨t, rest, same, .inl kind, below⟩
  · apply (Yields.piece cut next.soft (stop .rawString rfl) h).imp
    intro l ts found
    obtain ⟨t, rest, same, kind, -, below⟩ := found.one
    exact ⟨t, rest, same, .inr kind, below⟩

/-- A tag, if there is one, stands behind a blank. -/
theorem Yields.tagText {d : FieldDecl} (isTag : ∀ tag ∈ d.tag, tag.IsTagText) (next : Apart more)
    (h : Yields true more Q) :
    Yields true (d.tagText ++ more) fun l ts =>
      ∃ tag rest, ts = tag ++ rest ∧ IsTag tag ∧ Q l rest := by
  unfold FieldDecl.tagText
  cases given : d.tag with
  | none => exact h.imp fun l ts below => ⟨[], ts, rfl, .none, below⟩
  | some tag =>
    have blank : ∀ c ∈ text " ", Lexeme.isSpace c = true := by decide
    rw [List.append_assoc]
    apply (Yields.blanks blank (Yields.tagToken (isTag tag given) next h)).imp
    intro l ts found
    obtain ⟨t, rest, rfl, literal, below⟩ := found
    exact ⟨[t], rest, rfl, .tag literal, below⟩

/-! ## Lines -/

/-- The tokens of a struct type are lines with fields up to its closing bracket, and those after it
satisfy `Q`. -/
def Filling (fields : List Field) (Q : Listing → List Token → Prop) (l : Listing)
    (ts : List Token) : Prop :=
  ∃ rest, rest <:+ ts ∧
    (∀ fuel, ts.length < fuel → l.fieldsUpToClose fuel ts = .ok (fields, rest)) ∧ Q l rest

theorem Filling.close (closes : t.kind = .closing .curly) (h : Q l ts) :
    Filling [] Q l (t :: ts) := by
  refine ⟨ts, List.suffix_cons t ts, fun fuel enough => ?_, h⟩
  obtain ⟨fuel, rfl⟩ := Nat.exists_eq_add_one_of_ne_zero (Nat.ne_zero_of_lt enough)
  exact fieldsUpToClose_closing closes

theorem Filling.line (some : ts ≠ [])
    (apart : openAfter [.semicolon] 0 (ts.map (·.kind)) = Option.some 0)
    (read : l.fieldsOfLine ts = .ok own) (ends : t.kind = .semicolon)
    (h : Filling fields Q l rest) : Filling (own ++ fields) Q l (ts ++ t :: rest) := by
  obtain ⟨last, suffix, filled, below⟩ := h
  refine ⟨last, ?_, fun fuel enough => ?_, below⟩
  · exact suffix.trans ((List.suffix_cons t rest).trans (List.suffix_append ts _))
  · have length := List.length_pos_iff.2 some
    rw [List.length_append, List.length_cons] at enough
    obtain ⟨fuel, rfl⟩ : ∃ n, fuel = n + 1 + 1 := ⟨fuel - 2, by omega⟩
    rw [fieldsUpToClose_line some apart (.inl ends), read, fieldsUpToClose_semicolon ends,
      filled (fuel + 1) (by omega)]
    rfl

theorem Yields.fieldLine {d : FieldDecl} (readable : d.IsReadable)
    (blank : ∀ c ∈ indent, Lexeme.isSpace c = true) (h : Yields false more (Filling fields Q)) :
    Yields false (indent ++ d.written ++ (text "\n" ++ more)) (Filling (d.fields ++ fields) Q) := by
  have space : ∀ c ∈ text " ", Lexeme.isSpace c = true := by decide
  have line := Lexeme.apart_newline more
  have begins (more : Text) : Apart (text " " ++ more) :=
    Lexeme.apart_append (by decide) more
  have behind : Apart (d.tagText ++ (text "\n" ++ more)) := by
    unfold FieldDecl.tagText
    cases d.tag with
    | none => exact line
    | some tag =>
      rw [List.append_assoc]
      exact begins _
  have typed (ends : Bool) : Yields ends _ _ := Yields.typeText readable.type behind <|
    Yields.tagText readable.tag line (Yields.newline h)
  have names := writes_names readable.names false _ _ (begins (d.type ++ (d.tagText ++
    (text "\n" ++ more)))) fun ends => Yields.blanks space (typed ends)
  have whole : indent ++ d.written ++ (text "\n" ++ more) =
      indent ++ (List.intercalate (text ", ") d.names ++ (text " " ++ (d.type ++
        (d.tagText ++ (text "\n" ++ more))))) := by
    simp only [FieldDecl.written, List.append_assoc]
  rw [whole]
  apply (Yields.blanks blank names).imp
  intro l ts found
  obtain ⟨ns, _, rfl, separated, found₁⟩ := found
  obtain ⟨type, _, rfl, isType, first, same, found₂⟩ := found₁
  obtain ⟨tag, _, rfl, tagged, found₃⟩ := found₂
  obtain ⟨semicolon, rest, rfl, isEnd, -, below⟩ := found₃.one
  have list := separated.nameList readable.some
  have own : FieldLine (d.names.map some) (ns ++ type ++ tag) := .named list isType first tagged
  have read : l.fieldsOfLine (ns ++ type ++ tag) = .ok d.fields := by
    rw [fieldsOfLine_named list isType first tagged, same]
    rfl
  have filled := below.line own.ne_nil own.apart read isEnd
  simpa only [List.append_assoc] using filled

theorem Yields.fieldLines {ds : List FieldDecl} (readable : ∀ d ∈ ds, d.IsReadable)
    (blank : ∀ c ∈ indent, Lexeme.isSpace c = true) (h : Yields false more (Filling [] Q)) :
    Yields false (unlines (ds.map fun d => indent ++ d.written) ++ more)
      (Filling (ds.flatMap FieldDecl.fields) Q) := by
  induction ds with
  | nil => exact h
  | cons d ds ih =>
    obtain ⟨first, others⟩ := List.forall_mem_cons.1 readable
    have line := Yields.fieldLine first blank (ih others)
    rw [List.map_cons, unlines_cons, List.append_assoc, List.append_assoc, List.flatMap_cons]
    rwa [List.append_assoc] at line

/-! ## Declarations of struct types -/

/-- Tokens of the declaration of a struct type, with the semicolon at its end. -/
inductive IsStructDecl (s : StructDecl) (l : Listing) : List Token → Prop
  | mk {word name keyword opening : Token} {body : List Token} (isType : word.isWord "type" = true)
    (isName : name.kind = .identifier) (spelling : name.spelling = s.name)
    (isStruct : keyword.isWord "struct" = true) (opens : opening.kind = .opening .curly)
    (lines : Filling s.info.fields (fun _ rest => ∃ t, rest = [t] ∧ t.kind = .semicolon) l body) :
    IsStructDecl s l (word :: name :: keyword :: opening :: body)

variable {s : StructDecl} {word : Token}

/-- The declaration is a whole statement. -/
theorem IsStructDecl.getLast? (h : IsStructDecl s l ts) :
    ∃ t ∈ ts.getLast?, t.kind = .semicolon := by
  obtain ⟨-, -, -, -, -, _, suffix, -, t, rfl, ends⟩ := h
  obtain ⟨front, rfl⟩ := suffix
  refine ⟨t, ?_, ends⟩
  simp only [← List.cons_append]
  exact List.getLast?_concat

/-- A struct type with a semicolon after it is read with its fields. -/
theorem typeSpec_of_struct {name keyword opening : Token} {body : List Token}
    (isName : name.kind = .identifier) (isStruct : keyword.isWord "struct" = true)
    (opens : opening.kind = .opening .curly)
    (filled : l.fieldsUpToClose (body.length + 1) body = .ok (fields, [t]))
    (ends : t.kind = .semicolon) (doc : List Text) :
    l.typeSpec doc (name :: keyword :: opening :: body) =
      .ok (⟨⟨name.spelling, doc, fields⟩, true, name.line⟩, []) := by
  have isKeyword := kind_of_isWord isStruct
  have noParameters : l.skipTypeParameters (keyword :: opening :: body) =
      .ok (keyword :: opening :: body) := TypeParameters.none.skip (by simp [isKeyword])
  have noAlias : afterAssign (keyword :: opening :: body) = keyword :: opening :: body :=
    IsAlias.none.skip (by simp [isKeyword])
  have struct :
      (afterAssign (keyword :: opening :: body)).head?.any (·.isWord "struct") = true := by
    simpa [noAlias] using isStruct
  have read : l.typeFields (afterAssign (keyword :: opening :: body)) = .ok (fields, [t]) := by
    rw [typeFields, if_pos struct, noAlias]
    exact bind_eq_ok_iff.2 ⟨_, expectWord_eq_ok_iff.2 ⟨rfl, isStruct⟩, bind_eq_ok_iff.2
      ⟨_, expect_eq_ok_iff.2 ⟨rfl, opens⟩, filled⟩⟩
  have behind : l.collect [.semicolon, .closing .round] 0 [t] = .ok ([], [t]) := by
    rw [collect_cons_eq_ok_iff, if_pos ⟨rfl, .inl (by simp [ends])⟩]
    exact ⟨rfl, rfl⟩
  refine typeSpec_eq_ok_iff.2 ⟨name, _, _, _, _, _, _, rfl, isName, noParameters, read, behind, ?_,
    ?_⟩
  · rw [struct]
  · rw [skipSemicolon, if_pos ends]

/-- The tokens of a declaration declare the struct type, with the doc comment above them. -/
theorem IsStructDecl.declarations (h : IsStructDecl s l (word :: ts)) :
    ∃ line, l.declarations (word :: ts).length (word :: ts) =
      .ok ([⟨⟨s.name, l.docAbove word, s.info.fields⟩, true, line⟩], []) := by
  obtain @⟨_, name, keyword, opening, body, isType, isName, spelling, isStruct, opens, lines⟩ := h
  obtain ⟨_, -, filled, t, rfl, ends⟩ := lines
  have spec := typeSpec_of_struct isName isStruct opens (filled _ (Nat.lt_succ_self _)) ends
  rw [spelling] at spec
  have alone : ¬ at? (.opening .round) (name :: keyword :: opening :: body) = true := by
    simp [at?, isName]
  have decl := typeDecl_eq_ok_iff.2 (.single isType alone (spec _))
  exact ⟨name.line, declarations_eq_ok_iff.2 ⟨1, by simp, .types isType decl .nil⟩⟩

theorem Yields.structBody (readable : s.IsReadable)
    (blank : ∀ c ∈ indent, Lexeme.isSpace c = true) :
    Yields false (unlines (s.body indent)) (IsStructDecl s) := by
  have keyword : Chunk false (text "type ") [(.keyword, text "type")] false := by decide
  have opening : Chunk true (text " struct \x7b")
      [(.keyword, text "struct"), (.opening .curly, text "\x7b")] false := by decide
  have closing : Chunk false (text "\x7d") [(.closing .curly, text "\x7d")] true := by
    decide
  have line (more : Text) := Lexeme.apart_newline more
  have ended : Yields true (text "\n" ++ []) (After _ fun _ ts => ts = []) :=
    Yields.newline (yields_nil fun _ => rfl)
  have closed : Yields false (text "\x7d" ++ (text "\n" ++ []))
      (Filling [] fun _ rest => ∃ t, rest = [t] ∧ t.kind = .semicolon) := by
    apply (Yields.chunk closing (line _).soft ended).imp
    intro l ts found
    obtain ⟨bracket, _, rfl, closes, -, found₁⟩ := found.one
    obtain ⟨semicolon, _, rfl, ends, -, rfl⟩ := found₁.one
    exact Filling.close closes ⟨semicolon, rfl, ends⟩
  have inside := Yields.blankLine (Yields.fieldLines readable.fields blank closed)
  have start (more : Text) : Apart (text " struct \x7b" ++ more) :=
    Lexeme.apart_append (by decide) more
  have whole : unlines (s.body indent) = text "type " ++ (s.name ++ (text " struct \x7b" ++
      (text "\n" ++ (unlines (s.fields.map fun d => indent ++ d.written) ++
        (text "\x7d" ++ (text "\n" ++ [])))))) := by
    simp only [StructDecl.body, unlines_cons, unlines_append, List.append_assoc]
    rfl
  rw [whole]
  apply (Yields.chunk keyword (.inl ⟨.scalar ' ', rfl, rfl⟩) <|
    Yields.word readable.name (start _) <| Yields.chunk opening (line _).soft inside).imp
  intro l ts found
  obtain ⟨word, _, rfl, isKeyword, spelled, found₁⟩ := found.one
  obtain ⟨name, _, rfl, isName, spelling, found₂⟩ := found₁.one
  obtain ⟨front, body, rfl, signs, filled⟩ := found₂
  obtain ⟨struct, _, rfl, isWord, others⟩ := List.map_eq_cons_iff.1 signs
  obtain ⟨bracket, rfl, opens⟩ := List.map_eq_singleton_iff.1 others
  have isType : word.isWord "type" = true := by simp [Token.isWord, isKeyword, spelled]
  obtain ⟨kind, spelled'⟩ := Prod.mk.inj isWord
  have isStruct : struct.isWord "struct" = true := by simp [Token.isWord, kind, spelled']
  exact .mk isType isName spelling isStruct (Prod.mk.inj opens).1 filled

end Listing

end EnumText
