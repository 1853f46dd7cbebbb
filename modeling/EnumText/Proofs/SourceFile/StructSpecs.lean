import Mathlib.Data.List.Induction
import EnumText.Proofs.Declaration.WrittenStructs
import EnumText.Proofs.SourceFile.Joining

/-!
# Struct types, written and read

Struct types with their doc comments, each below a blank line, are read back from a file as they are
written, any number of them one after the other.

* `declaresBelow_struct`: one struct type below the package clause.
* `SourceFile.ofText?_structs`: a file of struct types.
-/

namespace EnumText

open Listing (belowClause IsStructDecl Yields)

variable {p indent : Text} {s : StructDecl}

/-- A declaration begins with its keyword. -/
theorem exists_keyword_of_split {lexemes : List Lexeme}
    (cut : Lexeme.split (unlines (s.body indent)) = (lexemes, none)) :
    ∃ more, lexemes = ⟨.token .keyword, text "type"⟩ :: more := by
  have front : Lexeme.split (text "type ") =
      ([⟨.token .keyword, text "type"⟩, ⟨.blank, text " "⟩], none) := by decide +kernel
  rw [StructDecl.body, unlines_cons, List.append_assoc, List.append_assoc, Lexeme.split_append front
    (.inl ⟨.scalar ' ', rfl, rfl⟩) (fun last mem s _ => by cases mem; rfl)] at cut
  exact ⟨_, (Prod.mk.inj cut).1.symm⟩

/-- Below a package clause and a doc comment, a declaration is laid out behind them. -/
theorem tokens_place_ofDoc {doc : List Text} (isDoc : ∀ d ∈ doc, d.IsDocLine) {D : Text}
    {lexemes : List Lexeme} (split : Lexeme.split D = (Lexeme.ofDoc doc ++ lexemes, none))
    (lines : D.getLast? = some (.scalar '\n')) :
    (Layout.place (afterClause p) none (Lexeme.ofDoc doc ++ lexemes)).tokens =
      (Layout.run ((afterClause p).advance (unlines doc)) none lexemes).tokens := by
  obtain ⟨comments, placed, -, -⟩ := Layout.run_ofDoc isDoc (afterClause p)
  rw [Layout.place_of_last (last_run_of_lines split (.inr lines) _), Layout.run_append, placed,
    Lexeme.flatMap_ofDoc isDoc]
  rfl

/-- A written struct type is declared with its doc comment and its fields. -/
theorem declaresBelow_struct (p : Text) (readable : s.IsReadable)
    (blank : ∀ c ∈ indent, Lexeme.isSpace c = true) :
    ∃ line, DeclaresBelow p (unlines (s.lines indent)) [⟨s.info, true, line⟩] [] := by
  obtain ⟨lexemes, cut, all⟩ := Yields.structBody readable blank
  have whole : unlines (s.lines indent) = unlines s.doc ++ unlines (s.body indent) :=
    unlines_append _ _
  have split : Lexeme.split (unlines (s.lines indent)) = (Lexeme.ofDoc s.doc ++ lexemes, none) := by
    rw [whole, Lexeme.split_unlines_doc readable.doc, cut]
  have lines : (unlines (s.lines indent)).getLast? = some (.scalar '\n') :=
    getLast?_unlines (by simp [StructDecl.lines, StructDecl.body])
  let l : Listing := belowClause p (unlines (s.lines indent)) (Lexeme.ofDoc s.doc ++ lexemes)
  let start : Cursor := (afterClause p).advance (unlines s.doc)
  have tokens := tokens_place_ofDoc (p := p) readable.doc split lines
  have found : IsStructDecl s l (Layout.run start none lexemes).tokens := by
    have found := all l (packageClause p ++ unlines s.doc) none
      (by rw [List.append_assoc, ← whole]; rfl) rfl
    rwa [Cursor.advance_append] at found
  obtain ⟨more, rfl⟩ := exists_keyword_of_split cut
  have doc (t : Token) (line : t.line = start.line) : l.docAbove t = s.doc := by
    have newlines := Lexeme.newline_of_split cut
    refine Listing.docAbove_of_doc readable.doc (one_le_line_afterClause p)
      (fun x mem => newlines x (List.mem_cons_of_mem _ mem)) (comments_belowClause _ _ _) ?_
    rw [line, Cursor.advance_line, count_unlines fun d mem => (readable.doc d mem).inline]
  obtain ⟨line, declared⟩ := found.declarations
  obtain ⟨t, last, ends⟩ := found.getLast?
  rw [doc _ rfl] at declared
  refine ⟨line, .inr lines, _, split, ⟨t, ?_, ends⟩, ?_⟩
  · rw [belowClause, Layout.withTokens, tokens, List.getLast?_append, Option.mem_def.1 last]
    rfl
  · rw [tokens]
    exact declared

/-- Struct types as they are written one after the other, each below a blank line. -/
def structsText (indent : Text) (structs : List StructDecl) : Text :=
  unlines (structs.flatMap fun s => [] :: s.lines indent)

theorem structsText_concat (indent : Text) (structs : List StructDecl) (s : StructDecl) :
    structsText indent (structs ++ [s]) =
      structsText indent structs ++ text "\n" ++ unlines (s.lines indent) := by
  rw [structsText, List.flatMap_append, List.flatMap_singleton, unlines_append, unlines_cons,
    List.append_assoc]
  rfl

/-- Written struct types are declared in order, by induction on what stands above the last one. -/
theorem exists_declaresBelow_structs (name : p.isName = true)
    (blank : ∀ c ∈ indent, Lexeme.isSpace c = true) {structs : List StructDecl}
    (readable : ∀ s ∈ structs, s.IsReadable) :
    ∃ types, DeclaresBelow p (structsText indent structs) types [] ∧
      types.map (fun type => (type.toTypeInfo, type.isStruct)) =
        structs.map fun s => (s.info, true) := by
  induction structs using List.reverseRecOn with
  | nil => exact ⟨[], declaresBelow_nil name, rfl⟩
  | append_singleton structs s ih =>
    obtain ⟨others, last⟩ := List.forall_mem_append.1 readable
    obtain ⟨types, declared, same⟩ := ih others
    obtain ⟨line, own⟩ := declaresBelow_struct p (last s (List.mem_singleton_self s)) blank
    have both := declared.join own
    rw [← structsText_concat] at both
    refine ⟨_, both, ?_⟩
    rw [List.map_append, List.map_append, same]
    rfl

namespace SourceFile

/-- A file of a package clause and struct types, each below a blank line and its doc comment: it
declares exactly these types in order, each with its doc comment and one field for each name on a
line, with the text of the type there. -/
theorem ofText?_structs (name : p.isName = true) (blank : ∀ c ∈ indent, Lexeme.isSpace c = true)
    {structs : List StructDecl} (readable : ∀ s ∈ structs, s.IsReadable) (file : Path) :
    ∃ types, ofText? file (packageClause p ++ structsText indent structs) = .ok ⟨p, types, []⟩ ∧
      types.map (fun type => (type.toTypeInfo, type.isStruct)) =
        structs.map fun s => (s.info, true) := by
  obtain ⟨types, declared, same⟩ := exists_declaresBelow_structs name blank readable
  exact ⟨types, declared.ofText? name file, same⟩

/-- Struct types with names that share a type, with tags, and with types that hold commas,
semicolons, brackets and the names of fields. -/
def shapes : List StructDecl := [
  ⟨text "Point", [text "// Point is a place.", text "// type Old struct \x7b"], [
    ⟨[text "X", text "Y"], text "float64", none⟩]⟩,
  ⟨text "Void", [], []⟩,
  ⟨text "Shape", [text "//go:generate enumr"], [
    ⟨[text "name"], text "string", some (text "\x60text:\"name\"\x60")⟩,
    ⟨[text "from", text "to"], text "*struct\x7b at Point; open bool \x22o\x22 \x7d",
      some (text "\"ends\"")⟩,
    ⟨[text "join"], text "func(a, b Shape) (map[string][]Shape, error)", none⟩]⟩]

theorem ofText?_structs_shapes :
    Text.isName (text "geometry") = true ∧ (∀ c ∈ text "\t", Lexeme.isSpace c = true) ∧
      (∀ s ∈ shapes, s.IsReadable) ∧
      ∃ types, ofText? .here (packageClause (text "geometry") ++ structsText (text "\t") shapes) =
          .ok ⟨text "geometry", types, []⟩ ∧
        types.map (fun type => (type.toTypeInfo, type.isStruct)) = [
          (⟨text "Point", [text "// Point is a place.", text "// type Old struct \x7b"],
            [⟨text "X", text "float64"⟩, ⟨text "Y", text "float64"⟩]⟩, true),
          (⟨text "Void", [], []⟩, true),
          (⟨text "Shape", [text "//go:generate enumr"],
            [⟨text "name", text "string"⟩,
              ⟨text "from", text "*struct\x7b at Point; open bool \x22o\x22 \x7d"⟩,
              ⟨text "to", text "*struct\x7b at Point; open bool \x22o\x22 \x7d"⟩,
              ⟨text "join", text "func(a, b Shape) (map[string][]Shape, error)"⟩]⟩, true)] := by
  have name : Text.isName (text "geometry") = true := by decide +kernel
  have blank : ∀ c ∈ text "\t", Lexeme.isSpace c = true := by decide +kernel
  have readable : ∀ s ∈ shapes, s.IsReadable := by decide +kernel
  exact ⟨name, blank, readable, ofText?_structs name blank readable .here⟩

end SourceFile

end EnumText
