import EnumText.Proofs.Declaration.Boundaries
import EnumText.Proofs.Declaration.Relocation.Declarations
import EnumText.Proofs.Listing.DocGroups

/-!
# The doc comments of declared types

A declared type begins with its keyword, or in a group with its name. It has the doc comment above
that token, and in a group, where there is none, that of the group.

* `Begins`, `Inherits`: where a type is declared, with a doc comment of its own or with that of its
  group.
* `begins_of_decls`: each type of a file is declared in one of these ways.
* `SourceFile.doc_of_ofText?`: its own doc comment is attached to it.
* `SourceFile.doc_of_shared`: the doc comment of another declaration is too, on a shared line.
-/

namespace EnumText

namespace Listing

open Declaration

/-- A type is read from the beginning of tokens, with the doc comment above the first of them: above
the keyword, or in a group above the name. -/
inductive Begins (l : Listing) (type : TypeDecl) : List Token → Prop
  | single {keyword : Token} {ts rest : List Token} (isWord : keyword.isWord "type" = true)
    (read : l.typeSpec (l.docAbove keyword) ts = .ok (type, rest)) : Begins l type (keyword :: ts)
  | grouped {name : Token} {ts rest : List Token} (some : l.docAbove name ≠ [])
    (read : l.typeSpec (l.docAbove name) (name :: ts) = .ok (type, rest)) :
    Begins l type (name :: ts)

/-- A type is read from the beginning of tokens in a group. It has the doc comment of the group, and
none of its own. -/
inductive Inherits (l : Listing) (type : TypeDecl) : List Token → Prop
  | grouped {keyword name : Token} {ts rest : List Token} (isWord : keyword.isWord "type" = true)
    (group : keyword ∈ l.tokens) (none : l.docAbove name = [])
    (read : l.typeSpec (l.docAbove keyword) (name :: ts) = .ok (type, rest)) :
    Inherits l type (name :: ts)

variable {l : Listing} {ts rest : List Token} {types : List TypeDecl} {type : TypeDecl}

/-- A type has the doc comment that it is read with. -/
theorem doc_of_typeSpec {doc : List Text} (h : l.typeSpec doc ts = .ok (type, rest)) :
    type.doc = doc := by
  obtain ⟨name, after, params, fields, tail, run, last, -, -, -, -, -, rfl, -⟩ :=
    typeSpec_eq_ok_iff.1 h
  rfl

theorem Begins.doc {first : Token} (h : l.Begins type (first :: ts)) :
    type.doc = l.docAbove first := by
  cases h with
  | single _ read => exact doc_of_typeSpec read
  | grouped _ read => exact doc_of_typeSpec read

/-! ## Readers -/

theorem begins_of_specs {keyword : Token} (isWord : keyword.isWord "type" = true)
    (group : keyword ∈ l.tokens)
    (h : Specs (l.groupedSpec (l.docAbove keyword)) ts types rest) :
    ∀ type ∈ types, ∃ part, part <:+ ts ∧ (l.Begins type part ∨ l.Inherits type part) := by
  induction h with
  | close => exact List.forall_mem_nil _
  | @spec ts _ _ _ _ _ read _ ih =>
    have passed : skipSemicolons ts <:+ ts := List.dropWhile_suffix _
    refine List.forall_mem_cons.2 ⟨⟨skipSemicolons ts, passed, ?_⟩, fun other mem => ?_⟩
    · unfold groupedSpec at read
      obtain ⟨name, after, -, -, -, -, -, first, -⟩ := typeSpec_eq_ok_iff.1 read
      rw [first] at read ⊢
      change l.typeSpec (if (l.docAbove name).isEmpty then _ else l.docAbove name) _ = _ at read
      split at read
      · next none => exact .inr (.grouped isWord group (List.isEmpty_iff.1 none) read)
      · next some => exact .inl (.grouped (by simpa using some) read)
    · obtain ⟨part, suffix, found⟩ := ih other mem
      exact ⟨part, suffix.trans ((isSpec_of_typeSpec read).ends.suffix.trans passed), found⟩

theorem begins_of_typeDecl (inside : ts <:+ l.tokens) (h : l.typeDecl ts = .ok (types, rest)) :
    ∀ type ∈ types, ∃ part, part <:+ ts ∧ (l.Begins type part ∨ l.Inherits type part) := by
  cases typeDecl_eq_ok_iff.1 h with
  | single isWord _ read =>
    exact List.forall_mem_singleton.2 ⟨_, List.suffix_refl _, .inl (.single isWord read)⟩
  | group isWord _ _ found =>
    intro type mem
    have group := inside.subset List.mem_cons_self
    obtain ⟨part, suffix, found⟩ := begins_of_specs isWord group found type mem
    exact ⟨part, suffix.trans ((List.suffix_cons _ _).trans (List.suffix_cons _ _)), found⟩

/-- Each type of a file is declared by some of its tokens. -/
theorem begins_of_decls {n : Nat} {bindings : List Binding} (inside : ts <:+ l.tokens)
    (h : l.Decls n ts types bindings) :
    ∀ type ∈ types, ∃ part, part <:+ ts ∧ (l.Begins type part ∨ l.Inherits type part) := by
  have deeper {ts after : List Token} {types : List TypeDecl} (suffix : after <:+ ts)
      (below : ∀ type ∈ types, ∃ part, part <:+ after ∧
        (l.Begins type part ∨ l.Inherits type part)) :
      ∀ type ∈ types, ∃ part, part <:+ ts ∧ (l.Begins type part ∨ l.Inherits type part) := by
    intro type mem
    obtain ⟨part, later, found⟩ := below type mem
    exact ⟨part, later.trans suffix, found⟩
  induction h with
  | nil => exact List.forall_mem_nil _
  | semicolon _ _ ih =>
    exact deeper (List.suffix_cons _ _) (ih ((List.suffix_cons _ _).trans inside))
  | types _ read _ ih =>
    have suffix := (ends_typeDecl read).suffix
    exact List.forall_mem_append.2
      ⟨begins_of_typeDecl inside read, deeper suffix (ih (suffix.trans inside))⟩
  | vars _ read _ ih =>
    have suffix := (ends_varDecl read).suffix
    exact deeper suffix (ih (suffix.trans inside))
  | statement _ _ _ skipped _ ih =>
    have suffix := (ends_skipStatement skipped).suffix
    exact deeper suffix (ih (suffix.trans inside))

end Listing

namespace SourceFile

open Declaration Listing

/-- Each type of a file is declared by a part of its tokens. Where it has a doc comment of its own,
that is made of comments of the file, and is attached to the first of these tokens. -/
theorem doc_of_ofText? {file : Path} {source : Text} {f : SourceFile}
    (read : ofText? file source = .ok f) :
    ∃ l spans, Listing.ofText? source = .ok l ∧
      List.Forall₂ (fun s c => s.IsComment source c) spans l.comments ∧
      ∀ type ∈ f.types, ∃ before first after, l.tokens = before ++ first :: after ∧
        (l.Inherits type (first :: after) ∨ l.Begins type (first :: after) ∧
          (type.doc ≠ [] → ∃ docs, docs <:+: spans.zip l.comments ∧
            type.doc = docs.map (·.2.text) ∧ Attached before first docs)) := by
  obtain ⟨l, listed, found⟩ := ofText?_eq_ok_iff.1 read
  obtain ⟨spans, comments, marked⟩ := exists_marked_of_ofText? listed
  obtain ⟨word, name, rest, types, bindings, package, -, -, below, rfl⟩ :=
    ofListing?_eq_ok_iff.1 found
  have inside : rest <:+ l.tokens := by
    have passed : skipSemicolons l.tokens <:+ l.tokens := List.dropWhile_suffix _
    rw [package] at passed
    exact ((List.suffix_cons name rest).trans (List.suffix_cons word _)).trans passed
  refine ⟨l, spans, listed, comments, fun type mem => ?_⟩
  obtain ⟨n, -, below⟩ := declarations_eq_ok_iff.1 below
  obtain ⟨part, later, declared⟩ := begins_of_decls inside below type mem
  obtain ⟨before, split⟩ := later.trans inside
  rcases declared with begins | inherits
  · obtain ⟨first, after, rfl⟩ : ∃ first after, part = first :: after := by
      cases begins with
      | single => exact ⟨_, _, rfl⟩
      | grouped => exact ⟨_, _, rfl⟩
    refine ⟨before, first, after, split.symm, .inr ⟨begins, fun some => ?_⟩⟩
    rw [begins.doc] at some ⊢
    exact exists_attached_of_docAbove comments marked split.symm some
  · obtain ⟨first, after, rfl⟩ : ∃ first after, part = first :: after := by
      cases inherits with
      | grouped => exact ⟨_, _, rfl⟩
    exact ⟨before, first, after, split.symm, .inl inherits⟩

/-- A type below a comment of its own, another one and a blank line. -/
def card : Text :=
  text "package p\n\n// Unrelated.\n\n/* A card.\n */\n// enumr:Ace\ntype Card struct \x7b\x7d\n"

theorem doc_of_ofText?_card :
    ∃ f l spans, ofText? .here card = .ok f ∧
      f.types.map (·.doc) = [[text "/* A card.\n */", text "// enumr:Ace"]] ∧
      Listing.ofText? card = .ok l ∧
      List.Forall₂ (fun s c => s.IsComment card c) spans l.comments ∧
      ∀ type ∈ f.types, ∃ before first after, l.tokens = before ++ first :: after ∧
        (l.Inherits type (first :: after) ∨ l.Begins type (first :: after) ∧
          (type.doc ≠ [] → ∃ docs, docs <:+: spans.zip l.comments ∧
            type.doc = docs.map (·.2.text) ∧ Attached before first docs)) := by
  obtain ⟨f, read, shown⟩ := exists_ok_of_any (x := ofText? .here card)
    (p := fun f => decide (f.types.map (·.doc) =
      [[text "/* A card.\n */", text "// enumr:Ace"]])) (by decide +kernel)
  obtain ⟨l, spans, listed, comments, declared⟩ := doc_of_ofText? read
  exact ⟨f, l, spans, read, of_decide_eq_true shown, listed, comments, declared⟩

/-- A type below a variable that shares its line with a comment. -/
def shared : Text :=
  text "package p\n\n// enumr:Nope\n/* a */ var x int\ntype T struct\x7b\x7d\n"

/-- The type has the doc comment of the variable, whose tokens stand between. -/
theorem doc_of_shared :
    ∃ f l, ofText? .here shared = .ok f ∧ Listing.ofText? shared = .ok l ∧
      f.types.map (fun type => (type.name, type.doc, type.line)) =
        [(text "T", [text "// enumr:Nope", text "/* a */"], 5)] ∧
      l.comments = [⟨text "// enumr:Nope", 3, 3, true⟩, ⟨text "/* a */", 4, 4, true⟩] ∧
      (l.tokens.drop 3).map (fun t => (t.spelling, t.line)) =
        [(text "var", 4), (text "x", 4), (text "int", 4), (text "\n", 4), (text "type", 5),
          (text "T", 5), (text "struct", 5), (text "\x7b", 5), (text "\x7d", 5),
          (text "\n", 5)] := by
  obtain ⟨f, read, shown⟩ := exists_ok_of_any (x := ofText? .here shared)
    (p := fun f => decide (f.types.map (fun type => (type.name, type.doc, type.line)) =
      [(text "T", [text "// enumr:Nope", text "/* a */"], 5)])) (by decide +kernel)
  obtain ⟨l, listed, listing⟩ := exists_ok_of_any (x := Listing.ofText? shared)
    (p := fun l => decide (
      l.comments = [⟨text "// enumr:Nope", 3, 3, true⟩, ⟨text "/* a */", 4, 4, true⟩] ∧
      (l.tokens.drop 3).map (fun t => (t.spelling, t.line)) =
        [(text "var", 4), (text "x", 4), (text "int", 4), (text "\n", 4), (text "type", 5),
          (text "T", 5), (text "struct", 5), (text "\x7b", 5), (text "\x7d", 5),
          (text "\n", 5)])) (by decide +kernel)
  obtain ⟨comments, tokens⟩ := of_decide_eq_true listing
  exact ⟨f, l, read, listed, of_decide_eq_true shown, comments, tokens⟩

end SourceFile

end EnumText
