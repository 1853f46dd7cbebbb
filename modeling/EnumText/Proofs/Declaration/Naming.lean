import EnumText.Proofs.Declaration.Relocation.Declarations
import EnumText.Proofs.Listing.Placing
import EnumText.Proofs.Token.Splitting

/-!
# The names that a file declares

An identifier token is spelled like a name, and the readers of declarations take names from
identifiers alone. So `Named`, which says the former of a list of tokens, is passed on by each
reader to the tokens that it leaves, and what it reads has names.

* `named_of_ofText?`: the identifiers of a listing are names.
* `Named.typeDecl`, `Named.varDecl`: declarations of named tokens.
* `SourceFile.isNamed_of_ofText?`: a file, its types with their fields and its variables have names.
-/

namespace EnumText

/-- A type whose name is one, and whose fields have names. -/
structure TypeInfo.IsNamed (type : TypeInfo) : Prop where
  name : type.name.isName = true
  fields : ∀ f ∈ type.fields, f.name.isName = true

/-- A file that names its package, its types and its variables. -/
structure SourceFile.IsNamed (f : SourceFile) : Prop where
  package : f.package.isName = true
  types : ∀ type ∈ f.types, type.IsNamed
  bindings : ∀ b ∈ f.bindings, ∀ name ∈ b.names, name.isName = true

/-! ## Identifiers -/

theorem Lexeme.Reads.isName {c : Rune} {rest : Text} {n : Nat}
    (h : Reads c rest (.token .identifier) n) : Text.isName (c :: rest.take n) = true := by
  generalize same : Kind.token .identifier = kind at h
  cases h with
  | word first =>
    have whole : rest.take (identifierLength rest) = rest.takeWhile isIdentifierPart :=
      (List.prefix_iff_eq_take.1 (List.takeWhile_prefix _)).symm
    refine Text.isName_iff.2 ⟨?_, (Kind.token.inj same).symm⟩
    rw [whole, Text.isIdentifier, Bool.and_eq_true, Bool.or_eq_true, beq_iff_eq]
    exact ⟨first, List.all_takeWhile⟩
  | punctuation mark =>
    cases same
    unfold punctuation? at mark
    split at mark <;> cases mark
  | _ => cases same

namespace Listing

open Declaration

/-- The identifiers among tokens are names. -/
def Named (ts : List Token) : Prop :=
  ∀ t ∈ ts, t.kind = .identifier → t.spelling.isName = true

variable {l : Listing} {ts rest : List Token}

theorem Named.suffix (named : Named ts) (suffix : rest <:+ ts) : Named rest :=
  fun t mem => named t (suffix.subset mem)

/-- The identifiers of a listing are names. -/
theorem named_of_ofText? {t : Text} (h : ofText? t = .ok l) : Named l.tokens := by
  obtain ⟨lexemes, cut, rfl⟩ := ofText?_eq_ok_iff.1 h
  intro token mem kind
  obtain semicolon | ⟨x, mem, same, spelling⟩ := Layout.exists_lexeme_of_mem_place mem
  · rw [kind] at semicolon
    cases semicolon
  obtain ⟨c, rest, n, reads, written⟩ := Lexeme.exists_reads_of_mem_split cut x mem
  rw [same, kind] at reads
  rw [← spelling, written]
  exact reads.isName

/-! ## Readers -/

theorem Named.collect {stops : List Token.Kind} {depth : Nat} {run : List Token} (named : Named ts)
    (h : l.collect stops depth ts = .ok (run, rest)) : Named run ∧ Named rest :=
  List.forall_mem_append.1 (collect_append h ▸ named)

theorem Named.drop (named : Named ts) (n : Nat) : Named (ts.drop n) :=
  named.suffix (List.drop_suffix n ts)

theorem Named.skipSemicolons (named : Named ts) : Named (skipSemicolons ts) :=
  named.suffix (List.dropWhile_suffix _)

theorem Named.skipSemicolon (named : Named ts) : Named (skipSemicolon ts) :=
  named.suffix (skipSemicolon_suffix ts)

theorem Named.fieldNames (named : Named ts) :
    ∀ name ∈ (fieldNames ts).1, name.isName = true := by
  fun_induction Declaration.fieldNames ts with
  | case1 => exact List.forall_mem_nil _
  | case2 t isName => exact List.forall_mem_singleton.2 (named t List.mem_cons_self isName)
  | case3 => exact List.forall_mem_nil _
  | case4 t next ts isName comma names type same ih =>
    rw [same] at ih
    exact List.forall_mem_cons.2 ⟨named t List.mem_cons_self isName, ih (named.drop 2)⟩
  | case5 t next ts isName =>
    exact List.forall_mem_singleton.2 (named t List.mem_cons_self isName)
  | case6 => exact List.forall_mem_nil _

theorem Named.fieldsOfLine {fields : List Field} (named : Named ts)
    (h : l.fieldsOfLine ts = .ok fields) : ∀ f ∈ fields, f.name.isName = true := by
  have bare : Named (withoutTag ts) := fun t mem => named t (withoutTag_subset ts t mem)
  unfold Listing.fieldsOfLine at h
  split at h
  · next first second tail same =>
    rw [same] at bare
    split at h
    · simp only at h
      split at h
      · cases h
      · cases h
        exact List.forall_mem_map.2 bare.fieldNames
    · cases h
      exact List.forall_mem_nil _
  · cases h
    exact List.forall_mem_nil _

theorem Named.fieldsUpToClose {fuel : Nat} {fields : List Field} (named : Named ts)
    (h : l.fieldsUpToClose fuel ts = .ok (fields, rest)) :
    (∀ f ∈ fields, f.name.isName = true) ∧ Named rest := by
  induction fuel generalizing ts fields with
  | zero => cases h
  | succ fuel ih =>
    rw [Listing.fieldsUpToClose] at h
    have inner := named.skipSemicolons
    split at h
    · cases h
    · next t tail same =>
      rw [same] at inner
      split at h
      · cases h
        exact ⟨List.forall_mem_nil _, inner.drop 1⟩
      · rcases bind_eq_ok_iff.1 h with ⟨⟨line, after⟩, collected, body⟩
        rcases bind_eq_ok_iff.1 body with ⟨own, read, body₁⟩
        rcases bind_eq_ok_iff.1 body₁ with ⟨⟨others, last⟩, below, same⟩
        cases same
        rcases inner.collect collected with ⟨line, after⟩
        rcases ih after below with ⟨others, last⟩
        exact ⟨List.forall_mem_append.2 ⟨line.fieldsOfLine read, others⟩, last⟩

theorem Named.structFields {fields : List Field} (named : Named ts)
    (h : l.structFields ts = .ok (fields, rest)) :
    (∀ f ∈ fields, f.name.isName = true) ∧ Named rest := by
  rcases bind_eq_ok_iff.1 h with ⟨⟨word, _⟩, keyword, body⟩
  rcases bind_eq_ok_iff.1 body with ⟨⟨brace, ts⟩, opened, inner⟩
  rcases expectWord_eq_ok_iff.1 keyword with ⟨rfl, -⟩
  rcases expect_eq_ok_iff.1 opened with ⟨rfl, -⟩
  exact (named.drop 2).fieldsUpToClose inner

theorem Named.typeFields {fields : List Field} (named : Named ts)
    (h : l.typeFields ts = .ok (fields, rest)) :
    (∀ f ∈ fields, f.name.isName = true) ∧ Named rest := by
  unfold Listing.typeFields at h
  split at h
  · exact named.structFields h
  · cases h
    exact ⟨List.forall_mem_nil _, named⟩

theorem Named.skipTypeParameters (named : Named ts) (h : l.skipTypeParameters ts = .ok rest) :
    Named rest := by
  unfold Listing.skipTypeParameters at h
  split at h
  · rcases bind_eq_ok_iff.1 h with ⟨⟨run, after⟩, collected, body⟩
    rcases bind_eq_ok_iff.1 body with ⟨⟨closing, last⟩, closed, same⟩
    rcases expect_eq_ok_iff.1 closed with ⟨rfl, -⟩
    cases same
    exact ((named.drop 1).collect collected).2.drop 1
  · cases h
    exact named

theorem Named.afterAssign (named : Named ts) : Named (afterAssign ts) := by
  unfold Listing.afterAssign
  split
  · exact named.drop 1
  · exact named

theorem Named.typeSpec {doc : List Text} {type : TypeDecl} (named : Named ts)
    (h : l.typeSpec doc ts = .ok (type, rest)) : type.IsNamed ∧ Named rest := by
  obtain ⟨name, after, params, fields, tail, run, last, rfl, kind, skipped, read, collected, rfl,
    rfl⟩ := typeSpec_eq_ok_iff.1 h
  have params := (named.drop 1).skipTypeParameters skipped
  rcases params.afterAssign.typeFields read with ⟨fields, tail⟩
  exact ⟨⟨named name List.mem_cons_self kind, fields⟩, (tail.collect collected).2.skipSemicolon⟩

theorem Named.moreNames {names : List Text} (named : Named ts)
    (h : l.moreNames ts = .ok (names, rest)) :
    (∀ name ∈ names, name.isName = true) ∧ Named rest := by
  fun_induction Listing.moreNames l ts generalizing names rest with
  | case1 =>
    cases h
    exact ⟨List.forall_mem_nil _, named⟩
  | case2 => cases h
  | case3 =>
    cases h
    exact ⟨List.forall_mem_nil _, named⟩
  | case4 comma name tail isComma isName ih =>
    rcases bind_eq_ok_iff.1 h with ⟨⟨names, after⟩, below, same⟩
    cases same
    rcases ih (named.drop 2) below with ⟨names, after⟩
    exact ⟨List.forall_mem_cons.2 ⟨named name (by simp) isName, names⟩, after⟩
  | case5 => cases h
  | case6 =>
    cases h
    exact ⟨List.forall_mem_nil _, named⟩

theorem Named.varValues {values : List (Option Composite)} (named : Named ts)
    (h : l.varValues ts = .ok (values, rest)) : Named rest := by
  unfold Listing.varValues at h
  split at h
  · rcases bind_eq_ok_iff.1 h with ⟨⟨run, after⟩, collected, same⟩
    cases same
    exact ((named.drop 1).collect collected).2
  · cases h
    exact named

theorem Named.varSpec {binding : Binding} (named : Named ts)
    (h : l.varSpec ts = .ok (binding, rest)) :
    (∀ name ∈ binding.names, name.isName = true) ∧ Named rest := by
  obtain ⟨name, after, names, tail, type, assigned, values, last, rfl, kind, others, collected,
    read, rfl, rfl⟩ := varSpec_eq_ok_iff.1 h
  rcases (named.drop 1).moreNames others with ⟨names, tail⟩
  have last := (tail.collect collected).2.varValues read
  exact ⟨List.forall_mem_cons.2 ⟨named name List.mem_cons_self kind, names⟩, last.skipSemicolon⟩

/-! ## Declarations -/

section

variable {α : Type} {P : α → Prop} {xs : List α} {word : String}
variable {single grouped : Token → List Token → Except Fault (Taken α)}

theorem Named.specs {spec : List Token → Except Fault (Taken α)}
    (each : ∀ {ts x rest}, Named ts → spec ts = .ok (x, rest) → P x ∧ Named rest)
    (named : Named ts) (h : Specs spec ts xs rest) : (∀ x ∈ xs, P x) ∧ Named rest := by
  induction h with
  | close => exact ⟨List.forall_mem_nil _, named.skipSemicolons.drop 1⟩
  | spec _ read _ ih =>
    obtain ⟨first, after⟩ := each named.skipSemicolons read
    obtain ⟨others, last⟩ := ih after
    exact ⟨List.forall_mem_cons.2 ⟨first, others⟩, last⟩

theorem Named.decl
    (one : ∀ {keyword ts x rest}, Named ts → single keyword ts = .ok (x, rest) → P x ∧ Named rest)
    (each : ∀ {keyword ts x rest}, Named ts → grouped keyword ts = .ok (x, rest) → P x ∧ Named rest)
    (named : Named ts) (h : Decl word single grouped ts xs rest) :
    (∀ x ∈ xs, P x) ∧ Named rest := by
  cases h with
  | single _ _ read =>
    obtain ⟨own, after⟩ := one (named.drop 1) read
    exact ⟨List.forall_mem_singleton.2 own, after⟩
  | group _ _ _ found => exact Named.specs each (named.drop 2) found

end

theorem Named.typeDecl {types : List TypeDecl} (named : Named ts)
    (h : l.typeDecl ts = .ok (types, rest)) :
    (∀ type ∈ types, type.IsNamed) ∧ Named rest :=
  Named.decl Named.typeSpec Named.typeSpec named (typeDecl_eq_ok_iff.1 h)

theorem Named.varDecl {bindings : List Binding} (named : Named ts)
    (h : l.varDecl ts = .ok (bindings, rest)) :
    (∀ b ∈ bindings, ∀ name ∈ b.names, name.isName = true) ∧ Named rest :=
  Named.decl Named.varSpec Named.varSpec named (varDecl_eq_ok_iff.1 h)

/-- What all declarations of named tokens declare has names. -/
theorem Named.decls {n : Nat} {types : List TypeDecl} {bindings : List Binding} (named : Named ts)
    (h : l.Decls n ts types bindings) :
    (∀ type ∈ types, type.IsNamed) ∧ ∀ b ∈ bindings, ∀ name ∈ b.names, name.isName = true := by
  induction h with
  | nil => exact ⟨List.forall_mem_nil _, List.forall_mem_nil _⟩
  | semicolon _ _ ih => exact ih (named.drop 1)
  | types _ read _ ih =>
    obtain ⟨own, after⟩ := named.typeDecl read
    obtain ⟨others, bindings⟩ := ih after
    exact ⟨List.forall_mem_append.2 ⟨own, others⟩, bindings⟩
  | vars _ read _ ih =>
    obtain ⟨own, after⟩ := named.varDecl read
    obtain ⟨types, others⟩ := ih after
    exact ⟨types, List.forall_mem_append.2 ⟨own, others⟩⟩
  | statement _ _ _ skipped _ ih => exact ih (named.suffix (skipStatement_suffix skipped))

end Listing

/-- A file that is read names its package, its types and its variables. -/
theorem SourceFile.isNamed_of_ofText? {file : Path} {t : Text} {f : SourceFile}
    (h : ofText? file t = .ok f) : f.IsNamed := by
  obtain ⟨l, listed, read⟩ := ofText?_eq_ok_iff.1 h
  obtain ⟨word, name, rest, types, bindings, first, -, kind, found, rfl⟩ :=
    ofListing?_eq_ok_iff.1 read
  have named := (Listing.named_of_ofText? listed).skipSemicolons
  rw [first] at named
  obtain ⟨n, -, found⟩ := Listing.declarations_eq_ok_iff.1 found
  obtain ⟨types, bindings⟩ := (named.drop 2).decls found
  exact ⟨named name (by simp) kind, types, bindings⟩

end EnumText
