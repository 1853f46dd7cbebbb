import EnumText.Proofs.Declaration.Relocation.Types
import EnumText.Proofs.Declaration.Relocation.Variables

/-!
# All declarations of two parts of a source

Where the declarations of one part of a source are read and then those of the other, nothing of the
first part is lost, and nothing of it reaches into the second.

* `specs_move`, `decl_move`: groups and declarations, from their specifications.
* `typeDecl_move`, `varDecl_move`: the declarations of types and of variables.
* `declarations_move`: all declarations of the first part, and then of the second.
-/

namespace EnumText.Listing

open Declaration

variable {l l' : Listing} {r : Relocation l l'} {ts rest more : List Token}

/-! ## Groups and declarations -/

section

variable {α : Type} {f : α → α} {xs : List α} {word : String}
variable {single grouped single' grouped' : Token → List Token → Except Fault (Taken α)}

/-- Behind the specifications of a group there is its closing bracket at least. -/
theorem Specs.ne_nil {spec : List Token → Except Fault (Taken α)}
    (isSpec : ∀ {ts x rest}, spec ts = .ok (x, rest) → IsSpec ts rest)
    (h : Specs spec ts xs rest) : ts ≠ [] := by
  rintro rfl
  cases h with
  | close closed => cases closed
  | spec _ read => cases isSpec read

theorem specs_move {spec spec' : List Token → Except Fault (Taken α)}
    (isSpec : ∀ {ts x rest}, spec ts = .ok (x, rest) → IsSpec ts rest)
    (each : ∀ {ts x rest}, r.Part ts more → spec ts = .ok (x, rest) →
      (rest = [] ∨ r.Part rest more) ∧
        spec' (ts.map r.move ++ more) = .ok (f x, rest.map r.move ++ more))
    (part : r.Part ts more) (h : Specs spec ts xs rest) :
    r.Part rest more ∧
      Specs spec' (ts.map r.move ++ more) (xs.map f) (rest.map r.move ++ more) := by
  induction h with
  | @close ts closed =>
    obtain ⟨t, tail, front, closes⟩ := exists_cons_of_at? closed
    obtain ⟨left, skipped⟩ := part.skipSemicolons front
    have closed' : at? (.closing .round) (skipSemicolons (ts.map r.move ++ more)) = true := by
      rw [skipped]
      simp [at?, r.kind, closes]
    have found : Specs spec' _ [] _ := .close closed'
    rw [skipped] at found
    rw [front]
    exact ⟨left.tail closes (by decide), found⟩
  | @spec ts after _ x _ inner read below ih =>
    obtain ⟨t, tail, front⟩ := (isSpec read).exists_cons
    rw [front] at inner read
    obtain ⟨left, skipped⟩ := part.skipSemicolons front
    obtain ⟨behind, read'⟩ := each left read
    obtain ⟨last, below'⟩ := ih (behind.resolve_left (below.ne_nil isSpec))
    refine ⟨last, .spec ?_ (skipped ▸ read') below'⟩
    rw [skipped]
    simpa [at?, r.kind] using inner

theorem decl_move
    (isSpec : ∀ {keyword ts x rest}, grouped keyword ts = .ok (x, rest) → IsSpec ts rest)
    (one : ∀ {keyword ts x rest}, keyword ∈ r.region → r.Part ts more →
      single keyword ts = .ok (x, rest) → (rest = [] ∨ r.Part rest more) ∧
        single' (r.move keyword) (ts.map r.move ++ more) = .ok (f x, rest.map r.move ++ more))
    (each : ∀ {keyword ts x rest}, keyword ∈ r.region → r.Part ts more →
      grouped keyword ts = .ok (x, rest) → (rest = [] ∨ r.Part rest more) ∧
        grouped' (r.move keyword) (ts.map r.move ++ more) = .ok (f x, rest.map r.move ++ more))
    (part : r.Part ts more) (h : Decl word single grouped ts xs rest) :
    (rest = [] ∨ r.Part rest more) ∧
      Decl word single' grouped' (ts.map r.move ++ more) (xs.map f) (rest.map r.move ++ more) := by
  cases h with
  | @single keyword ts _ _ isWord alone read =>
    have inside := part.inside keyword List.mem_cons_self
    have behind := part.tail (kind_of_isWord isWord) (by decide)
    have alone : ¬ at? (.opening .round) (ts.map r.move ++ more) = true := by rwa [behind.at?]
    obtain ⟨left, read⟩ := one inside behind read
    exact ⟨left, .single ((r.isWord_move keyword word).trans isWord) alone read⟩
  | @group keyword bracket ts _ _ isWord opens enough found =>
    have inside := part.inside keyword List.mem_cons_self
    have behind := (part.tail (kind_of_isWord isWord) (by decide)).tail opens (by decide)
    have longer : (xs.map f).length ≤ (ts.map r.move ++ more).length + 1 := by
      simp only [List.length_map, List.length_append]
      omega
    obtain ⟨left, found⟩ := specs_move isSpec (each inside) behind found
    exact ⟨.inr left, .group ((r.isWord_move keyword word).trans isWord)
      ((r.kind bracket).trans opens) longer found⟩

end

/-! ## Types and variables -/

theorem groupedSpec_move {doc : List Text} {type : TypeDecl} (part : r.Part ts more)
    (h : l.groupedSpec doc ts = .ok (type, rest)) :
    (rest = [] ∨ r.Part rest more) ∧
      l'.groupedSpec (doc.map r.rewrite) (ts.map r.move ++ more) =
        .ok (type.move r.rewrite r.lines, rest.map r.move ++ more) := by
  unfold groupedSpec at h ⊢
  obtain ⟨t, tail, rfl⟩ := (isSpec_of_typeSpec h).exists_cons
  have own : l'.docAbove (l'.current ((t :: tail).map r.move ++ more)) =
      (l.docAbove t).map r.rewrite := r.docAbove t (part.inside t List.mem_cons_self)
  rw [own, List.isEmpty_map, ← apply_ite (List.map r.rewrite)]
  exact typeSpec_move part h

theorem typeDecl_move {types : List TypeDecl} (part : r.Part ts more)
    (h : l.typeDecl ts = .ok (types, rest)) :
    (rest = [] ∨ r.Part rest more) ∧ l'.typeDecl (ts.map r.move ++ more) =
      .ok (types.map (·.move r.rewrite r.lines), rest.map r.move ++ more) := by
  have doc {keyword : Token} (inside : keyword ∈ r.region) := r.docAbove keyword inside
  rw [typeDecl_eq_ok_iff, IsTypeDecl] at h ⊢
  exact decl_move isSpec_of_typeSpec
    (fun inside part read => (doc inside).symm ▸ typeSpec_move part read)
    (fun inside part read => (doc inside).symm ▸ groupedSpec_move part read) part h

theorem varDecl_move {bindings : List Binding} (part : r.Part ts more)
    (h : l.varDecl ts = .ok (bindings, rest)) :
    (rest = [] ∨ r.Part rest more) ∧ l'.varDecl (ts.map r.move ++ more) =
      .ok (bindings.map (·.rewrite r.rewrite), rest.map r.move ++ more) := by
  rw [varDecl_eq_ok_iff, IsVarDecl] at h ⊢
  exact decl_move isSpec_of_varSpec (fun _ => varSpec_move) (fun _ => varSpec_move) part h

/-! ## All declarations -/

/-- The declarations of a part that is found again come first, then those that follow it. -/
theorem decls_move {n k : Nat} {types types' : List TypeDecl} {bindings bindings' : List Binding}
    (part : ts = [] ∨ r.Part ts more) (h : l.Decls n ts types bindings)
    (later : l'.Decls k more types' bindings') :
    l'.Decls (n + k) (ts.map r.move ++ more)
      (types.map (·.move r.rewrite r.lines) ++ types')
      (bindings.map (·.rewrite r.rewrite) ++ bindings') := by
  have behind {ts rest : List Token} (part : r.Part ts more) (suffix : rest <:+ ts) :
      rest = [] ∨ r.Part rest more := by
    by_cases empty : rest = []
    · exact .inl empty
    · exact .inr (part.suffix suffix empty)
  induction h with
  | nil => rwa [Nat.zero_add]
  | @semicolon n t ts _ _ kind below ih =>
    have part := part.resolve_left (List.cons_ne_nil _ _)
    rw [Nat.add_right_comm]
    exact .semicolon ((r.kind t).trans kind) (ih (behind part (List.suffix_cons t ts)))
  | @types n t ts _ _ _ _ isWord read below ih =>
    have part := part.resolve_left (List.cons_ne_nil _ _)
    obtain ⟨left, read⟩ := typeDecl_move part read
    rw [Nat.add_right_comm, List.map_append, List.append_assoc]
    exact .types ((r.isWord_move t _).trans isWord) read (ih left)
  | @vars n t ts _ _ _ _ isWord read below ih =>
    have part := part.resolve_left (List.cons_ne_nil _ _)
    obtain ⟨left, read⟩ := varDecl_move part read
    rw [Nat.add_right_comm, List.map_append, List.append_assoc]
    exact .vars ((r.isWord_move t _).trans isWord) read (ih left)
  | @statement n t ts _ _ _ some noType noVar skipped below ih =>
    have part := part.resolve_left (List.cons_ne_nil _ _)
    have skipped' := skipStatement_move r skipped part.joins
    rw [Nat.add_right_comm]
    refine .statement ?_ ?_ ?_ skipped' (ih (behind part (skipStatement_suffix skipped)))
    · rwa [r.kind]
    · rwa [r.isWord_move]
    · rwa [r.isWord_move]

theorem declarations_move {fuel k : Nat} {types types' : List TypeDecl}
    {bindings bindings' : List Binding} (part : ts = [] ∨ r.Part ts more)
    (h : l.declarations fuel ts = .ok (types, bindings))
    (later : l'.declarations k more = .ok (types', bindings')) :
    l'.declarations (fuel + k) (ts.map r.move ++ more) =
      .ok (types.map (·.move r.rewrite r.lines) ++ types',
        bindings.map (·.rewrite r.rewrite) ++ bindings') := by
  obtain ⟨n, first, h⟩ := declarations_eq_ok_iff.1 h
  obtain ⟨m, last, later⟩ := declarations_eq_ok_iff.1 later
  exact declarations_eq_ok_iff.2 ⟨n + m, Nat.add_le_add first last, decls_move part h later⟩

end EnumText.Listing
