import EnumText.Proofs.Declaration.Relocation.Declarations
import EnumText.Proofs.Declaration.Spans

/-!
# Where declarations begin

What stands after whole statements is read from its own beginning, for none of the readers before it
goes beyond the semicolon that ends its statement. The same holds of the parts of a group.

* `Statements.ends`: a statement among others ends before the next one begins.
* `exists_specs`, `exists_decls`: what stands after whole statements.
* `exists_typeSpec`, `exists_varSpec`: what stands in a file as a type or a variable is read as one.
-/

namespace EnumText.Listing

open Declaration

variable {l : Listing} {t : Token} {ts rest more : List Token}

/-! ## Whole statements -/

/-- Tokens that close the brackets that they open, and of which the last is a semicolon. -/
structure Statements (ts : List Token) : Prop where
  balanced : openAfter [] 0 (ts.map (·.kind)) = some 0
  last : ∀ t ∈ ts.getLast?, t.kind = .semicolon

variable {before : List Token}

theorem Statements.suffix (h : Statements before) {run left : List Token}
    (same : before = run ++ left)
    (taken : openAfter [.semicolon] 0 (run.map (·.kind)) = some 0) : Statements left := by
  obtain ⟨balanced, last⟩ := h
  subst same
  have cover : Covers [.semicolon] [] 0 := .inr (List.forall_mem_nil _)
  rw [List.map_append, openAfter_append (openAfter_cover taken cover)] at balanced
  refine ⟨balanced, fun t mem => last t ?_⟩
  rw [List.getLast?_append, Option.mem_def.1 mem]
  rfl

theorem Statements.tail {t : Token} (h : Statements (t :: before)) (kind : t.kind = .semicolon) :
    Statements before := by
  obtain ⟨balanced, last⟩ := h
  rw [List.map_cons, kind, openAfter_cons (.other rfl rfl (.inr List.not_mem_nil))] at balanced
  refine ⟨balanced, fun u mem => last u ?_⟩
  rw [List.getLast?_cons, Option.mem_def.1 mem]
  rfl

theorem Statements.skipSemicolons (h : Statements before) : Statements (skipSemicolons before) := by
  induction before with
  | nil => exact h
  | cons t before ih =>
    rw [Listing.skipSemicolons, List.dropWhile_cons]
    split
    · next semicolon => exact ih (h.tail (of_decide_eq_true semicolon))
    · exact h

/-- The semicolon at the end of statements stands outside of brackets. -/
theorem Statements.not_over (h : Statements before) (some : before ≠ []) (later : List Token) :
    openAfter [.semicolon] 0 ((before ++ later).map (·.kind)) ≠ .some 0 := by
  intro taken
  obtain ⟨init, last, rfl⟩ := List.eq_nil_or_concat before |>.resolve_left some
  have semicolon : last.kind = .semicolon := h.last last (by simp)
  have balanced := h.balanced
  simp only [List.concat_eq_append, List.append_assoc, List.map_append] at taken balanced
  obtain ⟨n, inner, final⟩ := exists_openAfter taken
  have cover : Covers [.semicolon] [] 0 := .inr (List.forall_mem_nil _)
  have inner' := openAfter_cover inner cover
  rw [Nat.zero_add, Nat.zero_add] at inner'
  rw [openAfter_append inner', List.map_singleton, semicolon,
    openAfter_cons (.other rfl rfl (.inr List.not_mem_nil))] at balanced
  obtain rfl : n = 0 := Option.some.inj balanced
  rw [List.map_singleton, semicolon, List.singleton_append] at final
  obtain ⟨m, pass, -⟩ := exists_passes final
  exact pass.free ⟨rfl, .inl (List.mem_singleton.2 rfl)⟩

/-- A statement that begins among whole ones ends among them. -/
theorem Statements.ends (h : Statements before) (some : before ≠ [])
    (ended : Ends 0 (before ++ more) rest) : ∃ left, Statements left ∧ rest = left ++ more := by
  have inside {last : List Token} (taken : Over 0 (before ++ more) 0 last) :
      ∃ t left, last = t :: (left ++ more) ∧ Statements (t :: left) := by
    obtain ⟨run, same, balanced⟩ := taken
    rcases List.append_eq_append_iff.1 same with ⟨later, rfl, -⟩ | ⟨left, rfl, rfl⟩
    · exact absurd balanced (h.not_over some later)
    · cases left with
      | nil => exact absurd balanced (by simpa using h.not_over some [])
      | cons t left => exact ⟨t, left, rfl, h.suffix rfl balanced⟩
  rcases ended with taken | ⟨t, semicolon, taken⟩
  · obtain ⟨t, left, rfl, whole⟩ := inside taken
    exact ⟨t :: left, whole, rfl⟩
  · obtain ⟨u, left, same, whole⟩ := inside taken
    obtain ⟨rfl, rfl⟩ := List.cons.inj same
    exact ⟨left, whole.tail semicolon, rfl⟩

/-- No bracket is closed at the beginning of statements. -/
theorem Statements.not_closing (h : Statements (t :: before)) (b : Bracket) (more : List Token) :
    ¬ at? (.closing b) (t :: more) := by
  intro closed
  obtain ⟨n, (pass : Passes [] 0 t.kind n), -⟩ := exists_passes h.balanced
  have closes : t.kind = .closing b := by simpa [at?] using closed
  exact pass.free ⟨rfl, .inr (closes ▸ rfl)⟩

theorem skipSemicolons_append_of_eq_nil (none : skipSemicolons before = []) (more : List Token) :
    skipSemicolons (before ++ more) = skipSemicolons more := by
  unfold skipSemicolons at none ⊢
  rw [List.dropWhile_append, none]
  rfl

theorem skipSemicolons_append_of_eq_cons {tail : List Token}
    (first : skipSemicolons before = t :: tail) (more : List Token) :
    skipSemicolons (before ++ more) = t :: (tail ++ more) := by
  unfold skipSemicolons at first ⊢
  rw [List.dropWhile_append, first]
  rfl

/-- What stands after whole specifications is read from its beginning. -/
theorem exists_specs {α : Type} {spec : List Token → Except Fault (Taken α)} {xs : List α}
    (each : ∀ {ts x rest}, spec ts = .ok (x, rest) → IsSpec ts rest) (whole : Statements before)
    (h : Specs spec (before ++ more) xs rest) :
    ∃ later, Specs spec more later rest ∧ later ⊆ xs := by
  generalize same : before ++ more = ts at h
  induction h generalizing before with
  | @close ts closed =>
    subst same
    cases first : skipSemicolons before with
    | nil =>
      have all := skipSemicolons_append_of_eq_nil first more
      rw [all] at closed ⊢
      exact ⟨[], .close closed, List.Subset.refl _⟩
    | cons t tail =>
      rw [skipSemicolons_append_of_eq_cons first] at closed
      exact absurd closed ((first ▸ whole.skipSemicolons).not_closing .round _)
  | @spec ts after _ x xs inner read below ih =>
    subst same
    cases first : skipSemicolons before with
    | nil =>
      rw [skipSemicolons_append_of_eq_nil first] at inner read
      exact ⟨x :: xs, .spec inner read below, List.Subset.refl _⟩
    | cons t tail =>
      rw [skipSemicolons_append_of_eq_cons first] at read
      have whole := first ▸ whole.skipSemicolons
      obtain ⟨left, whole, rfl⟩ := whole.ends (List.cons_ne_nil _ _) (each read).ends
      obtain ⟨later, found, sub⟩ := ih whole rfl
      exact ⟨later, found, List.subset_cons_of_subset _ sub⟩

/-! ## Declarations -/

/-- What stands after whole statements is read from its beginning. -/
theorem exists_decls {n : Nat} {types : List TypeDecl} {bindings : List Binding}
    (whole : Statements before) (h : l.Decls n (before ++ more) types bindings) :
    ∃ n' types' bindings', l.Decls n' more types' bindings' ∧ types' ⊆ types ∧
      bindings' ⊆ bindings := by
  generalize same : before ++ more = ts at h
  induction h generalizing before with
  | nil =>
    obtain ⟨rfl, rfl⟩ := List.append_eq_nil_iff.1 same
    exact ⟨_, _, _, .nil, List.Subset.refl _, List.Subset.refl _⟩
  | semicolon kind below ih =>
    rcases List.append_eq_cons_iff.1 same with ⟨rfl, rfl⟩ | ⟨before, rfl, rfl⟩
    · exact ⟨_, _, _, .semicolon kind below, List.Subset.refl _, List.Subset.refl _⟩
    · exact ih (whole.tail kind) rfl
  | @types _ _ _ _ own _ _ isWord read below ih =>
    rcases List.append_eq_cons_iff.1 same with ⟨rfl, rfl⟩ | ⟨before, rfl, rfl⟩
    · exact ⟨_, _, _, .types isWord read below, List.Subset.refl _, List.Subset.refl _⟩
    · obtain ⟨left, whole, rfl⟩ := whole.ends (List.cons_ne_nil _ _) (ends_typeDecl read)
      obtain ⟨n', types', bindings', found, types, bindings⟩ := ih whole rfl
      exact ⟨n', types', bindings', found, List.subset_append_of_subset_right own types, bindings⟩
  | @vars _ _ _ _ _ own _ isWord read below ih =>
    rcases List.append_eq_cons_iff.1 same with ⟨rfl, rfl⟩ | ⟨before, rfl, rfl⟩
    · exact ⟨_, _, _, .vars isWord read below, List.Subset.refl _, List.Subset.refl _⟩
    · obtain ⟨left, whole, rfl⟩ := whole.ends (List.cons_ne_nil _ _) (ends_varDecl read)
      obtain ⟨n', types', bindings', found, types, bindings⟩ := ih whole rfl
      exact ⟨n', types', bindings', found, types, List.subset_append_of_subset_right own bindings⟩
  | statement some noType noVar skipped below ih =>
    rcases List.append_eq_cons_iff.1 same with ⟨rfl, rfl⟩ | ⟨before, rfl, rfl⟩
    · exact ⟨_, _, _, .statement some noType noVar skipped below, List.Subset.refl _,
        List.Subset.refl _⟩
    · obtain ⟨left, whole, rfl⟩ := whole.ends (List.cons_ne_nil _ _) (ends_skipStatement skipped)
      exact ih whole rfl

/-- A part of a declaration stands in tokens: after a keyword, or in the group after one. What
stands before are whole statements, and whole parts of the group. -/
inductive SpecIn (word : String) (spec : List Token) : List Token → Prop
  | single {before : List Token} {keyword : Token} (above : Statements before)
    (isWord : keyword.isWord word = true) : SpecIn word spec (before ++ keyword :: spec)
  | grouped {before inner : List Token} {keyword bracket : Token} (above : Statements before)
    (isWord : keyword.isWord word = true) (opens : bracket.kind = .opening .round)
    (earlier : Statements inner) :
    SpecIn word spec (before ++ keyword :: bracket :: (inner ++ spec))

variable {spec : List Token} {fuel n : Nat} {types : List TypeDecl} {bindings : List Binding}

/-- A token is one keyword only. -/
theorem Decls.exists_typeDecl (isWord : t.isWord "type" = true)
    (h : l.Decls n (t :: ts) types bindings) :
    ∃ own rest, l.typeDecl (t :: ts) = .ok (own, rest) ∧ own ⊆ types := by
  cases h with
  | semicolon kind => exact absurd ((kind_of_isWord isWord).symm.trans kind) (by decide)
  | types _ read => exact ⟨_, _, read, List.subset_append_left _ _⟩
  | vars isVar => exact absurd isWord (not_isWord_of_isWord isVar (by decide))
  | statement _ noType => exact absurd isWord noType

theorem Decls.exists_varDecl (isWord : t.isWord "var" = true)
    (h : l.Decls n (t :: ts) types bindings) :
    ∃ own rest, l.varDecl (t :: ts) = .ok (own, rest) ∧ own ⊆ bindings := by
  cases h with
  | semicolon kind => exact absurd ((kind_of_isWord isWord).symm.trans kind) (by decide)
  | types isType => exact absurd isWord (not_isWord_of_isWord isType (by decide))
  | vars _ read => exact ⟨_, _, read, List.subset_append_left _ _⟩
  | statement _ _ noVar => exact absurd isWord noVar

section

variable {α : Type} {word : String} {single grouped : Token → List Token → Except Fault (Taken α)}
variable {keyword bracket : Token} {xs : List α}

theorem Decl.exists_single (isName : t.kind = .identifier)
    (h : Decl word single grouped (keyword :: t :: spec) xs rest) :
    ∃ x after, single keyword (t :: spec) = .ok (x, after) ∧ x ∈ xs := by
  cases h with
  | single _ _ read => exact ⟨_, _, read, List.mem_singleton.2 rfl⟩
  | group _ opens => exact absurd (isName.symm.trans opens) (by decide)

theorem Decl.exists_grouped {inner : List Token} (opens : bracket.kind = .opening .round)
    (isName : t.kind = .identifier) (earlier : Statements inner)
    (each : ∀ {ts x rest}, grouped keyword ts = .ok (x, rest) → IsSpec ts rest)
    (h : Decl word single grouped (keyword :: bracket :: (inner ++ t :: spec)) xs rest) :
    ∃ x after, grouped keyword (t :: spec) = .ok (x, after) ∧ x ∈ xs := by
  cases h with
  | single _ alone => exact absurd (by simp [at?, opens]) alone
  | group _ _ _ found =>
    obtain ⟨later, found, sub⟩ := exists_specs each earlier found
    obtain ⟨x, after, read, mem⟩ := found.exists_first isName
    exact ⟨x, after, read, sub mem⟩

end

/-- What stands as a type is read as one of those that are declared. -/
theorem exists_typeSpec (found : SpecIn "type" (t :: spec) ts) (isName : t.kind = .identifier)
    (h : l.declarations fuel ts = .ok (types, bindings)) :
    ∃ doc type rest, l.typeSpec doc (t :: spec) = .ok (type, rest) ∧ type ∈ types := by
  obtain ⟨n, -, all⟩ := declarations_eq_ok_iff.1 h
  cases found with
  | single above isWord =>
    obtain ⟨_, _, _, below, sub, -⟩ := exists_decls above all
    obtain ⟨own, _, read, sub'⟩ := below.exists_typeDecl isWord
    obtain ⟨type, last, spec, mem⟩ := (typeDecl_eq_ok_iff.1 read).exists_single isName
    exact ⟨_, type, last, spec, sub (sub' mem)⟩
  | grouped above isWord opens earlier =>
    obtain ⟨_, _, _, below, sub, -⟩ := exists_decls above all
    obtain ⟨own, _, read, sub'⟩ := below.exists_typeDecl isWord
    obtain ⟨type, last, spec, mem⟩ :=
      (typeDecl_eq_ok_iff.1 read).exists_grouped opens isName earlier isSpec_of_typeSpec
    exact ⟨_, type, last, spec, sub (sub' mem)⟩

/-- What stands as a variable is read as one of those that are declared. -/
theorem exists_varSpec (found : SpecIn "var" (t :: spec) ts) (isName : t.kind = .identifier)
    (h : l.declarations fuel ts = .ok (types, bindings)) :
    ∃ binding rest, l.varSpec (t :: spec) = .ok (binding, rest) ∧ binding ∈ bindings := by
  obtain ⟨n, -, all⟩ := declarations_eq_ok_iff.1 h
  cases found with
  | single above isWord =>
    obtain ⟨_, _, _, below, -, sub⟩ := exists_decls above all
    obtain ⟨own, _, read, sub'⟩ := below.exists_varDecl isWord
    obtain ⟨binding, last, spec, mem⟩ := (varDecl_eq_ok_iff.1 read).exists_single isName
    exact ⟨binding, last, spec, sub (sub' mem)⟩
  | grouped above isWord opens earlier =>
    obtain ⟨_, _, _, below, -, sub⟩ := exists_decls above all
    obtain ⟨own, _, read, sub'⟩ := below.exists_varDecl isWord
    obtain ⟨binding, last, spec, mem⟩ :=
      (varDecl_eq_ok_iff.1 read).exists_grouped opens isName earlier isSpec_of_varSpec
    exact ⟨binding, last, spec, sub (sub' mem)⟩

end EnumText.Listing
