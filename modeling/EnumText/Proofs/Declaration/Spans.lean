import EnumText.Proofs.Declaration.Balance
import EnumText.Proofs.Declaration.Decls

/-!
# What the readers of declarations pass over

Each reader closes the brackets that it opens, and passes over at most one semicolon outside of
brackets, which is the last token that it takes.

* `Over` and `Ends` say this of the tokens before the rest.
* `over_collect`, `ends_skipStatement`: balanced runs and statements.
* `isSpec_of_typeSpec`, `isSpec_of_varSpec`: specifications, from one lemma for each reader of a
  part.
* `ends_typeDecl`, `ends_varDecl`: declarations.
-/

namespace EnumText.Listing

open Declaration

variable {l : Listing} {t : Token} {ts rest more : List Token} {d e n : Nat}

/-! ## Tokens that are passed over -/

/-- The tokens before the rest take `d` open brackets to `e`, and no semicolon among them stands
outside of brackets. -/
def Over (d : Nat) (ts : List Token) (e : Nat) (rest : List Token) : Prop :=
  ∃ run, ts = run ++ rest ∧ openAfter [.semicolon] d (run.map (·.kind)) = some e

theorem Over.refl (d : Nat) (ts : List Token) : Over d ts d ts := ⟨[], rfl, rfl⟩

theorem Over.trans {later : List Token} (first : Over d ts e rest) (next : Over e rest n later) :
    Over d ts n later := by
  obtain ⟨run, rfl, balanced⟩ := first
  obtain ⟨run', rfl, balanced'⟩ := next
  refine ⟨run ++ run', (List.append_assoc _ _ _).symm, ?_⟩
  rw [List.map_append, openAfter_append balanced]
  exact balanced'

/-- What is left is the end of what there was. -/
theorem Over.suffix (h : Over d ts e rest) : rest <:+ ts := by
  obtain ⟨run, rfl, -⟩ := h
  exact List.suffix_append run rest

theorem Over.cons (pass : Passes [.semicolon] d t.kind e) (h : Over e ts n rest) :
    Over d (t :: ts) n rest := by
  obtain ⟨run, rfl, balanced⟩ := h
  exact ⟨t :: run, rfl, (openAfter_cons pass).trans balanced⟩

/-- The same tokens inside of further brackets. -/
theorem Over.within (h : Over d ts e rest) : Over (1 + d) ts (1 + e) rest := by
  obtain ⟨run, same, balanced⟩ := h
  have cover : Covers [.semicolon] [.semicolon] 1 := .inl Nat.one_ne_zero
  exact ⟨run, same, openAfter_cover balanced cover⟩

theorem Over.opening {b : Bracket} (opens : t.kind = .opening b) (h : Over (d + 1) ts n rest) :
    Over d (t :: ts) n rest := by
  refine h.cons ?_
  rw [opens]
  exact .opening rfl rfl (.inr (by simp))

theorem Over.closing {b : Bracket} (closes : t.kind = .closing b) (h : Over d ts n rest) :
    Over (d + 1) (t :: ts) n rest := by
  refine h.cons ?_
  rw [closes]
  exact .closing rfl rfl

/-- A token that is neither a bracket nor a semicolon. -/
theorem passes_of_kind {k : Token.Kind} (kind : t.kind = k) (opens : k.isOpening = false)
    (closes : k.isClosing = false) (other : k ≠ .semicolon) : Passes [.semicolon] d t.kind d := by
  rw [kind]
  exact .other opens closes (.inr (by simpa using other))

theorem passes_keyword {word : String} (isWord : t.isWord word = true) :
    Passes [.semicolon] d t.kind d :=
  passes_of_kind (kind_of_isWord isWord) rfl rfl (by decide)

/-- Inside of brackets a semicolon is a token like others. -/
theorem Over.semicolon (kind : t.kind = .semicolon) (h : Over (d + 1) ts n rest) :
    Over (d + 1) (t :: ts) n rest := by
  refine h.cons ?_
  rw [kind]
  exact .other rfl rfl (.inl (Nat.succ_ne_zero d))

theorem over_skipSemicolons (d : Nat) (ts : List Token) :
    Over (d + 1) ts (d + 1) (skipSemicolons ts) := by
  induction ts with
  | nil => exact .refl _ _
  | cons t ts ih =>
    rw [skipSemicolons, List.dropWhile_cons]
    split
    · next semicolon => exact ih.semicolon (of_decide_eq_true semicolon)
    · exact .refl _ _

theorem over_closing {b : Bracket} (closed : at? (.closing b) ts = true) :
    Over 1 ts 0 (ts.drop 1) := by
  obtain ⟨t, tail, rfl, closes⟩ := exists_cons_of_at? closed
  exact .closing closes (.refl _ _)

theorem over_assign (assigned : at? .assign ts = true) : Over 0 ts 0 (ts.drop 1) := by
  obtain ⟨t, tail, rfl, kind⟩ := exists_cons_of_at? assigned
  exact (Over.refl _ _).cons (passes_of_kind kind rfl rfl (by decide))

/-- Tokens are passed over up to the rest, or up to a semicolon before it. -/
def Ends (d : Nat) (ts rest : List Token) : Prop :=
  Over d ts 0 rest ∨ ∃ t, t.kind = .semicolon ∧ Over d ts 0 (t :: rest)

theorem Ends.suffix (h : Ends d ts rest) : rest <:+ ts := by
  rcases h with taken | ⟨t, -, taken⟩
  · exact taken.suffix
  · exact (List.suffix_cons t rest).trans taken.suffix

theorem Over.ends (h : Over d ts 0 rest) : Ends d ts (skipSemicolon rest) := by
  cases rest with
  | nil => exact .inl h
  | cons t rest =>
    rw [skipSemicolon]
    split
    · next semicolon => exact .inr ⟨t, semicolon, h⟩
    · exact .inl h

theorem Ends.cons (pass : Passes [.semicolon] d t.kind e) (h : Ends e ts rest) :
    Ends d (t :: ts) rest :=
  h.imp (·.cons pass) fun ⟨u, kind, taken⟩ => ⟨u, kind, taken.cons pass⟩

theorem Ends.within (h : Ends 0 ts rest) : Over 1 ts 1 rest := by
  rcases h with taken | ⟨t, semicolon, taken⟩
  · exact taken.within
  · exact taken.within.trans (.semicolon semicolon (.refl _ _))

/-! ## Readers -/

theorem depthAfter_of_passes {stops : List Token.Kind} (pass : Passes stops d t.kind n) :
    depthAfter d t = n := by
  rw [depthAfter]
  cases pass with
  | opening opens => rw [if_pos opens]
  | closing opens closes => rw [if_neg (by simp [opens]), if_pos closes, Nat.add_sub_cancel]
  | other opens closes => rw [if_neg (by simp [opens]), if_neg (by simp [closes])]

theorem openAfter_of_collect {stops : List Token.Kind} {run : List Token}
    (h : l.collect stops d ts = .ok (run, rest)) :
    openAfter stops d (run.map (·.kind)) = some 0 := by
  induction ts generalizing d run with
  | nil =>
    obtain ⟨rfl, same⟩ := collect_nil_eq_ok_iff.1 h
    cases same
    rfl
  | cons t ts ih =>
    rw [collect_cons_eq_ok_iff] at h
    split at h
    · next stop =>
      obtain ⟨rfl, -⟩ := h
      exact congrArg some stop.1
    · next inside =>
      obtain ⟨inner, below, rfl⟩ := h
      obtain ⟨n, pass⟩ := exists_passes_of_free
        (by simpa only [List.contains_iff_mem] using inside)
      rw [depthAfter_of_passes pass] at below
      exact (openAfter_cons pass).trans (ih below)

theorem over_collect {stops : List Token.Kind} {run : List Token} (stop : .semicolon ∈ stops)
    (h : l.collect stops 0 ts = .ok (run, rest)) : Over 0 ts 0 rest := by
  have cover : Covers stops [.semicolon] 0 := .inr (by simpa using stop)
  exact ⟨run, collect_append h, openAfter_cover (openAfter_of_collect h) cover⟩

/-- Inside of brackets any run is passed over. -/
theorem over_collect_within {stops : List Token.Kind} {run : List Token}
    (h : l.collect stops 0 ts = .ok (run, rest)) : Over 1 ts 1 rest := by
  have cover : Covers stops [.semicolon] 1 := .inl Nat.one_ne_zero
  exact ⟨run, collect_append h, openAfter_cover (openAfter_of_collect h) cover⟩

theorem ends_skipStatement (h : l.skipStatement d ts = .ok rest) : Ends d ts rest := by
  induction ts generalizing d with
  | nil =>
    rw [skipStatement] at h
    split at h
    · next zero =>
      cases h
      exact .inl (zero ▸ .refl _ _)
    · cases h
  | cons t ts ih =>
    rw [skipStatement] at h
    split at h
    · next opens =>
      have free : d ≠ 0 ∨ t.kind ∉ [Token.Kind.semicolon] := by
        refine .inr fun mem => ?_
        rw [List.mem_singleton.1 mem] at opens
        cases opens
      exact (ih h).cons (.opening opens (isClosing_of_isOpening opens) free)
    next opens =>
    have opens := Bool.eq_false_iff.2 opens
    split at h
    · next closes =>
      split at h
      · cases h
      · next deep =>
        obtain ⟨d, rfl⟩ := Nat.exists_eq_succ_of_ne_zero deep
        exact (ih h).cons (.closing opens closes)
    next closes =>
    have closes := Bool.eq_false_iff.2 closes
    split at h
    · next stop =>
      cases h
      obtain ⟨semicolon, rfl⟩ := stop
      exact .inr ⟨t, semicolon, .refl _ _⟩
    · next go =>
      refine (ih h).cons (.other opens closes ?_)
      by_cases zero : d = 0
      · exact .inr fun mem => go ⟨List.mem_singleton.1 mem, zero⟩
      · exact .inl zero

theorem over_skipTypeParameters (h : l.skipTypeParameters ts = .ok rest) : Over 0 ts 0 rest := by
  unfold skipTypeParameters at h
  split at h
  · next params =>
    obtain ⟨t, ts, rfl, opens⟩ := exists_cons_of_at? (Bool.and_eq_true_iff.1 params).1
    rcases bind_eq_ok_iff.1 h with ⟨⟨run, after⟩, collected, body⟩
    rcases bind_eq_ok_iff.1 body with ⟨⟨closing, last⟩, closed, same⟩
    rcases expect_eq_ok_iff.1 closed with ⟨rfl, closes⟩
    cases same
    exact .opening opens ((over_collect_within collected).trans (.closing closes (.refl _ _)))
  · cases h
    exact .refl _ _

theorem over_fieldsUpToClose {fuel : Nat} {fields : List Field}
    (h : l.fieldsUpToClose fuel ts = .ok (fields, rest)) : Over 1 ts 0 rest := by
  induction fuel generalizing ts fields with
  | zero => cases h
  | succ fuel ih =>
    rw [fieldsUpToClose] at h
    have inner := over_skipSemicolons 0 ts
    split at h
    · cases h
    · next t tail same =>
      rw [same] at inner
      split at h
      · next closes =>
        cases h
        exact inner.trans (.closing closes (.refl _ _))
      · rcases bind_eq_ok_iff.1 h with ⟨⟨line, after⟩, collected, body⟩
        rcases bind_eq_ok_iff.1 body with ⟨own, -, body₁⟩
        rcases bind_eq_ok_iff.1 body₁ with ⟨⟨others, last⟩, below, same⟩
        cases same
        exact inner.trans ((over_collect_within collected).trans (ih below))

theorem over_structFields {fields : List Field} (h : l.structFields ts = .ok (fields, rest)) :
    Over 0 ts 0 rest := by
  rcases bind_eq_ok_iff.1 h with ⟨⟨word, _⟩, keyword, body⟩
  rcases bind_eq_ok_iff.1 body with ⟨⟨brace, ts⟩, opened, inner⟩
  rcases expectWord_eq_ok_iff.1 keyword with ⟨rfl, isWord⟩
  rcases expect_eq_ok_iff.1 opened with ⟨rfl, opens⟩
  exact ((over_fieldsUpToClose inner).opening opens).cons (passes_keyword isWord)

theorem over_typeFields {fields : List Field} (h : l.typeFields ts = .ok (fields, rest)) :
    Over 0 ts 0 rest := by
  unfold typeFields at h
  split at h
  · exact over_structFields h
  · cases h
    exact .refl _ _

theorem over_afterAssign (ts : List Token) : Over 0 ts 0 (afterAssign ts) := by
  unfold afterAssign
  split
  · next assigned => exact over_assign assigned
  · exact .refl _ _

/-- A specification begins with a name. What stands behind it is passed over, with the semicolon at
the end. -/
inductive IsSpec : List Token → List Token → Prop
  | mk {name : Token} {after last : List Token} (kind : name.kind = .identifier)
    (behind : Over 0 after 0 last) : IsSpec (name :: after) (skipSemicolon last)

theorem IsSpec.exists_cons (h : IsSpec ts rest) : ∃ t tail, ts = t :: tail := by
  cases h
  exact ⟨_, _, rfl⟩

theorem IsSpec.ends (h : IsSpec ts rest) : Ends 0 ts rest := by
  obtain ⟨kind, behind⟩ := h
  exact (behind.cons (passes_of_kind kind rfl rfl (by decide))).ends

theorem IsSpec.length_lt (h : IsSpec ts rest) : rest.length < ts.length := by
  obtain ⟨-, behind⟩ := h
  exact Nat.lt_succ_of_le ((skipSemicolon_suffix _).trans behind.suffix).length_le

theorem isSpec_of_typeSpec {doc : List Text} {type : TypeDecl}
    (h : l.typeSpec doc ts = .ok (type, rest)) : IsSpec ts rest := by
  obtain ⟨name, after, params, fields, tail, run, last, rfl, kind, skipped, read, collected, -,
    rfl⟩ := typeSpec_eq_ok_iff.1 h
  exact .mk kind ((over_skipTypeParameters skipped).trans ((over_afterAssign params).trans
    ((over_typeFields read).trans (over_collect (by simp) collected))))

theorem over_moreNames {names : List Text} (h : l.moreNames ts = .ok (names, rest)) :
    Over 0 ts 0 rest := by
  fun_induction Listing.moreNames l ts generalizing names rest with
  | case1 =>
    cases h
    exact .refl _ _
  | case2 => cases h
  | case3 =>
    cases h
    exact .refl _ _
  | case4 comma name tail isComma isName ih =>
    rcases bind_eq_ok_iff.1 h with ⟨⟨names, after⟩, below, same⟩
    cases same
    have inner := (ih below).cons (passes_of_kind isName rfl rfl (by decide))
    exact inner.cons (passes_of_kind isComma rfl rfl (by decide))
  | case5 => cases h
  | case6 =>
    cases h
    exact .refl _ _

theorem over_varValues {values : List (Option Composite)}
    (h : l.varValues ts = .ok (values, rest)) : Over 0 ts 0 rest := by
  unfold varValues at h
  split at h
  · next assigned =>
    rcases bind_eq_ok_iff.1 h with ⟨⟨run, after⟩, collected, same⟩
    cases same
    exact (over_assign assigned).trans (over_collect (by simp) collected)
  · cases h
    exact .refl _ _

theorem isSpec_of_varSpec {binding : Binding} (h : l.varSpec ts = .ok (binding, rest)) :
    IsSpec ts rest := by
  obtain ⟨name, after, names, tail, type, assigned, values, last, rfl, kind, others, collected,
    read, -, rfl⟩ := varSpec_eq_ok_iff.1 h
  exact .mk kind ((over_moreNames others).trans
    ((over_collect (by simp) collected).trans (over_varValues read)))

/-! ## Declarations -/

section

variable {α : Type} {xs : List α} {word : String}
variable {single grouped : Token → List Token → Except Fault (Taken α)}
variable (one : ∀ {keyword ts x rest}, single keyword ts = .ok (x, rest) → IsSpec ts rest)
variable (each : ∀ {keyword ts x rest}, grouped keyword ts = .ok (x, rest) → IsSpec ts rest)

theorem over_specs {spec : List Token → Except Fault (Taken α)}
    (each : ∀ {ts x rest}, spec ts = .ok (x, rest) → IsSpec ts rest)
    (h : Specs spec ts xs rest) : Over 1 ts 0 rest := by
  induction h with
  | close closed => exact (over_skipSemicolons 0 _).trans (over_closing closed)
  | spec _ read _ ih => exact (over_skipSemicolons 0 _).trans ((each read).ends.within.trans ih)

include one each

theorem ends_decl (h : Decl word single grouped ts xs rest) : Ends 0 ts rest := by
  cases h with
  | single isWord _ read => exact (one read).ends.cons (passes_keyword isWord)
  | group isWord opens _ found =>
    exact .inl (((over_specs each found).opening opens).cons (passes_keyword isWord))

theorem length_le_of_decl (h : Decl word single grouped (t :: ts) xs rest) :
    rest.length ≤ ts.length := by
  cases h with
  | single _ _ read => exact Nat.le_of_lt (one read).length_lt
  | group _ _ _ found => exact Nat.le_succ_of_le (over_specs each found).suffix.length_le

end

theorem ends_typeDecl {types : List TypeDecl} (h : l.typeDecl ts = .ok (types, rest)) :
    Ends 0 ts rest :=
  ends_decl isSpec_of_typeSpec isSpec_of_typeSpec (typeDecl_eq_ok_iff.1 h)

theorem ends_varDecl {bindings : List Binding} (h : l.varDecl ts = .ok (bindings, rest)) :
    Ends 0 ts rest :=
  ends_decl isSpec_of_varSpec isSpec_of_varSpec (varDecl_eq_ok_iff.1 h)

theorem length_le_of_typeDecl {types : List TypeDecl}
    (h : l.typeDecl (t :: ts) = .ok (types, rest)) : rest.length ≤ ts.length :=
  length_le_of_decl isSpec_of_typeSpec isSpec_of_typeSpec (typeDecl_eq_ok_iff.1 h)

theorem length_le_of_varDecl {bindings : List Binding}
    (h : l.varDecl (t :: ts) = .ok (bindings, rest)) : rest.length ≤ ts.length :=
  length_le_of_decl isSpec_of_varSpec isSpec_of_varSpec (varDecl_eq_ok_iff.1 h)

end EnumText.Listing
