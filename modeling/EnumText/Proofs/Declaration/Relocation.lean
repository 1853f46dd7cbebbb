import EnumText.Proofs.Declaration.Reading

/-!
# Declarations that stand elsewhere

Declarations are read in the same way when their tokens stand at another place of another source,
and when further declarations follow them. `Relocation l l'` says how tokens of `l` are found again
in `l'`, and `Part` which tokens they are.

* `collect_joins`, `skipStatement_suffix`: where balanced runs of tokens end.
* `collect_move`, `skipStatement_move`: they are found again at the other place.
* `Part.collect`, `Part.skipSemicolon`: the same, with the part of the tokens that is left.
-/

namespace EnumText

/-! ## What moves -/

/-- A field with its type expression rewritten. -/
def Field.rewrite (g : Text → Text) (f : Field) : Field := { f with type := g f.type }

/-- A composite literal with its values rewritten. -/
def Composite.rewrite (g : Text → Text) (c : Composite) : Composite :=
  { c with elements := c.elements.map fun e => { e with value := g e.value } }

/-- A binding with its values rewritten. -/
def Binding.rewrite (g : Text → Text) (b : Binding) : Binding :=
  { b with values := b.values.map (·.map (·.rewrite g)) }

/-- A declared type with its texts rewritten, a number of lines further down. -/
def TypeDecl.move (g : Text → Text) (lines : Nat) (d : TypeDecl) : TypeDecl :=
  ⟨⟨d.name, d.doc.map g, d.fields.map (·.rewrite g)⟩, d.isStruct, d.line + lines⟩

namespace Listing

/-- How some tokens of a listing are found again in another one. -/
structure Relocation (l l' : Listing) where
  move : Token → Token
  /-- The tokens that are found again. -/
  region : List Token
  /-- How texts are changed on the way. -/
  rewrite : Text → Text
  /-- How many lines further down the tokens stand. -/
  lines : Nat
  kind (t : Token) : (move t).kind = t.kind
  spelling (t : Token) : t.kind = .identifier ∨ t.kind = .keyword →
    (move t).spelling = t.spelling
  line (t : Token) : (move t).line = t.line + lines
  eof : l'.eof.kind = l.eof.kind
  /-- Texts between semicolons are found again. A semicolon that stands for a line break may take
  another place beside it. -/
  textOf (ts : List Token) : ts ≠ [] → (∀ t ∈ ts, t ∈ region) →
    (∀ t, t ∈ ts.head? ∨ t ∈ ts.getLast? → t.kind ≠ .semicolon) →
    l'.textOf (ts.map move) = rewrite (l.textOf ts)
  docAbove (t : Token) : t ∈ region → l'.docAbove (move t) = (l.docAbove t).map rewrite

/-- Tokens that end with a semicolon, unless nothing follows them. -/
def Joins (ts more : List Token) : Prop :=
  more = [] ∨ ∃ t ∈ ts.getLast?, t.kind = .semicolon

theorem Joins.tail {t : Token} {rest more : List Token} (joins : Joins (t :: rest) more)
    (other : t.kind ≠ .semicolon) : Joins rest more := by
  rcases joins with nothing | ⟨last, mem, semicolon⟩
  · exact .inl nothing
  · refine .inr ⟨last, ?_, semicolon⟩
    cases rest with
    | nil =>
      cases mem
      exact absurd semicolon other
    | cons u rest => exact mem

theorem Joins.suffix {ts rest more : List Token} (joins : Joins ts more) (suffix : rest <:+ ts)
    (some : rest ≠ []) : Joins rest more := by
  rcases joins with nothing | ⟨last, mem, semicolon⟩
  · exact .inl nothing
  · obtain ⟨front, rfl⟩ := suffix
    refine .inr ⟨last, ?_, semicolon⟩
    rwa [List.getLast?_append, List.getLast?_eq_some_getLast some, Option.some_or,
      ← List.getLast?_eq_some_getLast some] at mem

theorem Joins.ne_nil {ts more : List Token} (joins : Joins ts more) : more = [] ∨ ts ≠ [] := by
  rcases joins with nothing | ⟨last, mem, -⟩
  · exact .inl nothing
  · apply Or.inr
    intro same
    subst same
    cases mem

open Declaration

/-! ## Balanced runs -/

/-- A run that semicolons stop does not reach the end of tokens that end with one. -/
theorem collect_joins {l : Listing} {stops : List Token.Kind} {depth : Nat}
    {ts run rest more : List Token} (h : l.collect stops depth ts = .ok (run, rest))
    (stop : stops.contains .semicolon = true) (joins : Joins ts more) : Joins rest more := by
  induction ts generalizing depth run with
  | nil =>
    cases (collect_nil_eq_ok_iff.1 h).2
    exact joins
  | cons t ts ih =>
    rw [collect_cons_eq_ok_iff] at h
    split at h
    · obtain ⟨-, rfl⟩ := h
      exact joins
    · next inside =>
      obtain ⟨inner, below, -⟩ := h
      by_cases semicolon : t.kind = .semicolon
      · -- The semicolon stands inside of brackets, so it is not the last token.
        have deep : depth ≠ 0 := fun zero => inside ⟨zero, .inl (by rw [semicolon]; exact stop)⟩
        refine ih below (joins.suffix (List.suffix_cons t ts) ?_)
        intro same
        subst same
        have zero := (collect_nil_eq_ok_iff.1 below).1
        simp [depthAfter, semicolon, Token.Kind.isOpening, Token.Kind.isClosing] at zero
        exact deep zero
      · exact ih below (joins.tail semicolon)

theorem skipStatement_suffix {l : Listing} {depth : Nat} {ts rest : List Token}
    (h : l.skipStatement depth ts = .ok rest) : rest <:+ ts := by
  induction ts generalizing depth with
  | nil =>
    rw [skipStatement] at h
    split at h
    · cases h
      exact List.suffix_rfl
    · cases h
  | cons t ts ih =>
    rw [skipStatement] at h
    split at h
    · exact (ih h).trans (List.suffix_cons t ts)
    split at h
    · split at h
      · cases h
      · exact (ih h).trans (List.suffix_cons t ts)
    split at h
    · cases h
      exact List.suffix_cons t _
    · exact (ih h).trans (List.suffix_cons t ts)

section Relocation

variable {l l' : Listing} (r : Relocation l l')

theorem depthAfter_move (depth : Nat) (t : Token) :
    depthAfter depth (r.move t) = depthAfter depth t := by
  rw [depthAfter, depthAfter, r.kind]

theorem collect_move {stops : List Token.Kind} {depth : Nat} {ts run rest more : List Token}
    (h : l.collect stops depth ts = .ok (run, rest)) (joins : Joins rest more) :
    l'.collect stops depth (ts.map r.move ++ more) =
      .ok (run.map r.move, rest.map r.move ++ more) := by
  induction ts generalizing depth run with
  | nil =>
    rcases collect_nil_eq_ok_iff.1 h with ⟨rfl, same⟩
    cases same
    rcases joins.ne_nil with rfl | some
    · rfl
    · exact absurd rfl some
  | cons t ts ih =>
    rw [collect_cons_eq_ok_iff] at h
    rw [List.map_cons, List.cons_append, collect_cons_eq_ok_iff, r.kind, depthAfter_move]
    split at h
    · next stop =>
      obtain ⟨rfl, rfl⟩ := h
      rw [if_pos stop]
      exact ⟨rfl, rfl⟩
    · next inside =>
      obtain ⟨inner, below, rfl⟩ := h
      rw [if_neg inside]
      exact ⟨_, ih below, rfl⟩

theorem skipStatement_move {depth : Nat} {ts rest more : List Token}
    (h : l.skipStatement depth ts = .ok rest) (joins : Joins ts more) :
    l'.skipStatement depth (ts.map r.move ++ more) = .ok (rest.map r.move ++ more) := by
  induction ts generalizing depth with
  | nil =>
    rcases joins.ne_nil with rfl | some
    · rw [skipStatement] at h
      split at h
      · next zero =>
        cases h
        rw [List.map_nil, List.nil_append, skipStatement, if_pos zero]
      · cases h
    · exact absurd rfl some
  | cons t ts ih =>
    -- A semicolon that does not end the statement stands inside of brackets.
    have later {depth : Nat} (below : l.skipStatement depth ts = .ok rest)
        (deep : t.kind = .semicolon → depth ≠ 0) : Joins ts more := by
      by_cases semicolon : t.kind = .semicolon
      · apply joins.suffix (List.suffix_cons t ts)
        intro same
        subst same
        rw [skipStatement, if_neg (deep semicolon)] at below
        cases below
      · exact joins.tail semicolon
    rw [skipStatement] at h
    rw [List.map_cons, List.cons_append, skipStatement, r.kind]
    split at h
    · next opening =>
      rw [if_pos opening]
      exact ih h (later h fun semicolon => by simp)
    · next opening =>
      rw [if_neg opening]
      split at h
      · next closing =>
        rw [if_pos closing]
        split at h
        · cases h
        · next deep =>
          rw [if_neg deep]
          exact ih h (joins.tail fun semicolon => by rw [semicolon] at closing; cases closing)
      · next closing =>
        rw [if_neg closing]
        split at h
        · next stop =>
          cases h
          rw [if_pos stop]
        · next stop =>
          rw [if_neg stop]
          exact ih h (later h fun semicolon zero => stop ⟨semicolon, zero⟩)

/-! ## Parts -/

/-- Tokens that are found again, and that what follows them leaves alone. -/
structure Relocation.Part (ts more : List Token) : Prop where
  inside (t : Token) : t ∈ ts → t ∈ r.region
  joins : Joins ts more

namespace Relocation

variable {r} {ts rest more : List Token}

theorem Part.suffix (part : r.Part ts more) (suffix : rest <:+ ts) (some : rest ≠ []) :
    r.Part rest more :=
  ⟨fun t mem => part.inside t (suffix.subset mem), part.joins.suffix suffix some⟩

theorem Part.tail {t : Token} {k : Token.Kind} (part : r.Part (t :: rest) more) (kind : t.kind = k)
    (other : k ≠ .semicolon) : r.Part rest more :=
  ⟨fun u mem => part.inside u (List.mem_cons_of_mem _ mem),
    part.joins.tail fun semicolon => other (kind.symm.trans semicolon)⟩

theorem Part.head? (part : r.Part ts more) :
    (ts.map r.move ++ more).head? = ts.head?.map r.move := by
  cases ts with
  | cons t ts => rfl
  | nil =>
    rcases part.joins.ne_nil with rfl | some
    · rfl
    · exact absurd rfl some

theorem Part.at? (part : r.Part ts more) (kind : Token.Kind) :
    at? kind (ts.map r.move ++ more) = at? kind ts := by
  rw [Listing.at?, Listing.at?, part.head?, Option.any_map]
  congr 1
  funext t
  rw [r.kind]

theorem isWord_move (t : Token) (word : String) : (r.move t).isWord word = t.isWord word := by
  rw [Token.isWord, Token.isWord, r.kind]
  by_cases keyword : t.kind = .keyword
  · rw [r.spelling t (.inr keyword)]
  · rw [beq_false_of_ne keyword, Bool.false_and, Bool.false_and]

theorem Part.collect {stops : List Token.Kind} {run : List Token} (part : r.Part ts more)
    (h : l.collect stops 0 ts = .ok (run, rest)) (joins : Joins rest more) :
    (∀ t ∈ run, t ∈ r.region) ∧ r.Part rest more ∧
      l'.collect stops 0 (ts.map r.move ++ more) =
        .ok (run.map r.move, rest.map r.move ++ more) := by
  have whole := collect_append h
  refine ⟨fun t mem => part.inside t ?_, ⟨fun t mem => part.inside t ?_, joins⟩,
    collect_move r h joins⟩
  · rw [whole]
    exact List.mem_append_left _ mem
  · rw [whole]
    exact List.mem_append_right _ mem

theorem Part.skipSemicolons {t : Token} (part : r.Part ts more)
    (h : skipSemicolons ts = t :: rest) :
    r.Part (t :: rest) more ∧
      skipSemicolons (ts.map r.move ++ more) = r.move t :: (rest.map r.move ++ more) := by
  have same : ((fun u : Token => decide (u.kind = .semicolon)) ∘ r.move) =
      fun u => decide (u.kind = .semicolon) := by
    funext u
    rw [Function.comp_apply, r.kind]
  unfold Listing.skipSemicolons at h ⊢
  constructor
  · refine part.suffix ?_ (List.cons_ne_nil _ _)
    rw [← h]
    exact List.dropWhile_suffix _
  · rw [List.dropWhile_append, List.dropWhile_map, same, h]
    rfl

/-- After the semicolon of a declaration there may be nothing left. -/
theorem Part.skipSemicolon (part : r.Part ts more) :
    (skipSemicolon ts = [] ∨ r.Part (skipSemicolon ts) more) ∧
      skipSemicolon (ts.map r.move ++ more) = (skipSemicolon ts).map r.move ++ more := by
  cases ts with
  | nil =>
    refine ⟨.inl rfl, ?_⟩
    rcases part.joins.ne_nil with rfl | some
    · rfl
    · exact absurd rfl some
  | cons t ts =>
    simp only [List.map_cons, List.cons_append, Listing.skipSemicolon, r.kind]
    split
    · refine ⟨?_, rfl⟩
      by_cases empty : ts = []
      · exact .inl empty
      · exact .inr (part.suffix (List.suffix_cons t ts) empty)
    · exact ⟨.inr part, rfl⟩

end Relocation

end Relocation

end Listing

end EnumText
