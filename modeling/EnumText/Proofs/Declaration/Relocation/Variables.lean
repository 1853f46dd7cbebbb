import Mathlib.Data.List.Basic
import EnumText.Proofs.Declaration.Relocation

/-!
# Variable declarations that stand elsewhere

The readers of composite literals and of variable declarations, up to `varSpec_move`.
-/

namespace EnumText.Listing

open Declaration

variable {l l' : Listing} {r : Relocation l l'} {ts rest more : List Token}

/-! ## Composite literals -/

theorem piecesFrom_map (r : Relocation l l') (separator : Token.Kind) (depth : Int)
    (ts : List Token) :
    piecesFrom separator depth (ts.map r.move) =
      (piecesFrom separator depth ts).map (·.map r.move) := by
  induction ts generalizing depth with
  | nil => rfl
  | cons t ts ih =>
    have change : depthChange (r.move t) = depthChange t := by
      rw [depthChange, depthChange, r.kind]
    simp only [List.map_cons, piecesFrom, r.kind, change, ih]
    split
    · rfl
    · cases piecesFrom separator (depth + depthChange t) ts <;> rfl

theorem splitOutside_map (r : Relocation l l') (separator : Token.Kind) (ts : List Token) :
    splitOutside separator (ts.map r.move) = (splitOutside separator ts).map (·.map r.move) := by
  unfold splitOutside
  rw [piecesFrom_map, List.filter_map]
  congr 2
  funext piece
  simp

theorem mem_of_mem_piecesFrom {separator : Token.Kind} {depth : Int} {ts piece : List Token}
    (mem : piece ∈ piecesFrom separator depth ts) {t : Token} (inside : t ∈ piece) : t ∈ ts := by
  induction ts generalizing depth piece with
  | nil =>
    obtain rfl := List.mem_singleton.1 mem
    exact inside
  | cons u ts ih =>
    rw [piecesFrom] at mem
    split at mem
    · rcases List.mem_cons.1 mem with rfl | mem
      · cases inside
      · exact List.mem_cons_of_mem _ (ih mem inside)
    · have below {piece : List Token}
          (mem : piece ∈ piecesFrom separator (depth + depthChange u) ts) (inside : t ∈ piece) :
          t ∈ ts := ih mem inside
      cases pieces : piecesFrom separator (depth + depthChange u) ts with
      | nil =>
        rw [pieces] at mem
        obtain rfl := List.mem_singleton.1 mem
        obtain rfl := List.mem_singleton.1 inside
        exact List.mem_cons_self
      | cons first others =>
        rw [pieces] at mem below
        rcases List.mem_cons.1 mem with rfl | mem
        · rcases List.mem_cons.1 inside with rfl | inside
          · exact List.mem_cons_self
          · exact List.mem_cons_of_mem _ (below List.mem_cons_self inside)
        · exact List.mem_cons_of_mem _ (below (List.mem_cons_of_mem _ mem) inside)

theorem mem_of_mem_splitOutside {separator : Token.Kind} {ts piece : List Token}
    (mem : piece ∈ splitOutside separator ts) {t : Token} (inside : t ∈ piece) : t ∈ ts :=
  mem_of_mem_piecesFrom (List.mem_filter.1 mem).1 inside

theorem closesAtEnd_map (r : Relocation l l') (depth : Nat) (ts : List Token) :
    closesAtEnd depth (ts.map r.move) = closesAtEnd depth ts := by
  induction ts generalizing depth with
  | nil => rfl
  | cons t ts ih => simp only [List.map_cons, closesAtEnd, r.kind, ih, List.isEmpty_map]

/-- The element that tokens other than semicolons make. -/
def elementOf (l : Listing) (ts : List Token) : Option Composite.Element :=
  match ts with
  | [] => none
  | key :: colon :: first :: rest =>
    if key.kind = .identifier ∧ colon.kind = .colon then
      some ⟨some key.spelling, l.textOf (first :: rest)⟩
    else some ⟨none, l.textOf (key :: colon :: first :: rest)⟩
  | ts => some ⟨none, l.textOf ts⟩

theorem element?_eq (l : Listing) (ts : List Token) :
    l.element? ts = l.elementOf (ts.filter (·.kind ≠ .semicolon)) := rfl

theorem elementOf_map (inside : ∀ t ∈ ts, t ∈ r.region)
    (free : ∀ t ∈ ts, t.kind ≠ .semicolon) :
    l'.elementOf (ts.map r.move) =
      (l.elementOf ts).map fun e => { e with value := r.rewrite e.value } := by
  have textOf (run : List Token) (some : run ≠ []) (sub : run ⊆ ts) :
      l'.textOf (run.map r.move) = r.rewrite (l.textOf run) :=
    r.textOf run some (fun t mem => inside t (sub mem)) fun t outer => free t <| sub <|
      outer.elim List.mem_of_head? List.mem_of_getLast?
  match ts, textOf with
  | [], _ => rfl
  | [a], textOf =>
    have whole := textOf _ (List.cons_ne_nil _ _) (List.Subset.refl _)
    exact congrArg (fun value => some (Composite.Element.mk none value)) whole
  | [a, b], textOf =>
    have whole := textOf _ (List.cons_ne_nil _ _) (List.Subset.refl _)
    exact congrArg (fun value => some (Composite.Element.mk none value)) whole
  | key :: colon :: first :: tail, textOf =>
    simp only [List.map_cons, elementOf, r.kind]
    split
    · next keyed =>
      have value := textOf (first :: tail) (List.cons_ne_nil _ _) fun t mem =>
        List.mem_cons_of_mem _ (List.mem_cons_of_mem _ mem)
      rw [r.spelling key (.inl keyed.1)]
      exact congrArg (fun value => some (Composite.Element.mk (some key.spelling) value)) value
    · have whole := textOf _ (List.cons_ne_nil _ _) (List.Subset.refl _)
      exact congrArg (fun value => some (Composite.Element.mk none value)) whole

theorem element?_map (inside : ∀ t ∈ ts, t ∈ r.region) :
    l'.element? (ts.map r.move) =
      (l.element? ts).map fun e => { e with value := r.rewrite e.value } := by
  have filtered : (ts.map r.move).filter (·.kind ≠ .semicolon) =
      (ts.filter (·.kind ≠ .semicolon)).map r.move := by
    rw [List.filter_map]
    congr 2
    funext t
    simp [r.kind]
  rw [element?_eq, element?_eq, filtered]
  exact elementOf_map (fun t mem => inside t (List.mem_filter.1 mem).1) fun t mem =>
    of_decide_eq_true (List.mem_filter.1 mem).2

theorem composite?_map (inside : ∀ t ∈ ts, t ∈ r.region) :
    l'.composite? (ts.map r.move) = (l.composite? ts).map (·.rewrite r.rewrite) := by
  match ts, inside with
  | [], _ => rfl
  | [_], _ => rfl
  | name :: brace :: body, inside =>
    have last : (body.map r.move).getLast?.any (·.kind = .closing .curly) =
        body.getLast?.any (·.kind = .closing .curly) := by
      rw [List.getLast?_map, Option.any_map]
      congr 1
      funext t
      rw [r.kind]
    simp only [List.map_cons, composite?, r.kind, last, closesAtEnd_map]
    split
    · next literal =>
      rw [Option.map_some, r.spelling name (.inl literal.1), ← List.map_dropLast, splitOutside_map]
      congr 1
      rw [Composite.rewrite]
      congr 1
      rw [List.filterMap_map, List.map_filterMap]
      apply List.filterMap_congr
      intro piece mem
      refine element?_map fun t sub => inside t ?_
      exact List.mem_cons_of_mem _ (List.mem_cons_of_mem _
        (List.dropLast_subset _ (mem_of_mem_splitOutside mem sub)))
    · rfl

/-! ## Declarations -/

theorem moreNames_move {names : List Text} (part : r.Part ts more)
    (h : l.moreNames ts = .ok (names, rest)) :
    r.Part rest more ∧
      l'.moreNames (ts.map r.move ++ more) = .ok (names, rest.map r.move ++ more) := by
  fun_induction moreNames l ts generalizing names rest with
  | case1 =>
    cases h
    refine ⟨part, ?_⟩
    rcases part.joins.ne_nil with rfl | some
    · rfl
    · exact absurd rfl some
  | case2 => cases h
  | case3 t other =>
    cases h
    refine ⟨part, ?_⟩
    cases more with
    | nil => simp [moreNames, r.kind, other]
    | cons u more => simp [moreNames, r.kind, other]
  | case4 comma name tail isComma isName ih =>
    rcases bind_eq_ok_iff.1 h with ⟨⟨names, after⟩, below, same⟩
    cases same
    have inner := (part.tail isComma (by decide)).tail isName (by decide)
    rcases ih inner below with ⟨part, below⟩
    refine ⟨part, ?_⟩
    simp only [List.map_cons, List.cons_append, moreNames, r.kind, isComma, isName, if_true]
    rw [r.spelling name (.inl isName)]
    exact bind_eq_ok_iff.2 ⟨_, below, rfl⟩
  | case5 => cases h
  | case6 comma name tail other =>
    cases h
    refine ⟨part, ?_⟩
    simp [moreNames, r.kind, other]

theorem varValues_move {values : List (Option Composite)} (part : r.Part ts more)
    (h : l.varValues ts = .ok (values, rest)) :
    r.Part rest more ∧ l'.varValues (ts.map r.move ++ more) =
      .ok (values.map (·.map (·.rewrite r.rewrite)), rest.map r.move ++ more) := by
  unfold varValues at h ⊢
  rw [part.at?]
  cases assigned : at? .assign ts with
  | false =>
    rw [assigned] at h
    cases h
    exact ⟨part, rfl⟩
  | true =>
    cases ts with
    | nil => cases assigned
    | cons t tail =>
      have kind : t.kind = .assign := by simpa [at?] using assigned
      have part_tail := part.tail kind (by decide)
      rw [assigned] at h
      rcases bind_eq_ok_iff.1 h with ⟨⟨run, after⟩, collected, same⟩
      cases same
      obtain ⟨inside, part, collected⟩ :=
        part_tail.collect collected (collect_joins collected rfl part_tail.joins)
      refine ⟨part, bind_eq_ok_iff.2 ⟨_, collected, ?_⟩⟩
      dsimp only
      rw [splitOutside_map, List.map_map, List.map_map]
      congr 2
      apply List.map_congr_left
      intro piece mem
      exact composite?_map fun t sub => inside t (mem_of_mem_splitOutside mem sub)

theorem varSpec_move {binding : Binding} (part : r.Part ts more)
    (h : l.varSpec ts = .ok (binding, rest)) :
    (rest = [] ∨ r.Part rest more) ∧ l'.varSpec (ts.map r.move ++ more) =
      .ok (binding.rewrite r.rewrite, rest.map r.move ++ more) := by
  obtain ⟨name, after, names, tail, type, assigned, values, last, rfl, kind, others, collected,
    read, rfl, rfl⟩ := varSpec_eq_ok_iff.1 h
  rcases moreNames_move (part.tail kind (by decide)) others with ⟨part, others⟩
  rcases part.collect collected (collect_joins collected rfl part.joins) with ⟨-, part, collected⟩
  rcases varValues_move part read with ⟨part, read⟩
  obtain ⟨left, ended⟩ := part.skipSemicolon
  have kind' := (r.kind name).trans kind
  refine ⟨left, varSpec_eq_ok_iff.2 ⟨r.move name, _, _, _, _, _, _, _, rfl, kind', others,
    collected, read, ?_, ended.symm⟩⟩
  rw [r.spelling name (.inl kind)]
  rfl

end EnumText.Listing
