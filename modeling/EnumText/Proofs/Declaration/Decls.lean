import EnumText.Proofs.Declaration.Reading

/-!
# Declarations one after another

A declaration is a keyword with a specification, or with a group of them in brackets. The readers of
types and of variables have different specifications, and are otherwise the same. What they read is
told by relations with one case for each step, which are equivalent to the readers.

* `Specs`, `specGroup_eq_ok_iff`: the specifications of a group.
* `Decl`, `typeDecl_eq_ok_iff`, `varDecl_eq_ok_iff`: one declaration.
* `Decls`, `declarations_eq_ok_iff`: all declarations up to the end of a file.
-/

namespace EnumText.Listing

open Declaration

variable {α : Type} {l : Listing} {spec : List Token → Except Fault (Taken α)} {fuel : Nat}
variable {t : Token} {ts rest : List Token} {xs : List α}
variable {types : List TypeDecl} {bindings : List Binding}

/-! ## Groups -/

/-- The specifications of a group, one after another up to its closing bracket. -/
inductive Specs (spec : List Token → Except Fault (Taken α)) :
    List Token → List α → List Token → Prop
  | close {ts : List Token} (closed : at? (.closing .round) (skipSemicolons ts) = true) :
    Specs spec ts [] ((skipSemicolons ts).drop 1)
  | spec {ts after rest : List Token} {x : α} {xs : List α}
    (inner : ¬ at? (.closing .round) (skipSemicolons ts) = true)
    (read : spec (skipSemicolons ts) = .ok (x, after)) (below : Specs spec after xs rest) :
    Specs spec ts (x :: xs) rest

/-- Reads the specifications of a group up to its closing bracket, in at most `fuel` steps. -/
def specGroup (l : Listing) (spec : List Token → Except Fault (Taken α)) :
    Nat → List Token → Except Fault (Taken (List α))
  | 0, ts => .error ⟨l.current ts, .strandedBracket⟩
  | fuel + 1, ts =>
    if at? (.closing .round) (skipSemicolons ts) then .ok ([], (skipSemicolons ts).drop 1)
    else do
      let (x, after) ← spec (skipSemicolons ts)
      let (xs, rest) ← l.specGroup spec fuel after
      return (x :: xs, rest)

/-- Reads a type of a group. It has the doc comment of the group if it has none of its own. -/
def groupedSpec (l : Listing) (doc : List Text) (ts : List Token) : Except Fault (Taken TypeDecl) :=
  l.typeSpec (if (l.docAbove (l.current ts)).isEmpty then doc else l.docAbove (l.current ts)) ts

theorem typeGroup_eq (l : Listing) (doc : List Text) (fuel : Nat) (ts : List Token) :
    l.typeGroup doc fuel ts = l.specGroup (l.groupedSpec doc) fuel ts := by
  induction fuel generalizing ts with
  | zero => rfl
  | succ fuel ih =>
    rw [typeGroup, specGroup]
    simp only [ih]
    rfl

theorem varGroup_eq (l : Listing) (fuel : Nat) (ts : List Token) :
    l.varGroup fuel ts = l.specGroup l.varSpec fuel ts := by
  induction fuel generalizing ts with
  | zero => rfl
  | succ fuel ih =>
    rw [varGroup, specGroup]
    simp only [ih]

/-- A group is read in one step for each specification, and one for the bracket. -/
theorem specGroup_eq_ok_iff :
    l.specGroup spec fuel ts = .ok (xs, rest) ↔ xs.length < fuel ∧ Specs spec ts xs rest := by
  induction fuel generalizing ts xs with
  | zero =>
    constructor
    · intro h
      cases h
    · rintro ⟨enough, -⟩
      cases enough
  | succ fuel ih =>
    rw [specGroup]
    split
    · next closed =>
      constructor
      · intro h
        cases h
        exact ⟨Nat.succ_pos _, .close closed⟩
      · rintro ⟨-, found⟩
        cases found with
        | close => rfl
        | spec inner => exact absurd closed inner
    · next inner =>
      constructor
      · intro h
        obtain ⟨⟨x, after⟩, read, body⟩ := bind_eq_ok_iff.1 h
        obtain ⟨⟨others, last⟩, below, same⟩ := bind_eq_ok_iff.1 body
        cases same
        obtain ⟨enough, below⟩ := ih.1 below
        exact ⟨Nat.succ_lt_succ enough, .spec inner read below⟩
      · rintro ⟨enough, found⟩
        cases found with
        | close closed => exact absurd closed inner
        | spec _ read below =>
          have below := ih.2 ⟨Nat.lt_of_succ_lt_succ enough, below⟩
          exact bind_eq_ok_iff.2 ⟨_, read, bind_eq_ok_iff.2 ⟨_, below, rfl⟩⟩

theorem varGroup_eq_ok_iff :
    l.varGroup fuel ts = .ok (bindings, rest) ↔
      bindings.length < fuel ∧ Specs l.varSpec ts bindings rest := by
  rw [varGroup_eq, specGroup_eq_ok_iff]

namespace Specs

/-- What holds of each specification that is read holds of all those of a group. -/
theorem forall_mem {P : α → Prop} (each : ∀ {ts x rest}, spec ts = .ok (x, rest) → P x)
    (h : Specs spec ts xs rest) : ∀ x ∈ xs, P x := by
  induction h with
  | close => exact List.forall_mem_nil _
  | spec _ read _ ih => exact List.forall_mem_cons.2 ⟨each read, ih⟩

/-- A group that begins with a name has a specification there. -/
theorem exists_first (isName : t.kind = .identifier) (h : Specs spec (t :: ts) xs rest) :
    ∃ x after, spec (t :: ts) = .ok (x, after) ∧ x ∈ xs := by
  have here := skipSemicolons_of_kind (t := t) (by simp [isName]) ts
  cases h with
  | close closed =>
    rw [here] at closed
    simp [at?, isName] at closed
  | spec _ read =>
    rw [here] at read
    exact ⟨_, _, read, List.mem_cons_self⟩

end Specs

/-! ## One declaration -/

/-- A keyword with a specification, or with a group of them in brackets. -/
inductive Decl (word : String) (single grouped : Token → List Token → Except Fault (Taken α)) :
    List Token → List α → List Token → Prop
  | single {keyword : Token} {ts rest : List Token} {x : α} (isWord : keyword.isWord word = true)
    (alone : ¬ at? (.opening .round) ts = true) (read : single keyword ts = .ok (x, rest)) :
    Decl word single grouped (keyword :: ts) [x] rest
  | group {keyword bracket : Token} {ts rest : List Token} {xs : List α}
    (isWord : keyword.isWord word = true) (opens : bracket.kind = .opening .round)
    (enough : xs.length ≤ ts.length + 1) (found : Specs (grouped keyword) ts xs rest) :
    Decl word single grouped (keyword :: bracket :: ts) xs rest

/-- Reads a keyword with a specification, or with a group of them in brackets. -/
def decl (l : Listing) (word : String)
    (single grouped : Token → List Token → Except Fault (Taken α)) (ts : List Token) :
    Except Fault (Taken (List α)) := do
  let (keyword, ts) ← l.expectWord word ts
  if at? (.opening .round) ts then l.specGroup (grouped keyword) (ts.length + 1) (ts.drop 1)
  else
    let (x, ts) ← single keyword ts
    return ([x], ts)

theorem exists_cons_of_at? {kind : Token.Kind} (h : at? kind ts = true) :
    ∃ t tail, ts = t :: tail ∧ t.kind = kind := by
  cases ts with
  | nil => cases h
  | cons t tail => exact ⟨t, tail, rfl, by simpa [at?] using h⟩

theorem decl_eq_ok_iff {word : String}
    {single grouped : Token → List Token → Except Fault (Taken α)} :
    l.decl word single grouped ts = .ok (xs, rest) ↔ Decl word single grouped ts xs rest := by
  constructor
  · intro h
    obtain ⟨⟨keyword, after⟩, isKeyword, body⟩ := bind_eq_ok_iff.1 h
    obtain ⟨rfl, isWord⟩ := expectWord_eq_ok_iff.1 isKeyword
    dsimp only at body
    split at body
    · next opened =>
      obtain ⟨bracket, tail, rfl, opens⟩ := exists_cons_of_at? opened
      obtain ⟨enough, found⟩ := specGroup_eq_ok_iff.1 body
      exact .group isWord opens (Nat.le_of_lt_succ enough) found
    · next alone =>
      obtain ⟨⟨x, last⟩, read, same⟩ := bind_eq_ok_iff.1 body
      cases same
      exact .single isWord alone read
  · intro h
    cases h with
    | single isWord alone read =>
      refine bind_eq_ok_iff.2 ⟨_, expectWord_eq_ok_iff.2 ⟨rfl, isWord⟩, ?_⟩
      dsimp only
      rw [if_neg alone]
      exact bind_eq_ok_iff.2 ⟨_, read, rfl⟩
    | @group keyword bracket ts _ _ isWord opens enough found =>
      have opened : at? (.opening .round) (bracket :: ts) = true := by simp [at?, opens]
      refine bind_eq_ok_iff.2 ⟨_, expectWord_eq_ok_iff.2 ⟨rfl, isWord⟩, ?_⟩
      dsimp only
      rw [if_pos opened]
      exact specGroup_eq_ok_iff.2 ⟨Nat.lt_succ_of_le enough, found⟩

/-- The types of a declaration, with their doc comments. -/
def IsTypeDecl (l : Listing) : List Token → List TypeDecl → List Token → Prop :=
  Decl "type" (fun keyword => l.typeSpec (l.docAbove keyword))
    (fun keyword => l.groupedSpec (l.docAbove keyword))

/-- The variables of a declaration. -/
def IsVarDecl (l : Listing) : List Token → List Binding → List Token → Prop :=
  Decl "var" (fun _ => l.varSpec) (fun _ => l.varSpec)

theorem typeDecl_eq_ok_iff : l.typeDecl ts = .ok (types, rest) ↔ l.IsTypeDecl ts types rest := by
  rw [IsTypeDecl, ← decl_eq_ok_iff (l := l)]
  simp only [typeDecl, decl, typeGroup_eq]

theorem varDecl_eq_ok_iff :
    l.varDecl ts = .ok (bindings, rest) ↔ l.IsVarDecl ts bindings rest := by
  rw [IsVarDecl, ← decl_eq_ok_iff (l := l)]
  simp only [varDecl, decl, varGroup_eq]

/-! ## All declarations -/

/-- What the declarations up to the end of a file declare, in a number of steps. -/
inductive Decls (l : Listing) : Nat → List Token → List TypeDecl → List Binding → Prop
  | nil : l.Decls 0 [] [] []
  | semicolon {n : Nat} {t : Token} {ts : List Token} {types : List TypeDecl}
    {bindings : List Binding} (kind : t.kind = .semicolon) (below : l.Decls n ts types bindings) :
    l.Decls (n + 1) (t :: ts) types bindings
  | types {n : Nat} {t : Token} {ts after : List Token} {own types : List TypeDecl}
    {bindings : List Binding} (isWord : t.isWord "type" = true)
    (read : l.typeDecl (t :: ts) = .ok (own, after)) (below : l.Decls n after types bindings) :
    l.Decls (n + 1) (t :: ts) (own ++ types) bindings
  | vars {n : Nat} {t : Token} {ts after : List Token} {types : List TypeDecl}
    {own bindings : List Binding} (isWord : t.isWord "var" = true)
    (read : l.varDecl (t :: ts) = .ok (own, after)) (below : l.Decls n after types bindings) :
    l.Decls (n + 1) (t :: ts) types (own ++ bindings)
  | statement {n : Nat} {t : Token} {ts after : List Token} {types : List TypeDecl}
    {bindings : List Binding} (some : t.kind ≠ .semicolon) (noType : ¬ t.isWord "type" = true)
    (noVar : ¬ t.isWord "var" = true) (skipped : l.skipStatement 0 (t :: ts) = .ok after)
    (below : l.Decls n after types bindings) : l.Decls (n + 1) (t :: ts) types bindings

theorem declarations_cons (l : Listing) (fuel : Nat) (t : Token) (rest : List Token) :
    l.declarations (fuel + 1) (t :: rest) =
      if t.kind = .semicolon then l.declarations fuel rest
      else if t.isWord "type" then do
        let (types, tokens) ← l.typeDecl (t :: rest)
        let (moreTypes, bindings) ← l.declarations fuel tokens
        return (types ++ moreTypes, bindings)
      else if t.isWord "var" then do
        let (bindings, tokens) ← l.varDecl (t :: rest)
        let (types, moreBindings) ← l.declarations fuel tokens
        return (types, bindings ++ moreBindings)
      else l.skipStatement 0 (t :: rest) >>= l.declarations fuel := rfl

theorem Decls.of_declarations (h : l.declarations fuel ts = .ok (types, bindings)) :
    ∃ n ≤ fuel, l.Decls n ts types bindings := by
  induction fuel generalizing ts types bindings with
  | zero =>
    cases ts with
    | nil =>
      cases h
      exact ⟨0, Nat.le_refl _, .nil⟩
    | cons t rest => cases h
  | succ fuel ih =>
    cases ts with
    | nil =>
      cases h
      exact ⟨0, Nat.zero_le _, .nil⟩
    | cons t rest =>
      rw [declarations_cons] at h
      split at h
      · next semicolon =>
        obtain ⟨n, enough, below⟩ := ih h
        exact ⟨n + 1, Nat.succ_le_succ enough, .semicolon semicolon below⟩
      next some =>
      split at h
      · next isType =>
        obtain ⟨⟨own, after⟩, read, body⟩ := bind_eq_ok_iff.1 h
        obtain ⟨⟨others, found⟩, below, same⟩ := bind_eq_ok_iff.1 body
        cases same
        obtain ⟨n, enough, below⟩ := ih below
        exact ⟨n + 1, Nat.succ_le_succ enough, .types isType read below⟩
      next noType =>
      split at h
      · next isVar =>
        obtain ⟨⟨own, after⟩, read, body⟩ := bind_eq_ok_iff.1 h
        obtain ⟨⟨found, others⟩, below, same⟩ := bind_eq_ok_iff.1 body
        cases same
        obtain ⟨n, enough, below⟩ := ih below
        exact ⟨n + 1, Nat.succ_le_succ enough, .vars isVar read below⟩
      · next noVar =>
        obtain ⟨after, skipped, below⟩ := bind_eq_ok_iff.1 h
        obtain ⟨n, enough, below⟩ := ih below
        exact ⟨n + 1, Nat.succ_le_succ enough, .statement some noType noVar skipped below⟩

theorem Decls.declarations {n : Nat} (h : l.Decls n ts types bindings) (enough : n ≤ fuel) :
    l.declarations fuel ts = .ok (types, bindings) := by
  induction h generalizing fuel with
  | nil => cases fuel <;> rfl
  | semicolon kind _ ih =>
    obtain ⟨fuel, rfl⟩ := Nat.exists_eq_add_of_le' (Nat.le_of_add_left_le enough)
    rw [declarations_cons, if_pos kind]
    exact ih (Nat.le_of_succ_le_succ enough)
  | types isWord read _ ih =>
    obtain ⟨fuel, rfl⟩ := Nat.exists_eq_add_of_le' (Nat.le_of_add_left_le enough)
    rw [declarations_cons, if_neg (by simp [kind_of_isWord isWord]), if_pos isWord]
    have below := ih (Nat.le_of_succ_le_succ enough)
    exact bind_eq_ok_iff.2 ⟨_, read, bind_eq_ok_iff.2 ⟨_, below, rfl⟩⟩
  | vars isWord read _ ih =>
    obtain ⟨fuel, rfl⟩ := Nat.exists_eq_add_of_le' (Nat.le_of_add_left_le enough)
    rw [declarations_cons, if_neg (by simp [kind_of_isWord isWord]),
      if_neg (not_isWord_of_isWord isWord (by decide)), if_pos isWord]
    have below := ih (Nat.le_of_succ_le_succ enough)
    exact bind_eq_ok_iff.2 ⟨_, read, bind_eq_ok_iff.2 ⟨_, below, rfl⟩⟩
  | statement some noType noVar skipped _ ih =>
    obtain ⟨fuel, rfl⟩ := Nat.exists_eq_add_of_le' (Nat.le_of_add_left_le enough)
    rw [declarations_cons, if_neg some, if_neg noType, if_neg noVar]
    exact bind_eq_ok_iff.2 ⟨_, skipped, ih (Nat.le_of_succ_le_succ enough)⟩

/-- Declarations are read with enough fuel for their steps. -/
theorem declarations_eq_ok_iff :
    l.declarations fuel ts = .ok (types, bindings) ↔
      ∃ n ≤ fuel, l.Decls n ts types bindings :=
  ⟨Decls.of_declarations, fun ⟨_, enough, h⟩ => h.declarations enough⟩

theorem declarations_mono {fuel' : Nat} {found : List TypeDecl × List Binding}
    (enough : fuel ≤ fuel') (h : l.declarations fuel ts = .ok found) :
    l.declarations fuel' ts = .ok found := by
  obtain ⟨n, le, all⟩ := declarations_eq_ok_iff.1 h
  exact declarations_eq_ok_iff.2 ⟨n, Nat.le_trans le enough, all⟩

end EnumText.Listing
