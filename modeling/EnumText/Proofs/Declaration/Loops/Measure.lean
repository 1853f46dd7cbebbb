import EnumText.Proofs.Declaration.Loops.Readers

/-!
# Measures of the loops

Every round of a loop takes a token, or hands over to a loop that does, but for one: a line of a
struct type takes no token where a round or square bracket stands that closes nothing.

* `State.measure`: what is left to do, no more than eight for each token.
* `step_within`: a step leaves less of it, in any other state.
* `exists_ended_or_strands`: so the reader ends soon, or comes to such a bracket.
-/

namespace EnumText

namespace Declaration

/-! ## What is left to do -/

/-- The steps that follow on a run before a token is taken, at most. -/
def Purpose.rank : Purpose → List Token → Nat
  | .line _ _, [] => 1
  | .line _ _, _ :: _ => 4
  | .parameters _, _ => 6
  | .remainder _ _, _ => 6
  | .variableType _ _, _ => 6
  | .values _ _, _ => 6

/-- The steps that follow on the head of a loop before a token is taken, at most. -/
def Loop.rank : Loop → List Token → Nat
  | .semicolons .packageClause, _ => 1
  | .semicolons (.fields _ _), _ => 3
  | .semicolons (.types _ _), _ => 5
  | .semicolons (.bindings _), _ => 5
  | .declarations, [] => 1
  | .declarations, _ :: _ => 3
  | .statement _, _ => 2
  | .run purpose _ taken, _ => purpose.rank taken
  | .fields _ _, _ => 2
  | .names _ _, _ => 7
  | .types _ _, _ => 4
  | .bindings _, _ => 4

/-- A bound of the steps up to the end. -/
def State.measure : State → Nat
  | .head loop _ tokens => 8 * tokens.length + loop.rank tokens
  | .ended _ => 0

/-- The semicolons before a line of a struct type are passed over, and a line begins with a token
that it takes. -/
def State.Proper : State → Prop
  | .head (.fields _ _) _ (t :: _) => t.kind ≠ .semicolon
  | .head (.run (.line _ _) _ []) _ tokens =>
    ∃ t rest, tokens = t :: rest ∧ t.kind ≠ .semicolon ∧ t.kind.isClosing = false
  | _ => True

theorem Purpose.rank_pos (purpose : Purpose) (taken : List Token) : 0 < purpose.rank taken := by
  fun_cases purpose.rank taken <;> omega

theorem Purpose.rank_le (purpose : Purpose) (taken : List Token) : purpose.rank taken ≤ 6 := by
  fun_cases purpose.rank taken <;> omega

theorem Loop.rank_pos (loop : Loop) (ts : List Token) : 0 < loop.rank ts := by
  cases loop with
  | semicolons next => cases next <;> exact Nat.succ_pos _
  | declarations => cases ts <;> exact Nat.succ_pos _
  | run purpose depth taken => exact purpose.rank_pos taken
  | _ => exact Nat.succ_pos _

theorem State.proper_run (purpose : Purpose) {depth : Nat} {taken : List Token} (found : SourceFile)
    (ts : List Token) (some : taken ≠ []) :
    (State.head (.run purpose depth taken) found ts).Proper := by
  cases taken with
  | nil => exact absurd rfl some
  | cons => cases purpose <;> trivial

/-- A proper state with no more than so much left to do. -/
def State.Within (n : Nat) (s : State) : Prop := s.measure ≤ n ∧ s.Proper

theorem State.Within.mono {m n : Nat} {s : State} (h : s.Within m) (le : m ≤ n) : s.Within n :=
  ⟨Nat.le_trans h.1 le, h.2⟩

theorem State.within_ended (n : Nat) (result : Except Fault SourceFile) :
    (State.ended result).Within n :=
  ⟨Nat.zero_le n, trivial⟩

theorem State.within_after {α : Type} {read : Except Fault α} {next : α → State} {n : Nat}
    (h : ∀ a, read = .ok a → (next a).Within n) : (State.after read next).Within n := by
  cases read with
  | ok a => exact h a rfl
  | error fault => exact within_ended n _

theorem State.within_declarations (found : SourceFile) (ts : List Token) :
    (State.head .declarations found ts).Within (8 * ts.length + 3) := by
  cases ts <;> exact ⟨by simp [measure, Loop.rank], trivial⟩

end Declaration

namespace Listing

open Declaration

variable {l : Listing} {found : SourceFile} {ts rest : List Token} {t : Token} {s : State}

/-! ## Between the loops -/

theorem length_skipSemicolon_le (ts : List Token) : (skipSemicolon ts).length ≤ ts.length :=
  (skipSemicolon_suffix ts).length_le

theorem within_afterType (place : TypePlace) (type : TypeDecl) (found : SourceFile)
    (ts : List Token) : (afterType place type found ts).Within (8 * ts.length + 5) := by
  cases place with
  | single => exact (State.within_declarations _ ts).mono (by omega)
  | grouped doc earlier => exact ⟨Nat.le_refl _, trivial⟩

theorem within_afterVariable (place : VariablePlace) (binding : Binding) (found : SourceFile)
    (ts : List Token) : (afterVariable place binding found ts).Within (8 * ts.length + 5) := by
  cases place with
  | single => exact (State.within_declarations _ ts).mono (by omega)
  | grouped earlier => exact ⟨Nat.le_refl _, trivial⟩

theorem length_of_expect {kind : Token.Kind} (h : l.expect kind ts = .ok (t, rest)) :
    ts.length = rest.length + 1 := by
  obtain ⟨rfl, -⟩ := expect_eq_ok_iff.1 h
  rfl

theorem length_of_expectWord {word : String} (h : l.expectWord word ts = .ok (t, rest)) :
    ts.length = rest.length + 1 := by
  obtain ⟨rfl, -⟩ := expectWord_eq_ok_iff.1 h
  rfl

theorem within_typeBody (head : TypeHead) (found : SourceFile) (ts : List Token) :
    (l.typeBody head found ts).Within (8 * ts.length + 6) := by
  have shorter : (afterAssign ts).length ≤ ts.length := (over_afterAssign ts).suffix.length_le
  rw [typeBody]
  dsimp only
  split
  · refine State.within_after fun pair opened => ⟨?_, trivial⟩
    obtain ⟨brace, rest⟩ := pair
    have taken := length_of_expect opened
    have fewer := (List.drop_suffix 1 (afterAssign ts)).length_le
    simp only [State.measure, Loop.rank]
    omega
  · refine ⟨?_, trivial⟩
    simp only [State.measure, Loop.rank, Purpose.rank]
    omega

theorem within_typeStart (place : TypePlace) (doc : List Text) (found : SourceFile)
    (ts : List Token) : (l.typeStart place doc found ts).Within (8 * ts.length) := by
  rw [typeStart]
  refine State.within_after fun pair named => ?_
  obtain ⟨name, rest⟩ := pair
  have taken := length_of_expect named
  dsimp only
  split
  · refine ⟨?_, trivial⟩
    have fewer := (List.drop_suffix 1 rest).length_le
    simp only [State.measure, Loop.rank, Purpose.rank]
    omega
  · exact (within_typeBody _ found rest).mono (by omega)

theorem within_variableStart (place : VariablePlace) (found : SourceFile) (ts : List Token) :
    (l.variableStart place found ts).Within (8 * ts.length) := by
  rw [variableStart]
  refine State.within_after fun pair named => ⟨?_, trivial⟩
  obtain ⟨name, rest⟩ := pair
  have taken := length_of_expect named
  simp only [State.measure, Loop.rank]
  omega

theorem within_afterSemicolons (next : Next) (found : SourceFile)
    (first : ∀ t, ts.head? = some t → t.kind ≠ .semicolon) :
    (l.afterSemicolons next found ts).Within
      ((State.head (.semicolons next) found ts).measure - 1) := by
  cases next with
  | packageClause =>
    refine State.within_after fun pair read => ?_
    obtain ⟨word, rest⟩ := pair
    refine State.within_after fun pair named => ?_
    obtain ⟨name, left⟩ := pair
    have fewer := length_of_expectWord read
    have least := length_of_expect named
    refine (State.within_declarations _ left).mono ?_
    simp only [State.measure, Loop.rank]
    omega
  | fields head fields =>
    refine ⟨Nat.le_refl _, ?_⟩
    cases ts with
    | nil => trivial
    | cons t ts => exact first t rfl
  | types doc earlier => exact ⟨Nat.le_refl _, trivial⟩
  | bindings earlier => exact ⟨Nat.le_refl _, trivial⟩

/-- A run hands over to the next loop: behind a token that was taken, or because there is none. -/
theorem within_afterRun (purpose : Purpose) (taken : List Token) (found : SourceFile)
    (ts : List Token) (some : ∀ head fields, purpose = .line head fields → taken ≠ []) :
    (l.afterRun purpose taken found ts).Within
      ((State.head (.run purpose 0 taken) found ts).measure - 1) := by
  have shorter := length_skipSemicolon_le ts
  cases purpose with
  | parameters head =>
    refine State.within_after fun pair closed => ?_
    obtain ⟨bracket, rest⟩ := pair
    have fewer := length_of_expect closed
    refine (within_typeBody head found rest).mono ?_
    simp only [State.measure, Loop.rank, Purpose.rank]
    omega
  | line head fields =>
    refine State.within_after fun own _ => ⟨?_, trivial⟩
    cases taken with
    | nil => exact absurd rfl (some head fields rfl)
    | cons => exact Nat.le_refl _
  | remainder place type =>
    refine (within_afterType place type found _).mono ?_
    simp only [State.measure, Loop.rank, Purpose.rank]
    omega
  | variableType place names =>
    rw [afterRun]
    split
    · next assigned =>
      refine ⟨?_, trivial⟩
      obtain ⟨t, rest, rfl⟩ : ∃ t rest, ts = t :: rest := by
        cases ts with
        | nil => cases assigned
        | cons t rest => exact ⟨t, rest, rfl⟩
      simp only [State.measure, Loop.rank, Purpose.rank, List.drop_one, List.tail_cons,
        List.length_cons]
      omega
    · refine (within_afterVariable place _ found _).mono ?_
      simp only [State.measure, Loop.rank, Purpose.rank]
      omega
  | values place names =>
    refine (within_afterVariable place _ found _).mono ?_
    simp only [State.measure, Loop.rank, Purpose.rank]
    omega

/-! ## Steps -/

theorem not_stops_line {head : TypeHead} {fields : List Field} (noSemicolon : t.kind ≠ .semicolon)
    (noClosing : t.kind.isClosing = false) :
    ¬ ((Purpose.line head fields).stops.contains t.kind ∨ t.kind.isClosing) := by
  rw [noClosing, Purpose.stops]
  intro stop
  have stop : t.kind = .semicolon ∨ t.kind = .closing .curly := by simpa using stop
  rcases stop with semicolon | curly
  · exact noSemicolon semicolon
  · rw [curly] at noClosing
    cases noClosing

theorem within_declaration (found : SourceFile) (t : Token) (rest : List Token) :
    (l.declaration found t rest).Within (8 * rest.length + 10) := by
  have fewer := (List.drop_suffix 1 rest).length_le
  rw [declaration]
  split
  · exact (State.within_declarations found rest).mono (by omega)
  split
  · split
    · exact ⟨by simp only [State.measure, Loop.rank]; omega, trivial⟩
    · exact (within_typeStart _ _ found rest).mono (by omega)
  split
  · split
    · exact ⟨by simp only [State.measure, Loop.rank]; omega, trivial⟩
    · exact (within_variableStart _ found rest).mono (by omega)
  · exact ⟨by simp only [State.measure, Loop.rank, List.length_cons]; omega, trivial⟩

theorem within_statement (depth : Nat) (found : SourceFile) (ts : List Token) :
    (l.step (.head (.statement depth) found ts)).Within (8 * ts.length + 1) := by
  cases ts with
  | nil =>
    rw [step]
    split
    · exact ⟨Nat.le_refl _, trivial⟩
    · exact State.within_ended _ _
  | cons t rest =>
    have deeper (d : Nat) : (State.head (.statement d) found rest).Within
        (8 * (t :: rest).length + 1) :=
      ⟨by simp only [State.measure, Loop.rank, List.length_cons]; omega, trivial⟩
    rw [step]
    split
    · exact deeper _
    split
    · split
      · exact State.within_ended _ _
      · exact deeper _
    split
    · exact (State.within_declarations found rest).mono (by simp only [List.length_cons]; omega)
    · exact deeper _

theorem within_run (purpose : Purpose) (depth : Nat) (taken : List Token) (found : SourceFile)
    (ts : List Token) (proper : (State.head (.run purpose depth taken) found ts).Proper) :
    (l.step (.head (.run purpose depth taken) found ts)).Within
      ((State.head (.run purpose depth taken) found ts).measure - 1) := by
  cases ts with
  | nil =>
    rw [step]
    split
    · next zero =>
      subst zero
      refine within_afterRun purpose taken found [] fun head fields isLine none => ?_
      subst isLine none
      obtain ⟨_, _, nil, -⟩ := proper
      cases nil
    · exact State.within_ended _ _
  | cons t rest =>
    rw [step]
    split
    · next stop =>
      obtain ⟨rfl, stop⟩ := stop
      refine within_afterRun purpose taken found (t :: rest) fun head fields isLine none => ?_
      subst isLine none
      obtain ⟨_, _, same, inside⟩ := proper
      cases same
      exact not_stops_line inside.1 inside.2 stop
    · have least := purpose.rank_pos taken
      have most := purpose.rank_le (taken ++ [t])
      refine ⟨?_, State.proper_run purpose found rest (by simp)⟩
      simp only [State.measure, Loop.rank, List.length_cons]
      omega

/-- A step leaves less to do, unless a bracket is stranded. -/
theorem step_within (proper : s.Proper) (free : ∀ t, ¬ s.Strands t) :
    (l.step s).Within (s.measure - 1) := by
  rcases s with ⟨loop, found, ts⟩ | result
  swap
  · exact State.within_ended _ _
  cases loop with
  | semicolons next =>
    cases ts with
    | nil => exact within_afterSemicolons next found (by simp)
    | cons t rest =>
      rw [step]
      split
      · refine ⟨?_, trivial⟩
        cases next <;> simp only [State.measure, Loop.rank, List.length_cons] <;> omega
      · next noSemicolon => exact within_afterSemicolons next found (by simpa using noSemicolon)
  | declarations =>
    cases ts with
    | nil => exact State.within_ended _ _
    | cons t rest => exact within_declaration found t rest
  | statement depth => exact within_statement depth found ts
  | run purpose depth taken => exact within_run purpose depth taken found ts proper
  | fields head fields =>
    cases ts with
    | nil => exact State.within_ended _ _
    | cons t rest =>
      rw [step]
      split
      · refine ⟨?_, trivial⟩
        simp only [State.measure, Loop.rank, Purpose.rank, List.length_cons]
        omega
      · next noCurly =>
        -- The line takes the token, which is no stranded bracket.
        refine ⟨Nat.le_refl _, t, rest, rfl, proper, ?_⟩
        have noRound : t.kind ≠ .closing .round := fun kind => free t ⟨.inl kind⟩
        have noSquare : t.kind ≠ .closing .square := fun kind => free t ⟨.inr kind⟩
        cases kind : t.kind with
        | closing b => cases b <;> contradiction
        | _ => rfl
  | names place names =>
    rw [step]
    split
    · refine State.within_after fun pair named => ⟨?_, trivial⟩
      obtain ⟨name, rest⟩ := pair
      have taken := length_of_expect named
      have fewer := (List.drop_suffix 1 ts).length_le
      simp only [State.measure, Loop.rank]
      omega
    · exact ⟨Nat.le_refl _, trivial⟩
  | types doc earlier =>
    rw [step]
    split
    · have fewer := (List.drop_suffix 1 ts).length_le
      refine (State.within_declarations _ _).mono ?_
      simp only [State.measure, Loop.rank]
      omega
    · refine (within_typeStart _ _ found ts).mono ?_
      simp only [State.measure, Loop.rank]
      omega
  | bindings earlier =>
    rw [step]
    split
    · have fewer := (List.drop_suffix 1 ts).length_le
      refine (State.within_declarations _ _).mono ?_
      simp only [State.measure, Loop.rank]
      omega
    · refine (within_variableStart _ found ts).mono ?_
      simp only [State.measure, Loop.rank]
      omega

/-- A reader ends within the steps of its measure, unless it comes to a stranded bracket. -/
theorem exists_ended_or_strands {n : Nat} (h : s.Within n) :
    ∃ m ≤ n, (∃ result, l.step^[m] s = .ended result) ∨ ∃ t, (l.step^[m] s).Strands t := by
  induction n generalizing s with
  | zero =>
    rcases s with ⟨loop, found, ts⟩ | result
    · have least := loop.rank_pos ts
      have most := h.1
      simp only [State.measure] at most
      omega
    · exact ⟨0, Nat.le_refl 0, .inl ⟨result, rfl⟩⟩
  | succ n ih =>
    by_cases free : ∀ t, ¬ s.Strands t
    · have less := (step_within (l := l) h.2 free).mono (Nat.sub_le_of_le_add h.1)
      obtain ⟨m, le, ends⟩ := ih less
      exact ⟨m + 1, Nat.succ_le_succ le, ends⟩
    · obtain ⟨t, strands⟩ := not_forall_not.1 free
      exact ⟨0, Nat.zero_le _, .inr ⟨t, strands⟩⟩

end Listing

end EnumText
