import EnumText.Proofs.Declaration.Loops.Measure

/-!
# The one way to go on forever

Where a line of a struct type is to begin with a round or square bracket that closes nothing, the
loops go round in the same place. Everywhere else the reader ends soon.

* `step_round`, `Round.iterate`: three steps lead back, and no step leads out.
* `ofListing?_of_ended`, `ofListing?_of_strands`: what a walk comes to is the answer of the reader.
* `SourceFile.walk_ends_or_goes_round`: a walk ends within eight steps for each token, or goes
  round from there on.
-/

namespace EnumText

namespace Listing

open Declaration

variable {l : Listing} {found : SourceFile} {ts rest : List Token} {t : Token} {s : State}

/-! ## The round -/

/-- The loops that a line without a token goes through. -/
inductive Round (head : TypeHead) (fields : List Field) (found : SourceFile) (ts : List Token) :
    State → Prop
  | fields : Round head fields found ts (.head (.fields head fields) found ts)
  | line : Round head fields found ts (.head (.run (.line head fields) 0 []) found ts)
  | semicolons : Round head fields found ts (.head (.semicolons (.fields head fields)) found ts)

variable {head : TypeHead} {fields : List Field}

theorem step_fields (closes : t.kind = .closing .round ∨ t.kind = .closing .square) :
    l.step (.head (.fields head fields) found (t :: rest)) =
      .head (.run (.line head fields) 0 []) found (t :: rest) := by
  rw [step, if_neg]
  rcases closes with kind | kind <;> simp [kind]

theorem step_line (closes : t.kind = .closing .round ∨ t.kind = .closing .square) :
    l.step (.head (.run (.line head fields) 0 []) found (t :: rest)) =
      .head (.semicolons (.fields head fields)) found (t :: rest) := by
  have closing : t.kind.isClosing = true := by
    rcases closes with kind | kind <;> rw [kind] <;> rfl
  rw [step, if_pos ⟨rfl, .inr closing⟩, afterRun]
  exact congrArg (fun fields => State.head (.semicolons (.fields head fields)) found (t :: rest))
    (List.append_nil fields)

theorem step_semicolons (closes : t.kind = .closing .round ∨ t.kind = .closing .square) :
    l.step (.head (.semicolons (.fields head fields)) found (t :: rest)) =
      .head (.fields head fields) found (t :: rest) := by
  rw [step, if_neg, afterSemicolons]
  rcases closes with kind | kind <;> simp [kind]

/-- Three steps lead back. -/
theorem step_round (closes : t.kind = .closing .round ∨ t.kind = .closing .square) :
    l.step^[3] (.head (.fields head fields) found (t :: rest)) =
      .head (.fields head fields) found (t :: rest) := by
  rw [Function.iterate_succ_apply, step_fields closes, Function.iterate_succ_apply,
    step_line closes, Function.iterate_succ_apply, step_semicolons closes,
    Function.iterate_zero_apply]

/-- No step leads out. -/
theorem Round.iterate (closes : t.kind = .closing .round ∨ t.kind = .closing .square)
    (h : Round head fields found (t :: rest) s) (n : Nat) :
    Round head fields found (t :: rest) (l.step^[n] s) := by
  induction n generalizing s with
  | zero => exact h
  | succ n ih =>
    rw [Function.iterate_succ_apply]
    refine ih ?_
    cases h with
    | fields => exact step_fields (l := l) closes ▸ .line
    | line => exact step_line (l := l) closes ▸ .semicolons
    | semicolons => exact step_semicolons (l := l) closes ▸ .fields

/-! ## Walks -/

theorem walk_add (l : Listing) (n m : Nat) : l.walk (n + m) = l.step^[m] (l.walk n) := by
  rw [Nat.add_comm, walk, Function.iterate_add_apply, walk]

theorem walk_eq_of_ended {result : Except Fault SourceFile} {n : Nat}
    (h : l.walk n = .ended result) (m : Nat) : l.walk (n + m) = .ended result := by
  rw [walk_add, h, step_iterate_ended]

/-- A walk has one end. -/
theorem ended_unique {first second : Except Fault SourceFile} {n m : Nat}
    (h : l.walk n = .ended first) (h' : l.walk m = .ended second) : first = second := by
  have early := walk_eq_of_ended h m
  have late := walk_eq_of_ended h' n
  rw [Nat.add_comm, early] at late
  cases late
  rfl

theorem round_of_strands {n : Nat} (h : (l.walk n).Strands t) (m : Nat) :
    ∃ head fields found rest, Round head fields found (t :: rest) (l.walk (n + m)) := by
  rw [walk_add]
  revert h
  generalize l.walk n = s
  intro h
  cases h with
  | mk closes => exact ⟨_, _, _, _, Round.iterate closes .fields m⟩

/-- A walk that comes to a stranded bracket has no end. -/
theorem not_ended_of_strands {result : Except Fault SourceFile} {n m : Nat}
    (h : (l.walk n).Strands t) : l.walk m ≠ .ended result := by
  intro ended
  obtain ⟨head, fields, found, rest, round⟩ := round_of_strands h m
  rw [Nat.add_comm, walk_eq_of_ended ended n] at round
  cases round

/-- A walk comes to one stranded bracket only. -/
theorem strands_unique {u : Token} {n m : Nat} (h : (l.walk n).Strands t)
    (h' : (l.walk m).Strands u) : t = u := by
  obtain ⟨head, fields, found, rest, round⟩ := round_of_strands h m
  obtain ⟨head', fields', found', rest', round'⟩ := round_of_strands h' n
  rw [Nat.add_comm m n] at round'
  generalize l.walk (n + m) = s at round round'
  cases round with
  | fields => cases round' with | fields => rfl
  | line => cases round' with | line => rfl
  | semicolons => cases round' with | semicolons => rfl

/-- The end of a walk is the answer of the reader. -/
theorem ofListing?_of_ended {result : Except Fault SourceFile} {n : Nat}
    (h : l.walk n = .ended result) :
    SourceFile.ofListing? l = result ∧ ∀ fault, result = .error fault →
      fault.cause ≠ .strandedBracket := by
  have answers := answers_ofListing? l
  cases read : SourceFile.ofListing? l with
  | ok f =>
    rw [read] at answers
    obtain ⟨m, ended⟩ := answers
    obtain rfl := ended_unique ended h
    exact ⟨rfl, nofun⟩
  | error fault =>
    rw [read] at answers
    cases answers with
    | ended cause leads =>
      obtain ⟨m, ended⟩ := leads
      obtain rfl := ended_unique ended h
      exact ⟨rfl, fun _ same => Except.error.inj same ▸ cause⟩
    | stranded _ leads strands =>
      obtain ⟨m, rfl⟩ := leads
      exact absurd h (not_ended_of_strands strands)

/-- The answer is the stranded bracket that a walk comes to. -/
theorem ofListing?_of_strands {n : Nat} (h : (l.walk n).Strands t) :
    SourceFile.ofListing? l = .error ⟨t, .strandedBracket⟩ := by
  have answers := answers_ofListing? l
  cases read : SourceFile.ofListing? l with
  | ok f =>
    rw [read] at answers
    obtain ⟨m, ended⟩ := answers
    exact absurd ended (not_ended_of_strands h)
  | error fault =>
    rw [read] at answers
    cases answers with
    | ended _ leads =>
      obtain ⟨m, ended⟩ := leads
      exact absurd ended (not_ended_of_strands h)
    | stranded cause leads strands =>
      obtain ⟨m, rfl⟩ := leads
      rw [strands_unique h strands, ← cause]

theorem exists_walk_ended_or_strands (l : Listing) :
    ∃ n ≤ 8 * l.allTokens.length,
      (∃ result, l.walk n = .ended result) ∨ ∃ t, (l.walk n).Strands t := by
  refine exists_ended_or_strands ⟨?_, trivial⟩
  simp only [State.measure, Loop.rank, allTokens, List.length_append, List.length_singleton]
  omega

end Listing

namespace SourceFile

open Declaration Listing

/-- Reading the tokens of a text comes to an end within eight steps for each token, with what the
file declares or why it is not read; or it comes, as soon, to a round or square bracket where a line
of a struct type is to begin. From there it goes round, with no token passed over and no field
found. -/
theorem walk_ends_or_goes_round {source : Text} {l : Listing}
    (listed : Listing.ofText? source = .ok l) (file : Path) :
    ∃ n ≤ 8 * l.allTokens.length,
      (∃ f, l.walk n = .ended (.ok f) ∧ ofText? file source = .ok f) ∨
      (∃ token cause, cause ≠ .strandedBracket ∧ l.walk n = .ended (.error ⟨token, cause⟩) ∧
        ofText? file source =
          .error ⟨Site.inText file source token.line token.column, .grammatical cause⟩) ∨
      ∃ head fields found t rest, (t.kind = .closing .round ∨ t.kind = .closing .square) ∧
        l.walk n = .head (.fields head fields) found (t :: rest) ∧
        ofListing? l = .error ⟨t, .strandedBracket⟩ ∧
        (∀ m, l.walk (n + 3 * m) = l.walk n) ∧
        ∀ m, Round head fields found (t :: rest) (l.walk (n + m)) := by
  obtain ⟨n, few, ⟨result, ended⟩ | ⟨t, strands⟩⟩ := l.exists_walk_ended_or_strands
  · obtain ⟨answer, other⟩ := ofListing?_of_ended ended
    have listing : ofFile? file source = .ok l := by rw [ofFile?, listed]
    cases result with
    | ok f => exact ⟨n, few, .inl ⟨f, ended, by rw [ofText?, listing]; simp only [answer]⟩⟩
    | error fault =>
      exact ⟨n, few, .inr (.inl ⟨fault.token, fault.cause, other _ rfl, ended,
        by rw [ofText?, listing]; simp only [answer]⟩)⟩
  · have answer := ofListing?_of_strands strands
    generalize same : l.walk n = s at strands
    cases strands with
    | mk closes =>
      refine ⟨n, few, .inr (.inr ⟨_, _, _, t, _, closes, same, answer, fun m => ?_, fun m => ?_⟩)⟩
      · rw [walk_add, same, Function.iterate_mul]
        exact Function.iterate_fixed (step_round closes) m
      · rw [walk_add, same]
        exact Round.iterate closes .fields m

/-- A struct type in which a bracket is closed that is not open. -/
def stray : Text := text "package p\ntype T struct \x7b\n\ta, b int\n\t)\n\x7d\n"

theorem walk_ends_or_goes_round_stray :
    ∃ l, Listing.ofText? stray = .ok l ∧ l.allTokens.length = 17 ∧
      ∃ n ≤ 136, ∃ head fields found t rest, t.kind = .closing .round ∧ t.line = 4 ∧
        l.walk n = .head (.fields head fields) found (t :: rest) ∧
        ∀ m, Round head fields found (t :: rest) (l.walk (n + m)) := by
  obtain ⟨l, listed, shown⟩ := exists_ok_of_any (x := Listing.ofText? stray)
    (p := fun l => decide (l.allTokens.length = 17 ∧ ofListing? l =
      .error ⟨⟨.closing .round, text ")", 4, 2, 37, 38⟩, .strandedBracket⟩)) (by decide)
  obtain ⟨count, answer⟩ := of_decide_eq_true shown
  have refused : ofText? .here stray =
      .error ⟨Site.inText .here stray 4 2, .grammatical .strandedBracket⟩ := by
    rw [ofText?, ofFile?, listed]
    simp only [answer]
  obtain ⟨n, few, ended | stopped | around⟩ := walk_ends_or_goes_round listed .here
  · obtain ⟨f, -, read⟩ := ended
    rw [refused] at read
    cases read
  · obtain ⟨token, cause, other, -, read⟩ := stopped
    rw [refused] at read
    simp only [Except.error.injEq, SyntaxError.mk.injEq,
      SyntaxError.Cause.grammatical.injEq] at read
    exact absurd read.2.symm other
  · obtain ⟨head, fields, found, t, rest, -, there, stranded, -, stays⟩ := around
    rw [answer] at stranded
    cases stranded
    exact ⟨l, listed, count, n, by omega, head, fields, found, _, rest, rfl, rfl, there, stays⟩

end SourceFile

end EnumText
