import EnumText.Declaration.Variables

/-!
# Tokens between brackets

`openAfter stops depth kinds` is the number of open brackets after tokens of some kinds, which close
no bracket that is not open and have none of the stops outside of brackets. Each reader passes over
such tokens as a whole.

* `collect_openAfter`, `skipStatement_openAfter`: they belong to what is read.
* `closesAtEnd_openAfter`, `piecesFrom_openAfter`: they do not end a literal, nor split it.
* `openAfter_eq_some_iff`: what that means in terms of the brackets before each token.
-/

namespace EnumText.Declaration

/-- The number of open brackets after tokens of some kinds, if they close only open brackets and no
stop stands outside of brackets. -/
def openAfter (stops : List Token.Kind) : Nat → List Token.Kind → Option Nat
  | depth, [] => some depth
  | depth, k :: ks =>
    if depth = 0 ∧ (k ∈ stops ∨ k.isClosing) then none
    else if k.isOpening then openAfter stops (depth + 1) ks
    else if k.isClosing then openAfter stops (depth - 1) ks
    else openAfter stops depth ks

/-- How one token changes the number of open brackets. -/
inductive Passes (stops : List Token.Kind) : Nat → Token.Kind → Nat → Prop
  | opening {depth : Nat} {k : Token.Kind} (opens : k.isOpening = true)
    (closes : k.isClosing = false) (free : depth ≠ 0 ∨ k ∉ stops) :
    Passes stops depth k (depth + 1)
  | closing {depth : Nat} {k : Token.Kind} (opens : k.isOpening = false)
    (closes : k.isClosing = true) : Passes stops (depth + 1) k depth
  | other {depth : Nat} {k : Token.Kind} (opens : k.isOpening = false)
    (closes : k.isClosing = false) (free : depth ≠ 0 ∨ k ∉ stops) : Passes stops depth k depth

/-- Whatever stops a reader outside of brackets is a stop of the tokens too, or stands in brackets
there. -/
def Covers (inner stops : List Token.Kind) (depth : Nat) : Prop :=
  depth ≠ 0 ∨ ∀ k ∈ stops, k ∈ inner

variable {inner stops : List Token.Kind} {depth e m n : Nat} {k : Token.Kind}
variable {ks : List Token.Kind} {t : Token} {ts : List Token}

theorem isClosing_of_isOpening (h : k.isOpening = true) : k.isClosing = false := by
  cases k with
  | opening => rfl
  | _ => cases h

theorem Passes.free (h : Passes stops e k n) : ¬ (e = 0 ∧ (k ∈ stops ∨ k.isClosing)) := by
  intro h
  rcases h with ⟨rfl, stop⟩
  generalize zero : 0 = e at h
  cases h with
  | closing => cases zero
  | opening opens closes free | other opens closes free =>
    have out := free.resolve_left fun deep => deep zero.symm
    exact stop.elim out (by simp [closes])

/-- Tokens are counted one after the other. -/
theorem openAfter_cons (pass : Passes stops e k n) :
    openAfter stops e (k :: ks) = openAfter stops n ks := by
  rw [openAfter, if_neg pass.free]
  cases pass with
  | opening opens => rw [if_pos opens]
  | closing opens closes =>
    rw [if_neg (by simp [opens]), if_pos closes, Nat.add_sub_cancel]
  | other opens closes => rw [if_neg (by simp [opens]), if_neg (by simp [closes])]

theorem exists_passes_of_free (free : ¬ (e = 0 ∧ (k ∈ stops ∨ k.isClosing))) :
    ∃ n, Passes stops e k n := by
  have inside : e ≠ 0 ∨ k ∉ stops := by
    by_cases zero : e = 0
    · exact .inr fun mem => free ⟨zero, .inl mem⟩
    · exact .inl zero
  cases opens : k.isOpening with
  | true => exact ⟨_, .opening opens (isClosing_of_isOpening opens) inside⟩
  | false =>
    cases closes : k.isClosing with
    | true =>
      have positive : e ≠ 0 := fun zero => free ⟨zero, .inr closes⟩
      rcases Nat.exists_eq_succ_of_ne_zero positive with ⟨d, rfl⟩
      exact ⟨_, .closing opens closes⟩
    | false => exact ⟨_, .other opens closes inside⟩

theorem exists_passes (h : openAfter stops e (k :: ks) = some m) :
    ∃ n, Passes stops e k n ∧ openAfter stops n ks = some m := by
  have free : ¬ (e = 0 ∧ (k ∈ stops ∨ k.isClosing)) := by
    intro stop
    rw [openAfter, if_pos stop] at h
    cases h
  rcases exists_passes_of_free free with ⟨n, pass⟩
  rw [openAfter_cons pass] at h
  exact ⟨n, pass, h⟩

theorem openAfter_append (h : openAfter stops e ks = some m) (more : List Token.Kind) :
    openAfter stops e (ks ++ more) = openAfter stops m more := by
  induction ks generalizing e with
  | nil =>
    cases h
    rfl
  | cons k ks ih =>
    rcases exists_passes h with ⟨n, pass, below⟩
    rw [List.cons_append, openAfter_cons pass, ih below]

theorem exists_openAfter {more : List Token.Kind} (h : openAfter stops e (ks ++ more) = some m) :
    ∃ n, openAfter stops e ks = some n ∧ openAfter stops n more = some m := by
  induction ks generalizing e with
  | nil => exact ⟨e, rfl, h⟩
  | cons k ks ih =>
    rcases exists_passes h with ⟨n, pass, below⟩
    rw [openAfter_cons pass]
    exact ih below

theorem Passes.cover (h : Passes inner e k n) (cover : Covers inner stops depth) :
    Passes stops (depth + e) k (depth + n) := by
  have outside (free : e ≠ 0 ∨ k ∉ inner) : depth + e ≠ 0 ∨ k ∉ stops := by
    rcases cover with deep | sub
    · exact .inl (by omega)
    · exact free.imp (fun h => by omega) fun h mem => h (sub k mem)
  cases h with
  | opening opens closes free => exact .opening opens closes (outside free)
  | closing opens closes => exact .closing opens closes
  | other opens closes free => exact .other opens closes (outside free)

/-- Tokens between brackets of their own stand between other brackets too. -/
theorem openAfter_cover (h : openAfter inner e ks = some m) (cover : Covers inner stops depth) :
    openAfter stops (depth + e) ks = some (depth + m) := by
  induction ks generalizing e with
  | nil =>
    cases h
    rfl
  | cons k ks ih =>
    rcases exists_passes h with ⟨n, pass, below⟩
    rw [openAfter_cons (pass.cover cover), ih below]

/-- A semicolon that stands only inside of brackets stands neither first nor last. -/
theorem kind_ne_semicolon (apart : openAfter stops 0 (ts.map (·.kind)) = some 0)
    (stop : .semicolon ∈ stops) (outer : t ∈ ts.head? ∨ t ∈ ts.getLast?) :
    t.kind ≠ .semicolon := by
  intro semicolon
  rcases outer with first | last
  · rcases List.head?_eq_some_iff.1 first with ⟨rest, rfl⟩
    obtain ⟨n, (pass : Passes stops 0 t.kind n), -⟩ := exists_passes apart
    rw [semicolon] at pass
    exact pass.free ⟨rfl, .inl stop⟩
  · rcases List.getLast?_eq_some_iff.1 last with ⟨init, rfl⟩
    rw [List.map_append] at apart
    rcases exists_openAfter apart with ⟨m, -, final⟩
    obtain ⟨n, (pass : Passes stops m t.kind n), none_left⟩ := exists_passes final
    obtain rfl : n = 0 := Option.some.inj none_left
    rw [semicolon] at pass
    cases pass with
    | closing opens closes => cases closes
    | other opens closes free => exact free.elim (fun deep => deep rfl) fun out => out stop

/-- A token that is no bracket leaves the number of open brackets as it is. -/
theorem Passes.eq_of_plain (pass : Passes stops e k n) (opens : k.isOpening = false)
    (closes : k.isClosing = false) : n = e := by
  cases pass with
  | opening opening =>
    rw [opens] at opening
    cases opening
  | closing _ closing =>
    rw [closes] at closing
    cases closing
  | other => rfl

theorem openAfter_of_plain (h : openAfter stops e (k :: ks) = some m) (opens : k.isOpening = false)
    (closes : k.isClosing = false) : openAfter stops e ks = some m := by
  obtain ⟨n, pass, below⟩ := exists_passes h
  rwa [← pass.eq_of_plain opens closes]

theorem openAfter_of_concat_plain (h : openAfter stops e (ks ++ [k]) = some m)
    (opens : k.isOpening = false) (closes : k.isClosing = false) :
    openAfter stops e ks = some m := by
  obtain ⟨n, before, last⟩ := exists_openAfter h
  exact before.trans (openAfter_of_plain last opens closes)

/-- A closing bracket that is not open is a stop anyway. -/
theorem openAfter_closing (h : openAfter stops e ks = some m) (b : Bracket) :
    openAfter (stops ++ [.closing b]) e ks = some m := by
  induction ks generalizing e with
  | nil => exact h
  | cons k ks ih =>
    rcases exists_passes h with ⟨n, pass, below⟩
    have inside (closes : k.isClosing = false) (free : e ≠ 0 ∨ k ∉ stops) :
        e ≠ 0 ∨ k ∉ stops ++ [.closing b] := by
      refine free.imp_right fun out mem => ?_
      rcases List.mem_append.1 mem with mem | mem
      · exact out mem
      · rw [List.mem_singleton.1 mem] at closes
        cases closes
    have pass : Passes (stops ++ [.closing b]) e k n := by
      cases pass with
      | opening opens closes free => exact .opening opens closes (inside closes free)
      | closing opens closes => exact .closing opens closes
      | other opens closes free => exact .other opens closes (inside closes free)
    rw [openAfter_cons pass, ih below]

/-- A token that is passed over changes the number of open brackets as it is counted. -/
theorem depthChange_of_passes (pass : Passes stops e t.kind n) : (e : Int) + depthChange t = n := by
  unfold depthChange
  cases pass with
  | opening opens => rw [if_pos opens]; rfl
  | closing opens closes => rw [if_neg (by simp [opens]), if_pos closes]; omega
  | other opens closes => rw [if_neg (by simp [opens]), if_neg (by simp [closes])]; omega

/-! ## Readers -/

theorem collect_openAfter (l : Listing) (h : openAfter stops e (ts.map (·.kind)) = some m)
    (rest : List Token) :
    l.collect stops e (ts ++ rest) =
      (l.collect stops m rest).map fun taken => (ts ++ taken.1, taken.2) := by
  induction ts generalizing e with
  | nil =>
    obtain rfl := Option.some.inj h
    rw [List.nil_append]
    cases l.collect stops e rest <;> rfl
  | cons t ts ih =>
    obtain ⟨n, (pass : Passes _ e t.kind n), below⟩ := exists_passes h
    have depth :
        (if t.kind.isOpening then e + 1 else if t.kind.isClosing then e - 1 else e) = n := by
      cases pass with
      | opening opens => rw [if_pos opens]
      | closing opens closes => rw [if_neg (by simp [opens]), if_pos closes, Nat.add_sub_cancel]
      | other opens closes => rw [if_neg (by simp [opens]), if_neg (by simp [closes])]
    rw [List.cons_append, Listing.collect,
      if_neg (by simpa only [List.contains_iff_mem] using pass.free)]
    dsimp only
    rw [depth, ih below]
    cases l.collect stops m rest <;> rfl

/-- Balanced tokens are a run, if a stop or a closing bracket stands after them, or nothing. -/
theorem collect_of_balanced (l : Listing) (balanced : openAfter stops e (ts.map (·.kind)) = some 0)
    (rest : List Token) (ends : ∀ t ∈ rest.head?, t.kind ∈ stops ∨ t.kind.isClosing) :
    l.collect stops e (ts ++ rest) = .ok (ts, rest) := by
  have ended : l.collect stops 0 rest = .ok ([], rest) := by
    cases rest with
    | nil => rfl
    | cons t rest =>
      have stop := (ends t rfl).imp_left List.contains_iff_mem.2
      rw [Listing.collect, if_pos ⟨rfl, stop⟩]
  rw [collect_openAfter l balanced, ended, Except.map, List.append_nil]

/-- Tokens between brackets are a run up to a stop. -/
theorem collect_of_apart (l : Listing) (apart : openAfter stops 0 (ts.map (·.kind)) = some 0)
    (rest : List Token) (ends : ∀ t ∈ rest.head?, t.kind ∈ stops) :
    l.collect stops 0 (ts ++ rest) = .ok (ts, rest) :=
  collect_of_balanced l apart rest fun t first => .inl (ends t first)

theorem skipStatement_openAfter (l : Listing)
    (h : openAfter [.semicolon] e (ts.map (·.kind)) = some m) (rest : List Token) :
    l.skipStatement e (ts ++ rest) = l.skipStatement m rest := by
  induction ts generalizing e with
  | nil =>
    obtain rfl := Option.some.inj h
    rfl
  | cons t ts ih =>
    obtain ⟨n, (pass : Passes _ e t.kind n), below⟩ := exists_passes h
    rw [List.cons_append, Listing.skipStatement, ← ih below]
    have free := pass.free
    cases pass with
    | opening opens => rw [if_pos opens]
    | closing opens closes =>
      rw [if_neg (by simp [opens]), if_pos closes, if_neg (Nat.succ_ne_zero _),
        Nat.add_sub_cancel]
    | other opens closes =>
      rw [if_neg (by simp [opens]), if_neg (by simp [closes]), if_neg]
      intro stop
      exact free ⟨stop.2, .inl (by simp [stop.1])⟩

/-- Brackets that are open before tokens are not closed by them. -/
theorem closesAtEnd_openAfter (h : openAfter stops e (ts.map (·.kind)) = some m)
    (rest : List Token) : closesAtEnd (e + 1) (ts ++ rest) = closesAtEnd (m + 1) rest := by
  induction ts generalizing e with
  | nil =>
    obtain rfl := Option.some.inj h
    rfl
  | cons t ts ih =>
    obtain ⟨n, (pass : Passes _ e t.kind n), below⟩ := exists_passes h
    rw [List.cons_append, closesAtEnd, ← ih below]
    cases pass with
    | opening opens => rw [if_pos opens]
    | closing opens closes =>
      rw [if_neg (by simp [opens]), if_pos closes, if_neg (by omega), Nat.add_sub_cancel]
    | other opens closes => rw [if_neg (by simp [opens]), if_neg (by simp [closes])]

theorem piecesFrom_ne_nil (separator : Token.Kind) (d : Int) (ts : List Token) :
    piecesFrom separator d ts ≠ [] := by
  cases ts with
  | nil => exact List.cons_ne_nil _ _
  | cons t ts =>
    rw [piecesFrom]
    split <;> exact List.cons_ne_nil _ _

/-- Tokens in which no comma stands outside of brackets are one piece. -/
theorem piecesFrom_openAfter (h : openAfter stops e (ts.map (·.kind)) = some m)
    (stop : .comma ∈ stops) (rest : List Token) :
    piecesFrom .comma e (ts ++ rest) =
      (ts ++ (piecesFrom .comma m rest).headD []) :: (piecesFrom .comma m rest).tail := by
  induction ts generalizing e with
  | nil =>
    obtain rfl := Option.some.inj h
    cases pieces : piecesFrom .comma e rest with
    | nil => exact absurd pieces (piecesFrom_ne_nil _ _ _)
    | cons piece more => rw [List.nil_append, pieces]; rfl
  | cons t ts ih =>
    obtain ⟨n, (pass : Passes _ e t.kind n), below⟩ := exists_passes h
    have depth := depthChange_of_passes pass
    have whole : ¬ (t.kind = .comma ∧ (n : Int) = 0) := by
      intro h
      rcases h with ⟨comma, zero⟩
      have free := pass.free
      rw [comma] at pass free
      cases pass with
      | opening opens => cases opens
      | closing opens closes => cases closes
      | other => exact free ⟨Int.ofNat_eq_zero.1 zero, .inl stop⟩
    rw [List.cons_append, piecesFrom, depth, if_neg whole, ih below]
    rfl

/-! ## Prefixes -/

/-- How many more brackets tokens open than they close. -/
def openBrackets : List Token → Int
  | [] => 0
  | t :: ts => depthChange t + openBrackets ts

theorem counts_of_openAfter (h : openAfter stops e (ts.map (·.kind)) = some m) :
    (∀ n, 0 ≤ e + openBrackets (ts.take n)) ∧ e + openBrackets ts = m ∧
      ∀ before t after, ts = before ++ t :: after → e + openBrackets before = 0 →
        t.kind ∉ stops := by
  induction ts generalizing e with
  | nil =>
    obtain rfl : e = m := Option.some.inj h
    have none_open : openBrackets [] = 0 := rfl
    simp [none_open]
  | cons t ts ih =>
    obtain ⟨n, (pass : Passes stops e t.kind n), below⟩ := exists_passes h
    obtain ⟨nonneg, total, inside⟩ := ih below
    have change := depthChange_of_passes pass
    refine ⟨fun k => ?_, ?_, fun before u after same zero => ?_⟩
    · cases k with
      | zero => exact Int.natCast_nonneg e
      | succ k =>
        rw [List.take_succ_cons, openBrackets]
        have nonneg := nonneg k
        omega
    · rw [openBrackets]
      omega
    · cases before with
      | nil =>
        obtain ⟨rfl, rfl⟩ := List.cons.inj same
        have none_open : openBrackets [] = 0 := rfl
        exact fun mem => pass.free ⟨by omega, .inl mem⟩
      | cons v before =>
        obtain ⟨rfl, rfl⟩ := List.cons.inj same
        rw [openBrackets] at zero
        exact inside before u after rfl (by omega)

/-- A token that closes no bracket but an open one, and is no stop outside of brackets. -/
theorem exists_passes_of_counts (nonneg : 0 ≤ e + depthChange t)
    (inside : (e : Int) = 0 → t.kind ∉ stops) : ∃ n, Passes stops e t.kind n := by
  apply exists_passes_of_free
  intro h
  obtain ⟨rfl, stop | closes⟩ := h
  · exact inside rfl stop
  · have opens : ¬ t.kind.isOpening := fun opens => by
      rw [isClosing_of_isOpening opens] at closes
      cases closes
    rw [depthChange, if_neg opens, if_pos closes] at nonneg
    omega

theorem openAfter_of_counts (nonneg : ∀ n, 0 ≤ e + openBrackets (ts.take n))
    (total : e + openBrackets ts = m)
    (inside : ∀ before t after, ts = before ++ t :: after → e + openBrackets before = 0 →
      t.kind ∉ stops) : openAfter stops e (ts.map (·.kind)) = some m := by
  have none_open : openBrackets [] = 0 := rfl
  induction ts generalizing e with
  | nil =>
    obtain rfl : e = m := by omega
    rfl
  | cons t ts ih =>
    have first : (0 : Int) ≤ e + depthChange t := by
      have nonneg := nonneg 1
      rw [List.take_succ_cons, List.take_zero, openBrackets] at nonneg
      omega
    obtain ⟨n, pass⟩ := exists_passes_of_counts first fun zero => inside [] t ts rfl (by omega)
    have change := depthChange_of_passes pass
    rw [List.map_cons, openAfter_cons pass]
    refine ih (fun k => ?_) ?_ fun before u after same zero => ?_
    · have nonneg := nonneg (k + 1)
      rw [List.take_succ_cons, openBrackets] at nonneg
      omega
    · rw [openBrackets] at total
      omega
    · apply inside (t :: before) u after (by rw [same]; rfl)
      rw [openBrackets]
      omega

/-- Brackets are only closed where they are open if and only if no prefix closes more than it
opens. -/
theorem openAfter_eq_some_iff :
    openAfter stops e (ts.map (·.kind)) = some m ↔
      (∀ n, 0 ≤ e + openBrackets (ts.take n)) ∧ e + openBrackets ts = m ∧
        ∀ before t after, ts = before ++ t :: after → e + openBrackets before = 0 →
          t.kind ∉ stops := by
  constructor
  · exact counts_of_openAfter
  · intro h
    obtain ⟨nonneg, total, inside⟩ := h
    exact openAfter_of_counts nonneg total inside

end EnumText.Declaration
