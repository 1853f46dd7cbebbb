import EnumText.Proofs.Declaration.Spans
import EnumText.Proofs.Listing.Tiling

/-!
# Balanced runs

A reader that collects tokens takes the longest balanced run from where it stands. Brackets are
counted here along the tokens alone, so that the runs are told without the reader.

* `collect_eq_ok_iff`: a run is what is balanced and ends before a stop or an unopened bracket.
* `collect_eq_error_iff`: there is none exactly if the end of the file leaves brackets open.
* `leftAt`: what a reader sees at a position of a list that ends with the end of the file.
* `collect_maximal`: the run from each position, and the position after it.
-/

namespace EnumText.Listing

open Declaration

/-- Nothing in a run breaks it off: each closing bracket has an opening one before it, and no stop
stands outside of brackets. -/
structure Unbroken (stops : List Token.Kind) (run : List Token) : Prop where
  nonneg : ∀ n, 0 ≤ openBrackets (run.take n)
  inside : ∀ before t after, run = before ++ t :: after → openBrackets before = 0 →
    t.kind ∉ stops

variable {l : Listing} {stops : List Token.Kind} {fault : Fault} {t eof : Token}
variable {ts run rest tokens left behind : List Token} {d m n start : Nat}

theorem openAfter_zero_eq_some_iff :
    openAfter stops 0 (ts.map (·.kind)) = some m ↔ Unbroken stops ts ∧ openBrackets ts = m := by
  rw [openAfter_eq_some_iff]
  simp only [Int.natCast_zero, Int.zero_add]
  constructor
  · intro h
    obtain ⟨nonneg, total, inside⟩ := h
    exact ⟨⟨nonneg, inside⟩, total⟩
  · intro h
    obtain ⟨⟨nonneg, inside⟩, total⟩ := h
    exact ⟨nonneg, total, inside⟩

/-! ## Runs that end -/

/-- What a run leaves begins with what ends it. -/
theorem ends_of_collect (h : l.collect stops d ts = .ok (run, rest)) :
    ∀ t ∈ rest.head?, t.kind ∈ stops ∨ t.kind.isClosing := by
  induction ts generalizing d run with
  | nil =>
    cases (collect_nil_eq_ok_iff.1 h).2
    intro t first
    cases first
  | cons u ts ih =>
    rw [collect_cons_eq_ok_iff] at h
    split at h
    · next stop =>
      obtain ⟨-, rfl⟩ := h
      intro t first
      obtain rfl : u = t := Option.some.inj first
      exact stop.2.imp_left List.contains_iff_mem.1
    · obtain ⟨inner, below, -⟩ := h
      exact ih below

/-- A run is collected exactly if it is balanced, no stop stands in it outside of brackets, and the
tokens end after it or go on with a stop or a closing bracket. -/
theorem collect_eq_ok_iff :
    l.collect stops 0 ts = .ok (run, rest) ↔
      ts = run ++ rest ∧ Unbroken stops run ∧ openBrackets run = 0 ∧
        ∀ t ∈ rest.head?, t.kind ∈ stops ∨ t.kind.isClosing := by
  constructor
  · intro h
    obtain ⟨unbroken, total⟩ := openAfter_zero_eq_some_iff.1 (openAfter_of_collect h)
    exact ⟨collect_append h, unbroken, total, ends_of_collect h⟩
  · intro h
    obtain ⟨rfl, unbroken, total, ends⟩ := h
    exact collect_of_balanced l (openAfter_zero_eq_some_iff.2 ⟨unbroken, total⟩) rest ends

/-! ## Runs that do not -/

theorem open_of_collect (h : l.collect stops d ts = .error fault) :
    fault = ⟨l.eof, .unclosed⟩ ∧ ∃ m, openAfter stops d (ts.map (·.kind)) = some (m + 1) := by
  induction ts generalizing d with
  | nil =>
    rw [collect] at h
    split at h
    · cases h
    · next deep =>
      cases h
      obtain ⟨m, rfl⟩ := Nat.exists_eq_succ_of_ne_zero deep
      exact ⟨rfl, m, rfl⟩
  | cons t ts ih =>
    rw [collect] at h
    split at h
    · cases h
    · next free =>
      obtain ⟨n, pass⟩ := exists_passes_of_free
        (by simpa only [List.contains_iff_mem] using free)
      have below : l.collect stops (depthAfter d t) ts = .error fault := by
        rcases bind_eq_error_iff.1 h with below | ⟨_, _, done⟩
        · exact below
        · cases done
      rw [depthAfter_of_passes pass] at below
      obtain ⟨same, m, deep⟩ := ih below
      exact ⟨same, m, (openAfter_cons pass).trans deep⟩

/-- Collecting fails exactly if nothing breaks off the run up to the end of the file, and brackets
are open there. -/
theorem collect_eq_error_iff :
    l.collect stops 0 ts = .error fault ↔
      fault = ⟨l.eof, .unclosed⟩ ∧ Unbroken stops ts ∧ 0 < openBrackets ts := by
  constructor
  · intro h
    obtain ⟨same, m, deep⟩ := open_of_collect h
    obtain ⟨unbroken, total⟩ := openAfter_zero_eq_some_iff.1 deep
    exact ⟨same, unbroken, by omega⟩
  · intro h
    obtain ⟨rfl, unbroken, positive⟩ := h
    obtain ⟨m, total⟩ : ∃ m : Nat, openBrackets ts = (m + 1 : Nat) :=
      ⟨(openBrackets ts - 1).toNat, by omega⟩
    have reached := collect_openAfter l (openAfter_zero_eq_some_iff.2 ⟨unbroken, total⟩) []
    rwa [List.append_nil, collect, if_neg (Nat.succ_ne_zero m)] at reached

/-! ## Positions -/

/-- What is left at a position of a list of tokens, before the next end of a file. -/
def leftAt (tokens : List Token) (position : Nat) : List Token :=
  (tokens.drop position).takeWhile (·.kind ≠ .eof)

/-- The position of that end of a file. -/
def eofFrom (tokens : List Token) (position : Nat) : Nat :=
  position + (leftAt tokens position).length

/-- The tokens from a position on: those before the next end of a file, this, and what stands behind
it. -/
structure Ahead (tokens : List Token) (start : Nat) (left : List Token) (eof : Token)
    (behind : List Token) : Prop where
  split : tokens.drop start = left ++ eof :: behind
  isEof : eof.kind = .eof
  plain : ∀ t ∈ left, t.kind ≠ .eof

/-- A list that ends with the end of a file has one from each of its positions on. -/
theorem exists_ahead (ends : ∃ eof ∈ tokens.getLast?, eof.kind = .eof)
    (inside : start < tokens.length) : ∃ left eof behind, Ahead tokens start left eof behind := by
  obtain ⟨last, isLast, isEof⟩ := ends
  have mem : last ∈ tokens.drop start := by
    apply List.mem_of_getLast?
    rw [List.getLast?_drop, if_neg (Nat.not_le.2 inside)]
    exact isLast
  obtain ⟨eof, found⟩ : ∃ eof, (tokens.drop start).find? (·.kind = .eof) = some eof :=
    Option.isSome_iff_exists.1 (List.find?_isSome.2 ⟨last, mem, decide_eq_true isEof⟩)
  obtain ⟨isEof, left, behind, split, plain⟩ := List.find?_eq_some_iff_append.1 found
  refine ⟨left, eof, behind, split, of_decide_eq_true isEof, fun t mem => ?_⟩
  simpa using plain t mem

theorem Ahead.drop_add (ahead : Ahead tokens start left eof behind) (within : n ≤ left.length) :
    tokens.drop (start + n) = left.drop n ++ eof :: behind := by
  rw [← List.drop_drop, ahead.split, List.drop_append_of_le_length within]

/-- Later positions leave less of the same tokens. -/
theorem Ahead.leftAt_add (ahead : Ahead tokens start left eof behind)
    (within : n ≤ left.length) : leftAt tokens (start + n) = left.drop n := by
  have plain : ∀ t ∈ left.drop n, decide (t.kind ≠ .eof) = true := fun t mem =>
    decide_eq_true (ahead.plain t (List.mem_of_mem_drop mem))
  rw [leftAt, ahead.drop_add within, List.takeWhile_append_of_pos plain,
    List.takeWhile_cons_of_neg (by simp [ahead.isEof]), List.append_nil]

theorem Ahead.leftAt_start (ahead : Ahead tokens start left eof behind) :
    leftAt tokens start = left :=
  ahead.leftAt_add (Nat.zero_le _)

theorem Ahead.extract_add (ahead : Ahead tokens start left eof behind)
    (within : n ≤ left.length) : tokens.extract start (start + n) = left.take n := by
  rw [List.extract_eq_take_drop, ahead.split, Nat.add_sub_cancel_left,
    List.take_append_of_le_length within]

/-- A position is at the first of the tokens that it leaves, or at the end of the file. -/
theorem Ahead.getElem?_add (ahead : Ahead tokens start left eof behind)
    (within : n ≤ left.length) : tokens[start + n]? = some ((left.drop n).headD eof) := by
  rw [← List.head?_drop, ahead.drop_add within]
  cases left.drop n <;> rfl

/-- A run may end at a position exactly if the tokens that are left there may end it. -/
theorem Ahead.stops_iff (ahead : Ahead tokens start left eof behind) (within : n ≤ left.length) :
    (∃ t, tokens[start + n]? = some t ∧ (t.kind = .eof ∨ t.kind ∈ stops ∨ t.kind.isClosing)) ↔
      ∀ t ∈ (left.drop n).head?, t.kind ∈ stops ∨ t.kind.isClosing := by
  rw [ahead.getElem?_add within]
  cases rest : left.drop n with
  | nil =>
    constructor
    · intro _ t first
      cases first
    · intro _
      exact ⟨eof, rfl, .inl ahead.isEof⟩
  | cons u us =>
    constructor
    · intro h t first
      obtain ⟨v, next, kind⟩ := h
      obtain rfl : u = t := Option.some.inj first
      obtain rfl : u = v := Option.some.inj next
      -- It is one of the tokens before the end of the file.
      have plain := ahead.plain u (List.mem_of_mem_drop (rest ▸ List.mem_cons_self))
      exact kind.resolve_left plain
    · intro h
      exact ⟨u, rfl, .inr (h u rfl)⟩

/-- At a position of a listing its tokens from there on are left, and its own end is the next. -/
theorem leftAt_of_ofText? {source : Text} (listed : ofText? source = .ok l)
    (within : n ≤ l.tokens.length) :
    leftAt l.allTokens n = l.tokens.drop n ∧ l.allTokens[eofFrom l.allTokens n]? = some l.eof := by
  obtain ⟨isEof, plain⟩ := eof_of_ofText? listed
  have ahead : Ahead l.allTokens 0 l.tokens l.eof [] := ⟨rfl, isEof, plain⟩
  have left := ahead.leftAt_add within
  rw [Nat.zero_add] at left
  have atEnd : eofFrom l.allTokens n = l.tokens.length := by
    rw [eofFrom, left, List.length_drop, Nat.add_sub_cancel' within]
  exact ⟨left, by rw [atEnd, allTokens, List.getElem?_concat_length]⟩

/-! ## Runs from a position -/

/-- In a list of tokens that ends with the end of a file, what is collected from one position is all
up to another: a balanced run without stops outside of brackets, before the next end of a file, a
stop, or a closing bracket that the run does not open. Collecting fails exactly if that end is
reached with brackets open, and nothing behind it is ever read. -/
theorem collect_maximal (ends : ∃ eof ∈ tokens.getLast?, eof.kind = .eof)
    (inside : start < tokens.length) (stops : List Token.Kind) :
    ∃ eof, tokens[eofFrom tokens start]? = some eof ∧ eof.kind = .eof ∧
      ∀ l : Listing, l.eof = eof →
        (∀ run rest, l.collect stops 0 (leftAt tokens start) = .ok (run, rest) ↔
          ∃ stop, start ≤ stop ∧ stop ≤ eofFrom tokens start ∧
            run = tokens.extract start stop ∧ rest = leftAt tokens stop ∧
            Unbroken stops run ∧ openBrackets run = 0 ∧
            ∃ t, tokens[stop]? = some t ∧
              (t.kind = .eof ∨ t.kind ∈ stops ∨ t.kind.isClosing)) ∧
        ∀ fault, l.collect stops 0 (leftAt tokens start) = .error fault ↔
          fault = ⟨eof, .unclosed⟩ ∧ Unbroken stops (leftAt tokens start) ∧
            0 < openBrackets (leftAt tokens start) := by
  obtain ⟨left, eof, behind, ahead⟩ := exists_ahead ends inside
  rw [eofFrom, ahead.leftAt_start]
  have atEnd : tokens[start + left.length]? = some eof := by
    rw [ahead.getElem?_add (Nat.le_refl _), List.drop_length, List.headD_nil]
  refine ⟨eof, atEnd, ahead.isEof, fun l same => ⟨fun run rest => ?_, fun fault => ?_⟩⟩
  · rw [collect_eq_ok_iff]
    constructor
    · intro h
      obtain ⟨rfl, unbroken, total, stopped⟩ := h
      have within : run.length ≤ (run ++ rest).length := by simp
      refine ⟨start + run.length, by omega, by omega, ?_, ?_, unbroken, total,
        (ahead.stops_iff within).2 ?_⟩
      · rw [ahead.extract_add within, List.take_left]
      · rw [ahead.leftAt_add within, List.drop_left]
      · rw [List.drop_left]
        exact stopped
    · intro h
      obtain ⟨stop, forward, within, rfl, rfl, unbroken, total, stopped⟩ := h
      obtain ⟨n, rfl⟩ := Nat.exists_eq_add_of_le forward
      have within : n ≤ left.length := by omega
      rw [ahead.extract_add within, ahead.leftAt_add within, List.take_append_drop]
      rw [ahead.extract_add within] at unbroken total
      exact ⟨rfl, unbroken, total, (ahead.stops_iff within).1 stopped⟩
  · rw [collect_eq_error_iff, same]

/-- Stops in brackets and outside of them, and brackets that are left open. -/
def indexed : Text := text "x[y](a; b)] z(\x7b"

/-- Stops of which some are brackets themselves. -/
def indexStops : List Token.Kind := [.opening .curly, .closing .square, .semicolon]

theorem collect_maximal_indexed :
    ∃ l, ofText? indexed = .ok l ∧ l.allTokens.length = 14 ∧
      (∃ eof ∈ l.allTokens.getLast?, eof.kind = .eof) ∧
      l.collect indexStops 0 l.tokens = .ok (l.allTokens.extract 0 9, l.tokens.drop 9) ∧
      Unbroken indexStops (l.allTokens.extract 0 9) ∧
      l.collect indexStops 0 (l.tokens.drop 10) = .error ⟨l.eof, .unclosed⟩ ∧
      Unbroken indexStops (l.tokens.drop 10) ∧
      0 < openBrackets (l.tokens.drop 10) := by
  obtain ⟨l, listed, shown⟩ := exists_ok_of_any (x := ofText? indexed)
    (p := fun l => decide (l.allTokens.length = 14 ∧
      l.collect indexStops 0 l.tokens = .ok (l.allTokens.extract 0 9, l.tokens.drop 9) ∧
      l.collect indexStops 0 (l.tokens.drop 10) = .error ⟨l.eof, .unclosed⟩)) (by decide +kernel)
  obtain ⟨count, collected, failed⟩ := of_decide_eq_true shown
  have ends : ∃ eof ∈ l.allTokens.getLast?, eof.kind = .eof :=
    ⟨l.eof, List.getLast?_concat, (eof_of_ofText? listed).1⟩
  have length : l.tokens.length = 13 := by
    rw [allTokens, List.length_append] at count
    exact Nat.succ.inj count
  obtain ⟨left, last⟩ := leftAt_of_ofText? listed (Nat.zero_le _)
  obtain ⟨eof, atEnd, -, runs⟩ := collect_maximal ends (show 0 < l.allTokens.length by omega)
    indexStops
  obtain rfl := Option.some.inj (last.symm.trans atEnd)
  rw [left, List.drop_zero] at runs
  obtain ⟨-, -, -, -, -, unbroken, -⟩ := ((runs l rfl).1 _ _).1 collected
  obtain ⟨left, last⟩ := leftAt_of_ofText? listed (show 10 ≤ l.tokens.length by omega)
  obtain ⟨eof, atEnd, -, runs⟩ := collect_maximal ends (show 10 < l.allTokens.length by omega)
    indexStops
  obtain rfl := Option.some.inj (last.symm.trans atEnd)
  rw [left] at runs
  obtain ⟨-, unbroken', positive⟩ := ((runs l rfl).2 _).1 failed
  exact ⟨l, listed, count, ends, collected, unbroken, failed, unbroken', positive⟩

end EnumText.Listing
