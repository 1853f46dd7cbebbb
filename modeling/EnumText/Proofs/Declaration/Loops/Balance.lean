import EnumText.Proofs.Declaration.Loops.Rounds
import EnumText.Proofs.Listing.Tiling

/-!
# Brackets that the loops have passed

At the head of each loop of the readers the brackets that are open are known: those of the group and
of the struct type that it stands in, and those that it counts itself.

* `Loop.depth`: how many these are.
* `step_balanced`: each step keeps this.
* `SourceFile.balanced_of_ofText?`: so a file that is read closes what it opens, and its
  declarations stand outside of brackets.
-/

namespace EnumText

namespace Declaration

/-! ## The open brackets of a loop -/

/-- The brackets that are open around a type. -/
def TypePlace.depth : TypePlace → Nat
  | .single => 0
  | .grouped _ _ => 1

/-- The brackets that are open around variables. -/
def VariablePlace.depth : VariablePlace → Nat
  | .single => 0
  | .grouped _ => 1

/-- The brackets that are open around a run. -/
def Purpose.depth : Purpose → Nat
  | .parameters head => head.place.depth + 1
  | .line head _ => head.place.depth + 1
  | .remainder place _ => place.depth
  | .variableType place _ => place.depth
  | .values place _ => place.depth

/-- The brackets that are open after semicolons. -/
def Next.depth : Next → Nat
  | .packageClause => 0
  | .fields head _ => head.place.depth + 1
  | .types _ _ => 1
  | .bindings _ => 1

/-- The brackets that are open at the head of a loop. -/
def Loop.depth : Loop → Nat
  | .semicolons next => next.depth
  | .declarations => 0
  | .statement depth => depth
  | .run purpose depth _ => purpose.depth + depth
  | .fields head _ => head.place.depth + 1
  | .names place _ => place.depth
  | .types _ _ => 1
  | .bindings _ => 1

end Declaration

namespace Listing

open Declaration

/-- The tokens of a listing before those that are left open some brackets and close no others. -/
def Opens (l : Listing) (depth : Nat) (left : List Token) : Prop :=
  ∃ before, l.tokens = before ++ left ∧ openAfter [] 0 (before.map (·.kind)) = some depth

/-- The brackets that are open are those of the loop, or none at the end. -/
def Balanced (l : Listing) : State → Prop
  | .head loop _ left => l.Opens loop.depth left
  | .ended (.ok _) => l.Opens 0 []
  | .ended (.error _) => True

variable {l : Listing} {found : SourceFile} {ts rest : List Token} {t : Token} {s : State}
variable {d e : Nat}

/-! ## One token -/

theorem Opens.pass (h : l.Opens d (t :: rest)) (pass : Passes [] d t.kind e) :
    l.Opens e rest := by
  obtain ⟨before, same, balanced⟩ := h
  refine ⟨before ++ [t], by rw [same, List.append_cons], ?_⟩
  rw [List.map_append, openAfter_append balanced, List.map_singleton, openAfter_cons pass]
  rfl

theorem Opens.opening (h : l.Opens d (t :: rest)) (opens : t.kind.isOpening = true) :
    l.Opens (d + 1) rest :=
  h.pass (.opening opens (isClosing_of_isOpening opens) (.inr (List.not_mem_nil)))

theorem Opens.closing (h : l.Opens (d + 1) (t :: rest)) (closes : t.kind.isClosing = true) :
    l.Opens d rest := by
  refine h.pass (.closing ?_ closes)
  cases opens : t.kind.isOpening with
  | false => rfl
  | true =>
    rw [isClosing_of_isOpening opens] at closes
    cases closes

theorem Opens.other (h : l.Opens d (t :: rest)) (opens : t.kind.isOpening = false)
    (closes : t.kind.isClosing = false) : l.Opens d rest :=
  h.pass (.other opens closes (.inr List.not_mem_nil))

/-- A token of a kind that is no bracket. -/
theorem Opens.of_kind {kind : Token.Kind} (h : l.Opens d (t :: rest)) (isKind : t.kind = kind)
    (opens : kind.isOpening = false) (closes : kind.isClosing = false) : l.Opens d rest :=
  h.other (isKind ▸ opens) (isKind ▸ closes)

theorem Opens.skipSemicolon (h : l.Opens d ts) : l.Opens d (skipSemicolon ts) := by
  cases ts with
  | nil => exact h
  | cons t rest =>
    rw [Listing.skipSemicolon]
    split
    · next semicolon => exact h.of_kind semicolon rfl rfl
    · exact h

theorem Opens.assign (h : l.Opens d ts) (assigned : at? .assign ts = true) :
    l.Opens d (ts.drop 1) := by
  obtain ⟨t, rest, rfl, kind⟩ := exists_cons_of_at? assigned
  exact h.of_kind kind rfl rfl

theorem Opens.afterAssign (h : l.Opens d ts) : l.Opens d (afterAssign ts) := by
  rw [Listing.afterAssign]
  split
  · next assigned => exact h.assign assigned
  · exact h

theorem Opens.opened {b : Bracket} (h : l.Opens d ts) (at_ : at? (.opening b) ts = true) :
    l.Opens (d + 1) (ts.drop 1) := by
  obtain ⟨t, rest, rfl, kind⟩ := exists_cons_of_at? at_
  exact h.opening (kind ▸ rfl)

theorem Opens.closed {b : Bracket} (h : l.Opens (d + 1) ts) (at_ : at? (.closing b) ts = true) :
    l.Opens d (ts.drop 1) := by
  obtain ⟨t, rest, rfl, kind⟩ := exists_cons_of_at? at_
  exact h.closing (kind ▸ rfl)

theorem Opens.word {word : String} (h : l.Opens d (t :: rest)) (isWord : t.isWord word = true) :
    l.Opens d rest :=
  h.of_kind (kind_of_isWord isWord) rfl rfl

/-! ## Between the loops -/

theorem balanced_after {α : Type} {read : Except Fault α} {next : α → State}
    (h : ∀ a, read = .ok a → l.Balanced (next a)) : l.Balanced (.after read next) := by
  cases read with
  | ok a => exact h a rfl
  | error fault => trivial

/-- A token of a wanted kind that is no bracket. -/
theorem Opens.expect {kind : Token.Kind} (h : l.Opens d ts)
    (read : l.expect kind ts = .ok (t, rest)) (opens : kind.isOpening = false)
    (closes : kind.isClosing = false) : l.Opens d rest := by
  obtain ⟨rfl, isKind⟩ := expect_eq_ok_iff.1 read
  exact h.of_kind isKind opens closes

theorem balanced_afterType (place : TypePlace) (type : TypeDecl) (h : l.Opens place.depth ts) :
    l.Balanced (afterType place type found ts) := by
  cases place <;> exact h

theorem balanced_afterVariable (place : VariablePlace) (binding : Binding)
    (h : l.Opens place.depth ts) : l.Balanced (afterVariable place binding found ts) := by
  cases place <;> exact h

theorem balanced_typeBody (head : TypeHead) (h : l.Opens head.place.depth ts) :
    l.Balanced (l.typeBody head found ts) := by
  rw [typeBody]
  dsimp only
  split
  · next word =>
    obtain ⟨t, rest, first, isWord⟩ :
        ∃ t rest, Listing.afterAssign ts = t :: rest ∧ t.isWord "struct" = true := by
      cases first : Listing.afterAssign ts with
      | nil => simp [first] at word
      | cons t rest => exact ⟨t, rest, rfl, by simpa [first] using word⟩
    have inside := (first ▸ h.afterAssign).word isWord
    rw [first, List.drop_one, List.tail_cons]
    refine balanced_after fun pair read => ?_
    obtain ⟨brace, left⟩ := pair
    obtain ⟨rfl, kind⟩ := expect_eq_ok_iff.1 read
    exact inside.opening (kind ▸ rfl)
  · exact h.afterAssign

theorem balanced_typeStart (place : TypePlace) (doc : List Text) (h : l.Opens place.depth ts) :
    l.Balanced (l.typeStart place doc found ts) := by
  rw [typeStart]
  refine balanced_after fun pair read => ?_
  obtain ⟨name, rest⟩ := pair
  have named := h.expect read rfl rfl
  dsimp only
  split
  · next parameters =>
    exact named.opened (Bool.and_eq_true_iff.1 parameters).1
  · exact balanced_typeBody _ named

theorem balanced_variableStart (place : VariablePlace) (h : l.Opens place.depth ts) :
    l.Balanced (l.variableStart place found ts) := by
  rw [variableStart]
  exact balanced_after fun _ read => h.expect read rfl rfl

theorem balanced_afterSemicolons (next : Next) (h : l.Opens next.depth ts) :
    l.Balanced (l.afterSemicolons next found ts) := by
  cases next with
  | packageClause =>
    refine balanced_after fun pair read => balanced_after fun _ named => ?_
    obtain ⟨word, rest⟩ := pair
    obtain ⟨rfl, isWord⟩ := expectWord_eq_ok_iff.1 read
    exact (h.word isWord).expect named rfl rfl
  | fields head fields => exact h
  | types doc earlier => exact h
  | bindings earlier => exact h

theorem balanced_afterRun (purpose : Purpose) (taken : List Token)
    (h : l.Opens purpose.depth ts) : l.Balanced (l.afterRun purpose taken found ts) := by
  cases purpose with
  | parameters head =>
    refine balanced_after fun pair read => balanced_typeBody head ?_
    obtain ⟨bracket, rest⟩ := pair
    obtain ⟨rfl, kind⟩ := expect_eq_ok_iff.1 read
    exact h.closing (kind ▸ rfl)
  | line head fields => exact balanced_after fun own _ => h
  | remainder place type => exact balanced_afterType place type h.skipSemicolon
  | variableType place names =>
    rw [afterRun]
    split
    · next assigned => exact h.assign assigned
    · exact balanced_afterVariable place _ h.skipSemicolon
  | values place names => exact balanced_afterVariable place _ h.skipSemicolon

/-! ## Steps -/

theorem balanced_declaration (h : l.Opens 0 (t :: rest)) :
    l.Balanced (l.declaration found t rest) := by
  rw [declaration]
  split
  · next semicolon => exact h.of_kind semicolon rfl rfl
  split
  · next isType =>
    split
    · next grouped => exact (h.word isType).opened grouped
    · exact balanced_typeStart .single _ (h.word isType)
  split
  · next isVar =>
    split
    · next grouped => exact (h.word isVar).opened grouped
    · exact balanced_variableStart .single (h.word isVar)
  · exact h

theorem balanced_statement (h : l.Opens d ts) :
    l.Balanced (l.step (.head (.statement d) found ts)) := by
  cases ts with
  | nil =>
    rw [step]
    split
    · next zero =>
      subst zero
      exact h
    · trivial
  | cons t rest =>
    rw [step]
    split
    · next opens => exact h.opening opens
    next opens =>
    split
    · next closes =>
      split
      · trivial
      · next deep =>
        obtain ⟨d, rfl⟩ := Nat.exists_eq_succ_of_ne_zero deep
        exact h.closing closes
    next closes =>
    have other := h.other (Bool.eq_false_of_not_eq_true opens) (Bool.eq_false_of_not_eq_true closes)
    split
    · next stop =>
      obtain ⟨-, rfl⟩ := stop
      exact other
    · exact other

theorem balanced_run (purpose : Purpose) (taken : List Token) (h : l.Opens (purpose.depth + d) ts) :
    l.Balanced (l.step (.head (.run purpose d taken) found ts)) := by
  cases ts with
  | nil =>
    rw [step]
    split
    · next zero =>
      subst zero
      exact balanced_afterRun purpose taken h
    · trivial
  | cons t rest =>
    rw [step]
    split
    · next stop =>
      obtain ⟨rfl, -⟩ := stop
      exact balanced_afterRun purpose taken h
    · next inside =>
      show l.Opens (purpose.depth + depthAfter d t) rest
      rw [depthAfter]
      split
      · next opens => exact h.opening opens
      next opens =>
      split
      · next closes =>
        -- A closing bracket outside of brackets ends the run.
        obtain ⟨d, rfl⟩ := Nat.exists_eq_succ_of_ne_zero fun zero => inside ⟨zero, .inr closes⟩
        exact h.closing closes
      · next closes =>
        exact h.other (Bool.eq_false_of_not_eq_true opens) (Bool.eq_false_of_not_eq_true closes)

/-- A step keeps count of the brackets. -/
theorem step_balanced (h : l.Balanced s) : l.Balanced (l.step s) := by
  rcases s with ⟨loop, found, ts⟩ | result
  swap
  · exact h
  cases loop with
  | semicolons next =>
    cases ts with
    | nil => exact balanced_afterSemicolons next h
    | cons t rest =>
      rw [step]
      split
      · next semicolon => exact Opens.of_kind h semicolon rfl rfl
      · exact balanced_afterSemicolons next h
  | declarations =>
    cases ts with
    | nil => exact h
    | cons t rest => exact balanced_declaration h
  | statement depth => exact balanced_statement h
  | run purpose depth taken => exact balanced_run purpose taken h
  | fields head fields =>
    cases ts with
    | nil => trivial
    | cons t rest =>
      rw [step]
      split
      · next curly => exact Opens.closing h (curly ▸ rfl)
      · exact h
  | names place names =>
    rw [step]
    split
    · next comma =>
      obtain ⟨t, rest, rfl, kind⟩ := exists_cons_of_at? comma
      exact balanced_after fun _ read =>
        (Opens.of_kind h kind rfl rfl).expect read rfl rfl
    · exact h
  | types doc earlier =>
    rw [step]
    split
    · next closed => exact Opens.closed h closed
    · exact balanced_typeStart (.grouped doc earlier) _ h
  | bindings earlier =>
    rw [step]
    split
    · next closed => exact Opens.closed h closed
    · exact balanced_variableStart (.grouped earlier) h

/-- A walk keeps count of the brackets. -/
theorem walk_balanced (l : Listing) (n : Nat) : l.Balanced (l.walk n) := by
  induction n with
  | zero => exact ⟨[], rfl, rfl⟩
  | succ n ih =>
    rw [walk_add]
    exact step_balanced ih

/-! ## Files -/

theorem openBrackets_of_opens (h : l.Opens d rest) :
    ∃ before, l.tokens = before ++ rest ∧ openBrackets before = d := by
  obtain ⟨before, same, balanced⟩ := h
  have total := (openAfter_eq_some_iff.1 balanced).2.1
  exact ⟨before, same, by omega⟩

/-- The end of the file is the last of all tokens. -/
theorem kind_eof_of_ofText? {source : Text} (listed : ofText? source = .ok l) :
    l.eof.kind = .eof :=
  (eof_of_ofText? listed).1

theorem openAfter_allTokens (h : l.Opens 0 []) (eof : l.eof.kind = .eof) :
    openAfter [] 0 (l.allTokens.map (·.kind)) = some 0 := by
  obtain ⟨before, same, balanced⟩ := h
  rw [List.append_nil] at same
  rw [allTokens, same, List.map_append, openAfter_append balanced, List.map_singleton, eof]
  rfl

end Listing

namespace SourceFile

open Declaration Listing

/-- A file that is read closes each bracket that it opens, and no other. Whenever the next
declaration is looked for, the tokens before it leave no bracket open, so that no word inside of
brackets begins a declaration. -/
theorem balanced_of_ofText? {file : Path} {source : Text} {f : SourceFile}
    (read : ofText? file source = .ok f) :
    ∃ l, Listing.ofText? source = .ok l ∧
      (∀ n, 0 ≤ openBrackets (l.allTokens.take n)) ∧ openBrackets l.allTokens = 0 ∧
      (∃ n, l.walk n = .ended (.ok f)) ∧
      (∀ n found left, l.walk n = .head .declarations found left →
        ∃ before, l.tokens = before ++ left ∧ openBrackets before = 0) ∧
      ∀ before t after, l.tokens = before ++ t :: after → openBrackets before ≠ 0 →
        ∀ n found, l.walk n ≠ .head .declarations found (t :: after) := by
  obtain ⟨l, listed, found⟩ := ofText?_eq_ok_iff.1 read
  have answers := l.answers_ofListing?
  rw [found] at answers
  obtain ⟨n, ended⟩ := answers
  have atEnd : l.walk n = .ended (.ok f) := ended
  have balanced := l.walk_balanced n
  rw [atEnd] at balanced
  obtain ⟨nonneg, total, -⟩ := openAfter_eq_some_iff.1
    (openAfter_allTokens balanced (kind_eof_of_ofText? listed))
  have outside (n : Nat) (found : SourceFile) (left : List Token)
      (here : l.walk n = .head .declarations found left) :
      ∃ before, l.tokens = before ++ left ∧ openBrackets before = 0 := by
    have balanced := l.walk_balanced n
    rw [here] at balanced
    exact openBrackets_of_opens balanced
  refine ⟨l, listed, fun n => ?_, ?_, ⟨n, atEnd⟩, outside, ?_⟩
  · have nonneg := nonneg n
    omega
  · omega
  · intro before t after split inside n found here
    obtain ⟨before', split', none⟩ := outside n found _ here
    obtain rfl := List.append_cancel_right (split.symm.trans split')
    exact inside none

/-- Declarations inside of a function, between types and variables of a file. -/
def nested : Text :=
  text "package p\ntype A[T any] struct \x7b\n\ta [2]T\n\x7d\n" ++
    text "func f(n int) \x7b\n\tvar x int\n\ttype y struct \x7b\x7d\n\x7d\n" ++
    text "var (\n\tb = A\x7b(1)\x7d\n)\n"

theorem balanced_of_ofText?_nested :
    ∃ f l, ofText? .here nested = .ok f ∧ f.types.map (·.name) = [text "A"] ∧
      f.bindings.map (·.names) = [[text "b"]] ∧ Listing.ofText? nested = .ok l ∧
      openBrackets l.allTokens = 0 ∧ (∃ n, l.walk n = .ended (.ok f)) ∧
      ∀ before t after, l.tokens = before ++ t :: after → openBrackets before ≠ 0 →
        ∀ n found, l.walk n ≠ .head .declarations found (t :: after) := by
  obtain ⟨f, read, shown⟩ := exists_ok_of_any (x := ofText? .here nested)
    (p := fun f => decide (f.types.map (·.name) = [text "A"] ∧
      f.bindings.map (·.names) = [[text "b"]])) (by decide +kernel)
  obtain ⟨types, bindings⟩ := of_decide_eq_true shown
  obtain ⟨l, listed, -, closed, ends, -, inside⟩ := balanced_of_ofText? read
  exact ⟨f, l, read, types, bindings, listed, closed, ends, inside⟩

end SourceFile

end EnumText
