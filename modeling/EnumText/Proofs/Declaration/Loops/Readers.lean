import EnumText.Proofs.Declaration.Loops
import EnumText.Proofs.Declaration.Relocation.Declarations
import EnumText.Proofs.Declaration.Spans
import EnumText.Proofs.Declaration.Statements

/-!
# The loops come to what the readers read

`Answers l s read next` says that a state comes to the answer of a reader: to the state that is next
after what it reads, or to its fault. Where the answer is a stranded bracket, the state comes to the
loop over the lines of a struct type, with the bracket as the next token.

* `answers_collect`, `answers_skipStatement`, `answers_typeSpec`, …: one lemma for each reader.
* `answers_ofListing?`: the beginning of a file comes to what the file declares.
-/

namespace EnumText

namespace Declaration

/-- The lines of a struct type are to go on with a round or square bracket that closes nothing. -/
inductive State.Strands (t : Token) : State → Prop
  | mk {head : TypeHead} {fields : List Field} {found : SourceFile} {rest : List Token}
    (closes : t.kind = .closing .round ∨ t.kind = .closing .square) :
    State.Strands t (.head (.fields head fields) found (t :: rest))

end Declaration

namespace Listing

open Declaration

/-- A state comes to a fault. -/
inductive Fails (l : Listing) (s : State) (fault : Fault) : Prop
  | ended (cause : fault.cause ≠ .strandedBracket) (leads : l.Leads s (.ended (.error fault)))
  | stranded {s' : State} (cause : fault.cause = .strandedBracket) (leads : l.Leads s s')
    (strands : s'.Strands fault.token)

/-- A state comes to the answer of a reader, and goes on with what it reads. -/
def Answers {α : Type} (l : Listing) (s : State) (read : Except Fault α) (next : α → State) :
    Prop :=
  match read with
  | .ok a => l.Leads s (next a)
  | .error fault => l.Fails s fault

variable {α β : Type} {l : Listing} {s s' : State} {ts rest : List Token} {found : SourceFile}
variable {t : Token} {d fuel : Nat}

theorem Fails.of_leads {fault : Fault} (leads : l.Leads s s') (h : l.Fails s' fault) :
    l.Fails s fault := by
  cases h with
  | ended cause below => exact .ended cause (leads.trans below)
  | stranded cause below strands => exact .stranded cause (leads.trans below) strands

namespace Answers

theorem of_leads {read : Except Fault α} {next : α → State} (leads : l.Leads s s')
    (h : l.Answers s' read next) : l.Answers s read next := by
  cases read with
  | ok a => exact leads.trans h
  | error fault => exact Fails.of_leads leads h

theorem step {read : Except Fault α} {next : α → State} (h : l.Answers (l.step s) read next) :
    l.Answers s read next :=
  of_leads (Leads.refl l _).head h

theorem ok_bind {a : α} {then_ : α → Except Fault β} {last : β → State}
    (h : l.Answers s (then_ a) last) : l.Answers s (.ok a >>= then_) last := h

/-- One reader after another. -/
theorem bind {read : Except Fault α} {next : α → State} {then_ : α → Except Fault β}
    {last : β → State} (first : l.Answers s read next)
    (later : ∀ a, read = .ok a → l.Answers (next a) (then_ a) last) :
    l.Answers s (read >>= then_) last := by
  cases read with
  | ok a => exact (later a rfl).of_leads first
  | error fault => exact first

theorem map {read : Except Fault α} {f : α → β} {next : β → State}
    (h : l.Answers s read fun a => next (f a)) :
    l.Answers s (read >>= fun a => pure (f a)) next :=
  h.bind fun _ _ => Leads.refl l _

/-- A reader without loops. -/
theorem after {read : Except Fault α} (next : α → State)
    (other : ∀ fault, read = .error fault → fault.cause ≠ .strandedBracket) :
    l.Answers (.after read next) read next := by
  cases read with
  | ok a => exact Leads.refl l _
  | error fault => exact .ended (other fault rfl) (Leads.refl l _)

end Answers

/-! ## One token -/

theorem cause_unexpected (l : Listing) (wanted : Text) (ts : List Token) :
    (l.unexpected wanted ts).cause ≠ .strandedBracket := by
  cases ts <;> exact Cause.noConfusion

theorem cause_expect {kind : Token.Kind} {fault : Fault} (h : l.expect kind ts = .error fault) :
    fault.cause ≠ .strandedBracket := by
  unfold expect at h
  split at h
  · split at h
    · cases h
    · cases h
      exact cause_unexpected l _ _
  · cases h
    exact cause_unexpected l _ _

theorem cause_expectWord {word : String} {fault : Fault}
    (h : l.expectWord word ts = .error fault) : fault.cause ≠ .strandedBracket := by
  unfold expectWord at h
  split at h
  · split at h
    · cases h
    · cases h
      exact cause_unexpected l _ _
  · cases h
    exact cause_unexpected l _ _

theorem leads_semicolons (l : Listing) (next : Next) (found : SourceFile) (ts : List Token) :
    l.Leads (.head (.semicolons next) found ts)
      (l.afterSemicolons next found (skipSemicolons ts)) := by
  induction ts with
  | nil => exact (Leads.refl l _).head
  | cons t ts ih =>
    refine Leads.head ?_
    rw [step, skipSemicolons, List.dropWhile_cons]
    by_cases semicolon : t.kind = .semicolon
    · rw [if_pos semicolon, if_pos (decide_eq_true semicolon)]
      exact ih
    · rw [if_neg semicolon, if_neg (by simpa using semicolon)]
      exact .refl l _

/-! ## Balanced runs -/

theorem answers_collect (l : Listing) (purpose : Purpose) (d : Nat) (taken : List Token)
    (found : SourceFile) (ts : List Token) :
    l.Answers (.head (.run purpose d taken) found ts) (l.collect purpose.stops d ts)
      fun read => l.afterRun purpose (taken ++ read.1) found read.2 := by
  induction ts generalizing d taken with
  | nil =>
    refine Answers.step ?_
    rw [step, collect]
    split
    · rw [Answers, List.append_nil]
      exact .refl l _
    · exact .ended Cause.noConfusion (.refl l _)
  | cons t ts ih =>
    refine Answers.step ?_
    rw [step, collect]
    split
    · rw [Answers, List.append_nil]
      exact .refl l _
    · refine Answers.map ?_
      have below := ih (depthAfter d t) (taken ++ [t])
      simp only [List.append_assoc, List.singleton_append] at below
      exact below

theorem answers_skipStatement (l : Listing) (d : Nat) (found : SourceFile) (ts : List Token) :
    l.Answers (.head (.statement d) found ts) (l.skipStatement d ts)
      (.head .declarations found) := by
  induction ts generalizing d with
  | nil =>
    refine Answers.step ?_
    rw [step, skipStatement]
    split
    · exact .refl l _
    · exact .ended Cause.noConfusion (.refl l _)
  | cons t ts ih =>
    refine Answers.step ?_
    rw [step, skipStatement]
    split
    · exact ih _
    split
    · split
      · exact .ended Cause.noConfusion (.refl l _)
      · exact ih _
    split
    · exact .refl l _
    · exact ih _

/-! ## Struct types -/

theorem cause_fieldsOfLine {fault : Fault} (h : l.fieldsOfLine ts = .error fault) :
    fault.cause ≠ .strandedBracket := by
  unfold fieldsOfLine at h
  split at h
  · split at h
    · dsimp only at h
      split at h
      · cases h
        exact Cause.noConfusion
      · cases h
    · cases h
  · cases h

/-- A line takes no token that closes a bracket. -/
theorem collect_line_of_closing {stops : List Token.Kind} (closes : t.kind.isClosing = true) :
    l.collect stops 0 (t :: rest) = .ok ([], t :: rest) := by
  rw [collect, if_pos ⟨rfl, .inr closes⟩]

/-- Otherwise it takes one at least. -/
theorem length_lt_of_collect {stops : List Token.Kind} {run : List Token}
    (inside : ¬ (stops.contains t.kind ∨ t.kind.isClosing))
    (h : l.collect stops 0 (t :: ts) = .ok (run, rest)) : rest.length ≤ ts.length := by
  rw [collect_cons_eq_ok_iff, if_neg fun stop => inside stop.2] at h
  obtain ⟨inner, below, -⟩ := h
  rw [collect_append below, List.length_append]
  omega

/-- A bracket that closes nothing is never passed over. -/
theorem fieldsUpToClose_stranded (closes : t.kind = .closing .round ∨ t.kind = .closing .square)
    (fuel : Nat) :
    l.fieldsUpToClose fuel (t :: rest) = .error ⟨t, .strandedBracket⟩ := by
  have closing : t.kind.isClosing = true := by
    rcases closes with kind | kind <;> rw [kind] <;> rfl
  have noSemicolon : t.kind ≠ .semicolon := by
    rcases closes with kind | kind <;> simp [kind]
  have noCurly : t.kind ≠ .closing .curly := by
    rcases closes with kind | kind <;> simp [kind]
  induction fuel with
  | zero => rfl
  | succ fuel ih =>
    rw [fieldsUpToClose, skipSemicolons_of_kind noSemicolon]
    simp only [if_neg noCurly, collect_line_of_closing closing]
    exact bind_eq_error_iff.2 (.inr ⟨_, rfl, bind_eq_error_iff.2 (.inr ⟨_, rfl,
      bind_eq_error_iff.2 (.inl ih)⟩)⟩)

theorem kind_of_head?_skipSemicolons (first : skipSemicolons ts = t :: rest) :
    t.kind ≠ .semicolon := by
  have stop := List.head?_dropWhile_not (fun t : Token => decide (t.kind = .semicolon)) ts
  rw [show ts.dropWhile _ = t :: rest from first] at stop
  simpa using stop

theorem length_skipSemicolons_le (ts : List Token) : (skipSemicolons ts).length ≤ ts.length :=
  (List.dropWhile_suffix _).length_le

theorem answers_fieldsUpToClose (head : TypeHead) (fields : List Field)
    (enough : ts.length < fuel) :
    l.Answers (.head (.semicolons (.fields head fields)) found ts) (l.fieldsUpToClose fuel ts)
      fun read =>
        .head (.run (.remainder head.place (head.type true (fields ++ read.1))) 0 []) found
          read.2 := by
  induction fuel generalizing ts fields with
  | zero => omega
  | succ fuel ih =>
    refine Answers.of_leads (leads_semicolons l _ found ts) ?_
    rw [fieldsUpToClose, afterSemicolons]
    have shorter := length_skipSemicolons_le ts
    cases first : skipSemicolons ts with
    | nil =>
      refine Answers.step ?_
      exact .ended Cause.noConfusion (.refl l _)
    | cons t rest =>
      rw [first, List.length_cons] at shorter
      have noSemicolon := kind_of_head?_skipSemicolons first
      dsimp only
      by_cases curly : t.kind = .closing .curly
      · rw [if_pos curly]
        refine Answers.step ?_
        rw [step, if_pos curly, Answers, List.append_nil]
        exact .refl l _
      rw [if_neg curly]
      by_cases closes : t.kind = .closing .round ∨ t.kind = .closing .square
      · -- The reader runs out of fuel at the bracket, where the loop goes round.
        have stranded : l.fieldsUpToClose (fuel + 1) (t :: rest) = .error ⟨t, .strandedBracket⟩ :=
          fieldsUpToClose_stranded closes (fuel + 1)
        rw [fieldsUpToClose, skipSemicolons,
          List.dropWhile_cons_of_neg (by simpa using noSemicolon)] at stranded
        simp only [if_neg curly] at stranded
        rw [stranded]
        exact .stranded rfl (.refl l _) ⟨closes⟩
      refine Answers.step ?_
      rw [step, if_neg curly]
      have line := answers_collect l (.line head fields) 0 [] found (t :: rest)
      refine line.bind fun pair collected => ?_
      obtain ⟨run, left⟩ := pair
      refine (Answers.after _ fun _ => cause_fieldsOfLine).bind fun own _ => ?_
      have inside : ¬ ((Purpose.line head fields).stops.contains t.kind ∨ t.kind.isClosing) := by
        rw [Purpose.stops]
        cases kind : t.kind with
        | closing b => cases b <;> simp_all
        | _ => simp_all [Token.Kind.isClosing]
      have fewer := length_lt_of_collect inside collected
      have below := ih (fields ++ own) (show left.length < fuel by omega)
      simp only [List.append_assoc] at below
      exact below.map

/-! ## Groups -/

/-- The loop over a group, told by what it does before the closing bracket and before any other
token. -/
theorem answers_specGroup {spec : List Token → Except Fault (Taken α)}
    (loop last : List α → List Token → State)
    (isSpec : ∀ {ts x rest}, spec ts = .ok (x, rest) → IsSpec ts rest)
    (close : ∀ {earlier ts}, at? (.closing .round) (skipSemicolons ts) = true →
      l.Leads (loop earlier ts) (last earlier ((skipSemicolons ts).drop 1)))
    (each : ∀ {earlier ts}, ¬ at? (.closing .round) (skipSemicolons ts) = true →
      l.Answers (loop earlier ts) (spec (skipSemicolons ts)) fun read =>
        loop (earlier ++ [read.1]) read.2)
    (earlier : List α) (enough : ts.length < fuel) :
    l.Answers (loop earlier ts) (l.specGroup spec fuel ts) fun read =>
      last (earlier ++ read.1) read.2 := by
  induction fuel generalizing ts earlier with
  | zero => omega
  | succ fuel ih =>
    rw [specGroup]
    split
    · next closed =>
      rw [Answers, List.append_nil]
      exact close closed
    · next inner =>
      refine (each inner).bind fun pair read => ?_
      obtain ⟨x, left⟩ := pair
      have passed := length_skipSemicolons_le ts
      have fewer := (isSpec read).length_lt
      have below := ih (earlier ++ [x]) (show left.length < fuel by omega)
      simp only [List.append_assoc, List.singleton_append] at below
      exact below.map

/-! ## Types -/

theorem answers_structFields (head : TypeHead) (word : ts.head?.any (·.isWord "struct") = true) :
    l.Answers
      (.after (l.expect (.opening .curly) (ts.drop 1)) fun (_, tokens) =>
        .head (.semicolons (.fields head [])) found tokens)
      (l.structFields ts)
      fun read => .head (.run (.remainder head.place (head.type true read.1)) 0 []) found
        read.2 := by
  obtain ⟨t, ts, rfl, isWord⟩ : ∃ t tail, ts = t :: tail ∧ t.isWord "struct" = true := by
    cases ts with
    | nil => cases word
    | cons t tail => exact ⟨t, tail, rfl, by simpa using word⟩
  have keyword : l.expectWord "struct" (t :: ts) = .ok (t, ts) :=
    expectWord_eq_ok_iff.2 ⟨rfl, isWord⟩
  rw [structFields, keyword]
  refine (Answers.after _ fun _ => cause_expect).bind fun pair _ => ?_
  obtain ⟨brace, rest⟩ := pair
  exact answers_fieldsUpToClose head [] (Nat.lt_succ_self _)

theorem answers_typeFields (head : TypeHead) (found : SourceFile) (ts : List Token) :
    l.Answers (l.typeBody head found ts) (l.typeFields (afterAssign ts)) fun read =>
      .head (.run (.remainder head.place
        (head.type ((afterAssign ts).head?.any (·.isWord "struct")) read.1)) 0 []) found
          read.2 := by
  unfold typeBody typeFields
  dsimp only
  cases word : (afterAssign ts).head?.any (·.isWord "struct") with
  | true =>
    rw [if_pos rfl, if_pos rfl]
    exact answers_structFields head word
  | false =>
    rw [if_neg Bool.false_ne_true, if_neg Bool.false_ne_true]
    exact .refl l _

theorem answers_skipTypeParameters (head : TypeHead) (found : SourceFile) (ts : List Token) :
    l.Answers
      (if at? (.opening .square) ts && l.startsTypeParameters (ts.drop 1) then
        .head (.run (.parameters head) 0 []) found (ts.drop 1)
      else l.typeBody head found ts)
      (l.skipTypeParameters ts) (l.typeBody head found) := by
  unfold skipTypeParameters
  split
  · have parameters := answers_collect l (.parameters head) 0 [] found (ts.drop 1)
    refine parameters.bind fun pair _ => ?_
    obtain ⟨run, rest⟩ := pair
    exact (Answers.after _ fun _ => cause_expect).map
  · exact .refl l _

theorem answers_typeSpec (place : TypePlace) (doc : List Text) (found : SourceFile)
    (ts : List Token) :
    l.Answers (l.typeStart place doc found ts) (l.typeSpec doc ts) fun read =>
      afterType place read.1 found read.2 := by
  rw [typeSpec_eq, typeStart]
  refine (Answers.after _ fun _ => cause_expect).bind fun pair _ => ?_
  obtain ⟨name, after⟩ := pair
  refine (answers_skipTypeParameters ⟨place, doc, name⟩ found after).bind fun params _ => ?_
  refine (answers_typeFields ⟨place, doc, name⟩ found params).bind fun pair _ => ?_
  obtain ⟨fields, tail⟩ := pair
  exact (answers_collect l (.remainder place _) 0 [] found tail).map

theorem answers_typeGroup (doc : List Text) (earlier : List TypeDecl) (enough : ts.length < fuel) :
    l.Answers (.head (.semicolons (.types doc earlier)) found ts) (l.typeGroup doc fuel ts)
      fun read => .head .declarations { found with types := found.types ++ (earlier ++ read.1) }
        read.2 := by
  rw [typeGroup_eq]
  refine answers_specGroup (fun earlier => .head (.semicolons (.types doc earlier)) found)
    (fun all => .head .declarations { found with types := found.types ++ all })
    isSpec_of_typeSpec ?_ ?_ earlier enough
  · intro earlier ts closed
    refine (leads_semicolons l _ found ts).trans (Leads.head ?_)
    rw [afterSemicolons, step, if_pos closed]
    exact .refl l _
  · intro earlier ts inner
    refine Answers.of_leads (leads_semicolons l _ found ts) (Answers.step ?_)
    rw [afterSemicolons, step, if_neg inner]
    exact answers_typeSpec _ _ found _

theorem answers_typeDecl (isWord : t.isWord "type" = true) :
    l.Answers (.head .declarations found (t :: ts)) (l.typeDecl (t :: ts)) fun read =>
      .head .declarations { found with types := found.types ++ read.1 } read.2 := by
  have keyword : l.expectWord "type" (t :: ts) = .ok (t, ts) :=
    expectWord_eq_ok_iff.2 ⟨rfl, isWord⟩
  have noSemicolon : t.kind ≠ .semicolon := by simp [kind_of_isWord isWord]
  refine Answers.step ?_
  rw [step, declaration, if_neg noSemicolon, if_pos isWord, typeDecl, keyword]
  refine Answers.ok_bind ?_
  dsimp only
  split
  · refine answers_typeGroup (l.docAbove t) [] (Nat.lt_succ_of_le ?_)
    exact (List.drop_suffix 1 ts).length_le
  · exact (answers_typeSpec .single _ found ts).map

/-! ## Variables -/

theorem answers_moreNames (place : VariablePlace) (names : List Text) (found : SourceFile)
    (ts : List Token) :
    l.Answers (.head (.names place names) found ts) (l.moreNames ts) fun read =>
      .head (.run (.variableType place (names ++ read.1)) 0 []) found read.2 := by
  fun_induction Listing.moreNames l ts generalizing names with
  | case1 =>
    refine Answers.step ?_
    rw [Answers, List.append_nil]
    exact .refl l _
  | case2 comma isComma =>
    refine Answers.step ?_
    rw [step, if_pos (by simpa [at?] using isComma)]
    exact .ended (cause_unexpected l _ _) (.refl l _)
  | case3 comma other =>
    refine Answers.step ?_
    rw [step, if_neg (by simpa [at?] using other), Answers, List.append_nil]
    exact .refl l _
  | case4 comma name rest isComma isName ih =>
    have named : l.expect .identifier (name :: rest) = .ok (name, rest) :=
      expect_eq_ok_iff.2 ⟨rfl, isName⟩
    refine Answers.step ?_
    rw [step, if_pos (by simpa [at?] using isComma), List.drop_one, List.tail_cons, named]
    have below := ih (names ++ [name.spelling])
    simp only [List.append_assoc, List.singleton_append] at below
    exact below.map
  | case5 comma name rest isComma other =>
    have wrong : l.expect .identifier (name :: rest) =
        .error (l.unexpected (Token.Kind.label .identifier) (name :: rest)) := if_neg other
    refine Answers.step ?_
    rw [step, if_pos (by simpa [at?] using isComma), List.drop_one, List.tail_cons, wrong]
    exact .ended (cause_unexpected l _ _) (.refl l _)
  | case6 comma name rest other =>
    refine Answers.step ?_
    rw [step, if_neg (by simpa [at?] using other), Answers, List.append_nil]
    exact .refl l _

theorem answers_varValues (place : VariablePlace) (names : List Text) (found : SourceFile)
    (ts : List Token) :
    l.Answers (l.afterRun (.variableType place names) rest found ts) (l.varValues ts) fun read =>
      afterVariable place ⟨names, read.1⟩ found (skipSemicolon read.2) := by
  rw [afterRun, varValues]
  split
  · exact (answers_collect l (.values place names) 0 [] found (ts.drop 1)).map
  · exact .refl l _

theorem answers_varSpec (place : VariablePlace) (found : SourceFile) (ts : List Token) :
    l.Answers (l.variableStart place found ts) (l.varSpec ts) fun read =>
      afterVariable place read.1 found read.2 := by
  rw [varSpec, variableStart]
  refine (Answers.after _ fun _ => cause_expect).bind fun pair _ => ?_
  obtain ⟨name, after⟩ := pair
  refine (answers_moreNames place [name.spelling] found after).bind fun pair _ => ?_
  obtain ⟨names, tail⟩ := pair
  have variableType :=
    answers_collect l (.variableType place (name.spelling :: names)) 0 [] found tail
  refine variableType.bind fun pair _ => ?_
  obtain ⟨type, assigned⟩ := pair
  exact (answers_varValues place _ found assigned).map

theorem answers_varGroup (earlier : List Binding) (enough : ts.length < fuel) :
    l.Answers (.head (.semicolons (.bindings earlier)) found ts) (l.varGroup fuel ts)
      fun read => .head .declarations
        { found with bindings := found.bindings ++ (earlier ++ read.1) } read.2 := by
  rw [varGroup_eq]
  refine answers_specGroup (fun earlier => .head (.semicolons (.bindings earlier)) found)
    (fun all => .head .declarations { found with bindings := found.bindings ++ all })
    isSpec_of_varSpec ?_ ?_ earlier enough
  · intro earlier ts closed
    refine (leads_semicolons l _ found ts).trans (Leads.head ?_)
    rw [afterSemicolons, step, if_pos closed]
    exact .refl l _
  · intro earlier ts inner
    refine Answers.of_leads (leads_semicolons l _ found ts) (Answers.step ?_)
    rw [afterSemicolons, step, if_neg inner]
    exact answers_varSpec _ found _

theorem answers_varDecl (isWord : t.isWord "var" = true) :
    l.Answers (.head .declarations found (t :: ts)) (l.varDecl (t :: ts)) fun read =>
      .head .declarations { found with bindings := found.bindings ++ read.1 } read.2 := by
  have keyword : l.expectWord "var" (t :: ts) = .ok (t, ts) :=
    expectWord_eq_ok_iff.2 ⟨rfl, isWord⟩
  have noSemicolon : t.kind ≠ .semicolon := by simp [kind_of_isWord isWord]
  refine Answers.step ?_
  rw [step, declaration, if_neg noSemicolon, if_neg (not_isWord_of_isWord isWord (by decide)),
    if_pos isWord, varDecl, keyword]
  refine Answers.ok_bind ?_
  dsimp only
  split
  · exact answers_varGroup [] (Nat.lt_succ_of_le (List.drop_suffix 1 ts).length_le)
  · exact (answers_varSpec .single found ts).map

/-! ## Files -/

theorem answers_declarations (found : SourceFile) (enough : ts.length ≤ fuel) :
    l.Answers (.head .declarations found ts) (l.declarations fuel ts) fun read =>
      .ended (.ok { found with
        types := found.types ++ read.1, bindings := found.bindings ++ read.2 }) := by
  induction fuel generalizing ts found with
  | zero =>
    obtain rfl := List.eq_nil_of_length_eq_zero (Nat.le_zero.1 enough)
    refine Answers.step ?_
    simp only [declarations, Answers, List.append_nil]
    exact .refl l _
  | succ fuel ih =>
    cases ts with
    | nil =>
      refine Answers.step ?_
      simp only [declarations, Answers, List.append_nil]
      exact .refl l _
    | cons t ts =>
      have enough := Nat.le_of_succ_le_succ enough
      rw [declarations_cons]
      split
      · next semicolon =>
        refine Answers.step ?_
        rw [step, declaration, if_pos semicolon]
        exact ih found enough
      next semicolon =>
      split
      · next word =>
        refine (answers_typeDecl word).bind fun pair read => ?_
        obtain ⟨types, left⟩ := pair
        have below := ih { found with types := found.types ++ types }
          (Nat.le_trans (length_le_of_typeDecl read) enough)
        simp only [List.append_assoc] at below
        refine below.bind fun _ _ => ?_
        exact .refl l _
      next word =>
      split
      · next isVar =>
        refine (answers_varDecl isVar).bind fun pair read => ?_
        obtain ⟨bindings, left⟩ := pair
        have below := ih { found with bindings := found.bindings ++ bindings }
          (Nat.le_trans (length_le_of_varDecl read) enough)
        simp only [List.append_assoc] at below
        refine below.bind fun _ _ => ?_
        exact .refl l _
      · next isVar =>
        refine Answers.step ?_
        rw [step, declaration, if_neg semicolon, if_neg word, if_neg isVar]
        refine (answers_skipStatement l 0 found (t :: ts)).bind fun left skipped => ?_
        exact ih found (Nat.le_trans (length_le_of_skipStatement skipped) enough)

/-- The beginning of a file comes to what the file declares, or to why it is not read. -/
theorem answers_ofListing? (l : Listing) :
    l.Answers (l.walk 0) (SourceFile.ofListing? l) fun f => .ended (.ok f) := by
  refine Answers.of_leads (leads_semicolons l _ _ l.tokens) ?_
  rw [afterSemicolons, SourceFile.ofListing?]
  refine (Answers.after _ fun _ => cause_expectWord).bind fun pair _ => ?_
  obtain ⟨word, rest⟩ := pair
  refine (Answers.after _ fun _ => cause_expect).bind fun pair _ => ?_
  obtain ⟨name, rest⟩ := pair
  refine (answers_declarations ⟨name.spelling, [], []⟩ (Nat.le_refl _)).bind fun _ _ => ?_
  exact .refl l _

end Listing

end EnumText
