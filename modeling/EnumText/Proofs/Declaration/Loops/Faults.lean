import EnumText.Proofs.Declaration.Loops.Rounds

/-!
# Faults are found at tokens of the file

Whatever the reader cannot go on with, it names a token of the listing where that shows, or the end
of the file: what is left at the head of a loop, and what a run has taken, are tokens of the
listing.

* `step_located`: each step keeps this.
* `mem_of_ofListing?`: so the token of each fault is one of the listing.
-/

namespace EnumText.Listing

open Declaration

/-- The tokens that a loop holds. -/
def heldBy : Loop → List Token
  | .run _ _ taken => taken
  | _ => []

/-- What is left and what is held are tokens of a listing, and a fault is at one of them or at the
end of the file. -/
def Located (l : Listing) : State → Prop
  | .head loop _ left => left ⊆ l.tokens ∧ heldBy loop ⊆ l.tokens
  | .ended (.error fault) => fault.token ∈ l.allTokens
  | .ended (.ok _) => True

variable {l : Listing} {found : SourceFile} {ts rest : List Token} {t : Token} {s : State}

/-! ## Readers without loops -/

theorem mem_allTokens (mem : t ∈ l.tokens) : t ∈ l.allTokens := List.mem_append_left _ mem

theorem eof_mem_allTokens (l : Listing) : l.eof ∈ l.allTokens :=
  List.mem_append_right _ (List.mem_singleton_self _)

theorem token_unexpected_mem (h : ts ⊆ l.tokens) (wanted : Text) :
    (l.unexpected wanted ts).token ∈ l.allTokens := by
  cases ts with
  | nil => exact eof_mem_allTokens l
  | cons t rest => exact mem_allTokens (h List.mem_cons_self)

theorem token_mem_of_expect {kind : Token.Kind} {fault : Fault} (h : ts ⊆ l.tokens)
    (read : l.expect kind ts = .error fault) : fault.token ∈ l.allTokens := by
  have unexpected := token_unexpected_mem h kind.label
  unfold expect at read
  split at read
  · split at read
    · cases read
    · cases read
      exact unexpected
  · cases read
    exact unexpected

theorem token_mem_of_expectWord {word : String} {fault : Fault} (h : ts ⊆ l.tokens)
    (read : l.expectWord word ts = .error fault) : fault.token ∈ l.allTokens := by
  have unexpected := token_unexpected_mem h (text word)
  unfold expectWord at read
  split at read
  · split at read
    · cases read
    · cases read
      exact unexpected
  · cases read
    exact unexpected

/-- A line with names only is refused at the last of them. -/
theorem token_mem_of_fieldsOfLine {fault : Fault} (h : ts ⊆ l.tokens)
    (read : l.fieldsOfLine ts = .error fault) : fault.token ∈ l.allTokens := by
  unfold fieldsOfLine at read
  split at read
  · next first second rest same =>
    split at read
    · dsimp only at read
      split at read
      · cases read
        refine mem_allTokens (h (withoutTag_subset ts _ ?_))
        rw [same]
        exact List.mem_cons_of_mem _ (List.getLast_mem _)
      · cases read
    · cases read
  · cases read

theorem drop_one_subset (h : ts ⊆ l.tokens) : ts.drop 1 ⊆ l.tokens :=
  List.Subset.trans (List.drop_subset 1 ts) h

theorem skipSemicolon_subset (h : ts ⊆ l.tokens) : skipSemicolon ts ⊆ l.tokens := by
  cases ts with
  | nil => exact h
  | cons t rest =>
    rw [skipSemicolon]
    split
    · exact (List.cons_subset.1 h).2
    · exact h

theorem afterAssign_subset (h : ts ⊆ l.tokens) : afterAssign ts ⊆ l.tokens := by
  rw [afterAssign]
  split
  · exact drop_one_subset h
  · exact h

/-! ## Between the loops -/

theorem located_after {α : Type} {read : Except Fault α} {next : α → State}
    (failed : ∀ fault, read = .error fault → fault.token ∈ l.allTokens)
    (h : ∀ a, read = .ok a → l.Located (next a)) : l.Located (.after read next) := by
  cases read with
  | ok a => exact h a rfl
  | error fault => exact failed fault rfl

/-- A token of some kind is read. -/
theorem located_expect {kind : Token.Kind} {next : Taken Token → State} (h : ts ⊆ l.tokens)
    (each : ∀ t rest, rest ⊆ l.tokens → l.Located (next (t, rest))) :
    l.Located (.after (l.expect kind ts) next) := by
  refine located_after (fun fault read => token_mem_of_expect h read) fun pair read => ?_
  obtain ⟨t, rest⟩ := pair
  obtain ⟨rfl, -⟩ := expect_eq_ok_iff.1 read
  exact each t rest (List.cons_subset.1 h).2

/-- A loop begins that holds no tokens. -/
theorem located_head {loop : Loop} (h : ts ⊆ l.tokens) (none : heldBy loop = []) :
    l.Located (.head loop found ts) :=
  ⟨h, none ▸ List.nil_subset _⟩

theorem located_afterType (place : TypePlace) (type : TypeDecl) (h : ts ⊆ l.tokens) :
    l.Located (afterType place type found ts) := by
  cases place <;> exact located_head h rfl

theorem located_afterVariable (place : VariablePlace) (binding : Binding) (h : ts ⊆ l.tokens) :
    l.Located (afterVariable place binding found ts) := by
  cases place <;> exact located_head h rfl

theorem located_typeBody (head : TypeHead) (h : ts ⊆ l.tokens) :
    l.Located (l.typeBody head found ts) := by
  have body := afterAssign_subset h
  rw [typeBody]
  dsimp only
  split
  · exact located_expect (drop_one_subset body) fun _ _ left => located_head left rfl
  · exact located_head body rfl

theorem located_typeStart (place : TypePlace) (doc : List Text) (h : ts ⊆ l.tokens) :
    l.Located (l.typeStart place doc found ts) := by
  refine located_expect h fun name rest left => ?_
  dsimp only
  split
  · exact located_head (drop_one_subset left) rfl
  · exact located_typeBody _ left

theorem located_variableStart (place : VariablePlace) (h : ts ⊆ l.tokens) :
    l.Located (l.variableStart place found ts) :=
  located_expect h fun _ _ left => located_head left rfl

theorem located_afterSemicolons (next : Next) (h : ts ⊆ l.tokens) :
    l.Located (l.afterSemicolons next found ts) := by
  cases next with
  | packageClause =>
    refine located_after (fun fault read => token_mem_of_expectWord h read) fun pair read => ?_
    obtain ⟨word, rest⟩ := pair
    obtain ⟨rfl, -⟩ := expectWord_eq_ok_iff.1 read
    exact located_expect (List.cons_subset.1 h).2 fun _ _ left => located_head left rfl
  | fields head fields => exact located_head h rfl
  | types doc earlier => exact located_head h rfl
  | bindings earlier => exact located_head h rfl

theorem located_afterRun (purpose : Purpose) {taken : List Token} (h : ts ⊆ l.tokens)
    (held : taken ⊆ l.tokens) : l.Located (l.afterRun purpose taken found ts) := by
  have behind := skipSemicolon_subset h
  cases purpose with
  | parameters head => exact located_expect h fun _ _ left => located_typeBody head left
  | line head fields =>
    exact located_after (fun fault read => token_mem_of_fieldsOfLine held read)
      fun _ _ => located_head h rfl
  | remainder place type => exact located_afterType place type behind
  | variableType place names =>
    rw [afterRun]
    split
    · exact located_head (drop_one_subset h) rfl
    · exact located_afterVariable place _ behind
  | values place names => exact located_afterVariable place _ behind

theorem located_declaration (h : t :: rest ⊆ l.tokens) :
    l.Located (l.declaration found t rest) := by
  have left := (List.cons_subset.1 h).2
  rw [declaration]
  split
  · exact located_head left rfl
  split
  · split
    · exact located_head (drop_one_subset left) rfl
    · exact located_typeStart .single _ left
  split
  · split
    · exact located_head (drop_one_subset left) rfl
    · exact located_variableStart .single left
  · exact located_head h rfl

/-! ## Steps -/

theorem located_statement (depth : Nat) (h : ts ⊆ l.tokens) :
    l.Located (l.step (.head (.statement depth) found ts)) := by
  cases ts with
  | nil =>
    rw [step]
    split
    · exact located_head h rfl
    · exact eof_mem_allTokens l
  | cons t rest =>
    obtain ⟨first, left⟩ := List.cons_subset.1 h
    rw [step]
    split
    · exact located_head left rfl
    split
    · split
      · exact mem_allTokens first
      · exact located_head left rfl
    split
    · exact located_head left rfl
    · exact located_head left rfl

theorem located_run (purpose : Purpose) (depth : Nat) {taken : List Token} (h : ts ⊆ l.tokens)
    (held : taken ⊆ l.tokens) : l.Located (l.step (.head (.run purpose depth taken) found ts)) := by
  cases ts with
  | nil =>
    rw [step]
    split
    · exact located_afterRun purpose h held
    · exact eof_mem_allTokens l
  | cons t rest =>
    obtain ⟨first, left⟩ := List.cons_subset.1 h
    rw [step]
    split
    · exact located_afterRun purpose h held
    · exact ⟨left, List.append_subset.2 ⟨held, List.cons_subset.2 ⟨first, List.nil_subset _⟩⟩⟩

/-- A step stays among the tokens of the listing. -/
theorem step_located (h : l.Located s) : l.Located (l.step s) := by
  rcases s with ⟨loop, found, ts⟩ | result
  swap
  · exact h
  obtain ⟨left, held⟩ := h
  cases loop with
  | semicolons next =>
    cases ts with
    | nil => exact located_afterSemicolons next left
    | cons t rest =>
      rw [step]
      split
      · exact located_head (List.cons_subset.1 left).2 rfl
      · exact located_afterSemicolons next left
  | declarations =>
    cases ts with
    | nil => trivial
    | cons t rest => exact located_declaration left
  | statement depth => exact located_statement depth left
  | run purpose depth taken => exact located_run purpose depth left held
  | fields head fields =>
    cases ts with
    | nil => exact eof_mem_allTokens l
    | cons t rest =>
      rw [step]
      split
      · exact located_head (List.cons_subset.1 left).2 rfl
      · exact located_head left rfl
  | names place names =>
    rw [step]
    split
    · exact located_expect (drop_one_subset left) fun _ _ more => located_head more rfl
    · exact located_head left rfl
  | types doc earlier =>
    rw [step]
    split
    · exact located_head (drop_one_subset left) rfl
    · exact located_typeStart (.grouped doc earlier) _ left
  | bindings earlier =>
    rw [step]
    split
    · exact located_head (drop_one_subset left) rfl
    · exact located_variableStart (.grouped earlier) left

/-- A walk stays among the tokens of the listing. -/
theorem walk_located (l : Listing) (n : Nat) : l.Located (l.walk n) := by
  induction n with
  | zero => exact located_head (List.Subset.refl _) rfl
  | succ n ih =>
    rw [walk_add]
    exact step_located ih

/-- The fault of a listing is told at one of its tokens. -/
theorem mem_of_ofListing? {fault : Fault} (failed : SourceFile.ofListing? l = .error fault) :
    fault.token ∈ l.allTokens := by
  obtain ⟨n, -, ⟨result, ended⟩ | ⟨t, strands⟩⟩ := l.exists_walk_ended_or_strands
  · have located := walk_located l n
    rw [ended, ← (ofListing?_of_ended ended).1, failed] at located
    exact located
  · have located := walk_located l n
    rw [ofListing?_of_strands strands] at failed
    cases failed
    generalize l.walk n = s at located strands
    cases strands with
    | mk closes => exact mem_allTokens (located.1 List.mem_cons_self)

end EnumText.Listing
