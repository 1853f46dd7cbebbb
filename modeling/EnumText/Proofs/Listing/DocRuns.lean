import Mathlib.Data.List.Nodup
import EnumText.Proofs.Listing.DocGroups
import EnumText.Proofs.Listing.DocLines

/-!
# The groups of comments in their listing

A group is a run of comments on lines of their own that goes on neither with the comment before it
nor with the comment behind it. Behind a comment that does not stand on a line of its own, the next
one that does stands further down. So each group ends above the line where the next one begins, and
no line has more than one group to end on it.

* `mem_groupsAfter_iff`: the groups of some comments are their maximal runs.
* `flatten_groupsAfter`: they hold each comment on a line of its own once.
* `pairwise_groupsAfter`: comments in their order make groups one below the other.
* `docGroups_of_ofText?`: all of it, and what is found by the last lines of the groups.
-/

namespace EnumText

namespace Listing

variable {current comments before after run group : List Comment} {a c d : Comment}

/-! ## Maximal runs -/

/-- Two comments stand on lines of their own, with no blank line between them. -/
def GoesOn (a b : Comment) : Prop :=
  a.ownLine = true ∧ b.ownLine = true ∧ b.line ≤ a.endLine + 1

/-- A run of comments between others that goes on with none of them. -/
structure IsMaximal (before run after : List Comment) : Prop where
  some : run ≠ []
  isGroup : IsGroup run
  first : ∀ a ∈ before.getLast?, ∀ b ∈ run.head?, ¬ GoesOn a b
  last : ∀ a ∈ run.getLast?, ∀ b ∈ after.head?, ¬ GoesOn a b

/-- What is known of an unfinished group, given backwards: it does not go on with the comments
before it. -/
structure Pending (before current : List Comment) : Prop where
  isGroup : IsGroup current.reverse
  first : ∀ a ∈ before.getLast?, a.ownLine = true →
    ∃ b ∈ current.getLast?, ¬ b.line ≤ a.endLine + 1

theorem pending_nil : Pending [] [] := ⟨isGroup_nil, fun _ none => nomatch none⟩

/-- A comment follows an unfinished group if it goes on with the last comment of it. -/
theorem follows_cons_iff (own : a.ownLine = true) :
    follows (a :: current) d = true ↔ GoesOn a d := by
  simp [follows, GoesOn, own]

/-- A further comment leaves an unfinished group behind the comments that are done with. -/
theorem Pending.exists_groupWith (h : Pending before current) (d : Comment) :
    ∃ done, done ++ (groupWith current d).reverse = before ++ current.reverse ++ [d] ∧
      Pending done (groupWith current d) := by
  have isGroup := isGroup_groupWith (d := d) h.isGroup
  unfold groupWith at isGroup ⊢
  split
  · next goes_on =>
    rw [if_pos goes_on] at isGroup
    refine ⟨before, by simp, isGroup, fun a mem own => ?_⟩
    obtain ⟨b, first, far⟩ := h.first a mem own
    have some : current ≠ [] := List.ne_nil_of_mem (List.mem_of_getLast? first)
    exact ⟨b, by rwa [List.getLast?_cons_of_ne_nil some], far⟩
  next apart =>
  rw [if_neg apart] at isGroup
  split
  · next own =>
    rw [if_pos own] at isGroup
    refine ⟨before ++ current.reverse, by simp, isGroup, fun a mem ownA => ⟨d, rfl, fun near => ?_⟩⟩
    cases current with
    | nil => exact apart (by simp [follows, own])
    | cons x current =>
      obtain rfl : x = a := by simpa using mem
      exact apart ((follows_cons_iff ownA).2 ⟨ownA, own, near⟩)
  · next own =>
    refine ⟨before ++ current.reverse ++ [d], by simp, isGroup_nil, fun a mem ownA => ?_⟩
    rw [List.getLast?_concat] at mem
    cases mem
    exact absurd ownA own

/-- A group that is finished by a comment, or by the end of the comments, is a maximal run. -/
theorem Pending.isMaximal (h : Pending before current)
    (apart : ∀ d ∈ comments.head?, follows current d = false) (mem : group ∈ finishGroup current) :
    group = current.reverse ∧ IsMaximal before group comments := by
  obtain ⟨isGroup, some, rfl⟩ := isGroup_of_mem_finishGroup h.isGroup mem
  refine ⟨rfl, some, isGroup, ?_, ?_⟩
  · intro a last b first goes_on
    obtain ⟨c, first', far⟩ := h.first a last goes_on.1
    rw [List.head?_reverse] at first
    obtain rfl := Option.mem_unique first first'
    exact far goes_on.2.2
  · intro a last b first goes_on
    rw [List.getLast?_reverse] at last
    obtain ⟨others, rfl⟩ := List.head?_eq_some_iff.1 last
    have no := apart b first
    rw [(follows_cons_iff goes_on.1).2 goes_on] at no
    cases no

/-- Each group is a maximal run of the comments. -/
theorem Pending.exists_isMaximal (h : Pending before current)
    (mem : run ∈ groupsAfter current comments) :
    ∃ front back, before ++ current.reverse ++ comments = front ++ run ++ back ∧
      IsMaximal front run back := by
  -- the comments that are done with stay before the group that goes on
  induction comments generalizing before current with
  | nil =>
    have apart : ∀ c ∈ ([] : List Comment).head?, follows current c = false :=
      fun _ none => nomatch none
    obtain ⟨rfl, maximal⟩ := h.isMaximal apart mem
    exact ⟨before, [], rfl, maximal⟩
  | cons d rest ih =>
    rw [groupsAfter_cons] at mem
    rcases List.mem_append.1 mem with mem | mem
    · unfold finishedBy at mem
      split at mem
      · cases mem
      · next apart =>
        have apart : ∀ c ∈ (d :: rest).head?, follows current c = false := by
          intro c first
          cases first
          exact Bool.eq_false_iff.2 apart
        obtain ⟨rfl, maximal⟩ := h.isMaximal apart mem
        exact ⟨before, d :: rest, rfl, maximal⟩
    · obtain ⟨done, same, pending⟩ := h.exists_groupWith d
      obtain ⟨front, back, whole, maximal⟩ := ih pending mem
      refine ⟨front, back, ?_, maximal⟩
      rw [← whole, same]
      simp

/-- A group goes on as long as the comments do. -/
theorem groupsAfter_append_of_isGroup (h : IsGroup (current.reverse ++ run)) :
    groupsAfter current (run ++ after) = groupsAfter (run.reverse ++ current) after := by
  induction run generalizing current with
  | nil => rfl
  | cons d run ih =>
    have goes_on : follows current d = true := by
      have own : d.ownLine = true := h.own d (by simp)
      cases current with
      | nil => simpa [follows] using own
      | cons x current =>
        have near : d.line ≤ x.endLine + 1 := (List.isChain_append.1 h.near).2.2 x (by simp) d rfl
        exact (follows_cons_iff (h.own x (by simp))).2 ⟨h.own x (by simp), own, near⟩
    rw [List.cons_append, groupsAfter_cons, finishedBy, groupWith, if_pos goes_on, if_pos goes_on,
      List.nil_append, ih (by simpa using h)]
    simp

theorem head?_groupWith (current : List Comment) (d : Comment) :
    (groupWith current d).head? = if d.ownLine then some d else none := by
  unfold groupWith follows
  cases own : d.ownLine with
  | false => rfl
  | true => split <;> rfl

/-- Behind some comments only their last one can be gone on with. -/
theorem getLast?_of_mem_groupBehind (first : c ∈ (groupBehind [] before).head?) :
    c ∈ before.getLast? ∧ c.ownLine = true := by
  rcases List.eq_nil_or_concat' before with rfl | ⟨init, d, rfl⟩
  · cases first
  · rw [groupBehind, List.foldl_concat, head?_groupWith] at first
    split at first
    · next own =>
      cases first
      exact ⟨List.getLast?_concat, own⟩
    · cases first

/-- The comments before and behind a maximal run make groups of their own. -/
theorem IsMaximal.groupsAfter_append (h : IsMaximal before run after) :
    groupsAfter [] (before ++ (run ++ after)) =
      groupsAfter [] before ++ run :: groupsAfter [] after := by
  have front : groupsAfter [] (before ++ (run ++ after)) =
      groupsAfter [] before ++ groupsAfter [] (run ++ after) := by
    refine groupsAfter_append_of_not_follows fun y first some => ?_
    obtain ⟨x, current, same⟩ := List.exists_cons_of_ne_nil some
    obtain ⟨last, own⟩ : x ∈ before.getLast? ∧ x.ownLine = true :=
      getLast?_of_mem_groupBehind (by simp [same])
    rw [List.head?_append_of_ne_nil _ h.some] at first
    rw [same, Bool.eq_false_iff]
    exact fun goes_on => h.first x last y first ((follows_cons_iff own).1 goes_on)
  have back : groupsAfter run.reverse after =
      finishGroup run.reverse ++ groupsAfter [] after := by
    refine groupsAfter_of_not_follows fun y first _ => ?_
    obtain ⟨x, current, same⟩ := List.exists_cons_of_ne_nil (List.reverse_ne_nil_iff.2 h.some)
    have last : x ∈ run.getLast? := by
      rw [← List.head?_reverse, same]
      rfl
    have own := h.isGroup.own x (List.mem_of_getLast? last)
    rw [same, Bool.eq_false_iff]
    exact fun goes_on => h.last x last y first ((follows_cons_iff own).1 goes_on)
  have start : IsGroup (([] : List Comment).reverse ++ run) := h.isGroup
  rw [front, groupsAfter_append_of_isGroup start, List.append_nil, back]
  simp [finishGroup, h.some]

/-- The groups of comments are their maximal runs. -/
theorem mem_groupsAfter_iff : run ∈ groupsAfter [] comments ↔
    ∃ before after, comments = before ++ run ++ after ∧ IsMaximal before run after := by
  constructor
  · exact pending_nil.exists_isMaximal
  · intro h
    obtain ⟨before, after, rfl, maximal⟩ := h
    rw [List.append_assoc, maximal.groupsAfter_append]
    exact List.mem_append_right _ List.mem_cons_self

/-! ## Each comment once -/

theorem flatten_finishGroup (current : List Comment) :
    (finishGroup current).flatten = current.reverse := by
  cases current with
  | nil => rfl
  | cons c current => exact List.append_nil _

/-- A further comment finishes the comments before it or leaves them unfinished, and is itself left
so if it stands on a line of its own. -/
theorem flatten_finishedBy (current : List Comment) (d : Comment) :
    (finishedBy current d).flatten ++ (groupWith current d).reverse =
      current.reverse ++ [d].filter (·.ownLine) := by
  unfold finishedBy groupWith
  cases goes_on : follows current d with
  | true =>
    rw [follows, Bool.and_eq_true] at goes_on
    simp [goes_on.1]
  | false => cases own : d.ownLine <;> simp [own, flatten_finishGroup]

/-- The groups hold the comments on lines of their own, and no others, in their order. -/
theorem flatten_groupsAfter (current comments : List Comment) :
    (groupsAfter current comments).flatten = current.reverse ++ comments.filter (·.ownLine) := by
  induction comments generalizing current with
  | nil => rw [groupsAfter, flatten_finishGroup, List.filter_nil, List.append_nil]
  | cons d rest ih =>
    rw [groupsAfter_cons, List.flatten_append, ih, ← List.append_assoc, flatten_finishedBy,
      List.append_assoc, ← List.filter_append, List.singleton_append]

/-! ## Comments in their order -/

/-- A comment begins behind another one. Where it is on a line of its own and the other one is not,
it begins on a line below. -/
structure Precedes (a b : Comment) : Prop where
  line : a.endLine ≤ b.line
  below : a.ownLine = false → b.ownLine = true → a.line < b.line

/-- Comments that are read one after the other. -/
structure InOrder (comments : List Comment) : Prop where
  lines : ∀ c ∈ comments, c.line ≤ c.endLine
  pairwise : comments.Pairwise Precedes

theorem of_mem_commentsOf {here : Cursor} {last : Option Token} {lexeme : Lexeme}
    (mem : c ∈ Layout.commentsOf here last lexeme) :
    c.line = here.line ∧ c.ownLine = last.isNone := by
  unfold Layout.commentsOf at mem
  split at mem
  · obtain rfl := List.mem_singleton.1 mem
    exact ⟨rfl, rfl⟩
  · obtain rfl := List.mem_singleton.1 mem
    exact ⟨rfl, rfl⟩
  · cases mem

/-- The comments of lexemes are in order. -/
theorem inOrder_run {lexemes : List Lexeme} (here : Cursor) (last : Option Token)
    (newlines : ∀ x ∈ lexemes, x.kind = .newline → .scalar '\n' ∈ x.spelling) :
    InOrder (Layout.run here last lexemes).comments := by
  refine ⟨fun c mem => ((Layout.between_run _ _ _).comments c mem).order, ?_⟩
  induction lexemes generalizing here last with
  | nil => exact .nil
  | cons lexeme rest ih =>
    have further := (List.forall_mem_cons.1 newlines).2
    have single : (Layout.commentsOf here last lexeme).Pairwise Precedes := by
      unfold Layout.commentsOf
      split
      · exact List.pairwise_singleton _ _
      · exact List.pairwise_singleton _ _
      · exact .nil
    rw [Layout.run]
    refine List.pairwise_append.2 ⟨single, ih _ _ further, fun a mem b mem' => ⟨?_, ?_⟩⟩
    · have before := Layout.between_of_mem_commentsOf mem
      have behind := (Layout.between_run _ _ _).comments _ mem'
      exact Nat.le_trans before.endLine behind.line
    · intro trailing own
      obtain ⟨line, isOwn⟩ := of_mem_commentsOf mem
      cases last with
      | none =>
        rw [isOwn] at trailing
        cases trailing
      | some t =>
        have apart : b.ownLine = false ∨ here.line < b.line :=
          Layout.apart_of_mem_comments newlines (List.mem_append_right _ mem')
        rw [line]
        exact apart.resolve_left (by simp [own])

theorem InOrder.sublist (h : InOrder comments) (part : group.Sublist comments) : InOrder group :=
  ⟨fun c mem => h.lines c (part.subset mem), h.pairwise.sublist part⟩

/-- No comment of an unfinished group ends below the last one. -/
theorem InOrder.endLine_le (h : InOrder (c :: current).reverse) (mem : a ∈ c :: current) :
    a.endLine ≤ c.endLine := by
  rcases List.mem_cons.1 mem with rfl | mem
  · exact Nat.le_refl _
  · have pairwise := h.pairwise
    rw [List.reverse_cons] at pairwise
    have across := (List.pairwise_append.1 pairwise).2.2
    have line := (across a (List.mem_reverse.2 mem) c List.mem_cons_self).line
    exact Nat.le_trans line (h.lines c (by simp))

/-- A comment that finishes a group and those behind it stand below the group, as far as they are on
lines of their own. -/
theorem InOrder.endLine_lt (h : InOrder (current.reverse ++ d :: comments))
    (isGroup : IsGroup current.reverse) (apart : ¬ follows current d = true) (mem : a ∈ current)
    (later : c ∈ groupWith current d ∨ c ∈ comments) (own : c.ownLine = true) :
    a.endLine < c.line := by
  obtain ⟨-, back, across⟩ := List.pairwise_append.1 h.pairwise
  have before : a.endLine ≤ d.line := (across a (List.mem_reverse.2 mem) d List.mem_cons_self).line
  have order := h.lines d (by simp)
  have behind : c ∈ comments → d.line ≤ c.line := fun mem =>
    Nat.le_trans order ((List.pairwise_cons.1 back).1 c mem).line
  rw [groupWith, if_neg apart] at later
  cases ownD : d.ownLine with
  | false =>
    -- the comment stands behind a token, and the next one on a line of its own is below it
    rw [ownD] at later
    have later := later.resolve_left List.not_mem_nil
    exact Nat.lt_of_le_of_lt before (((List.pairwise_cons.1 back).1 c later).below ownD own)
  | true =>
    -- there is a blank line before the comment
    rw [ownD] at later
    have least : d.line ≤ c.line := by
      rcases later with same | later
      · rw [List.mem_singleton.1 same]
      · exact behind later
    cases current with
    | nil => cases mem
    | cons x current =>
      have ownX : x.ownLine = true := isGroup.own x (by simp)
      have far : ¬ d.line ≤ x.endLine + 1 := fun near =>
        apart ((follows_cons_iff ownX).2 ⟨ownX, ownD, near⟩)
      have last := (h.sublist (List.sublist_append_left _ _)).endLine_le mem
      omega

theorem pairwise_finishGroup {R : List Comment → List Comment → Prop} (current : List Comment) :
    (finishGroup current).Pairwise R := by
  unfold finishGroup
  split
  · exact .nil
  · exact List.pairwise_singleton _ _

/-- Each group of comments ends above the line where the next one begins. -/
theorem pairwise_groupsAfter (inOrder : InOrder (current.reverse ++ comments))
    (isGroup : IsGroup current.reverse) :
    (groupsAfter current comments).Pairwise fun g h => ∀ a ∈ g, ∀ b ∈ h, a.endLine < b.line := by
  induction comments generalizing current with
  | nil => exact pairwise_finishGroup current
  | cons d rest ih =>
    have further : InOrder ((groupWith current d).reverse ++ rest) := by
      refine inOrder.sublist ?_
      rw [← List.singleton_append, ← List.append_assoc]
      exact (groupWith_suffix current d).sublist.append (.refl _)
    have isGroup' := isGroup_groupWith (d := d) isGroup
    have finished : (finishedBy current d).Pairwise fun g h =>
        ∀ a ∈ g, ∀ b ∈ h, a.endLine < b.line := by
      unfold finishedBy
      split
      · exact .nil
      · exact pairwise_finishGroup current
    rw [groupsAfter_cons]
    refine List.pairwise_append.2 ⟨finished, ih further isGroup', ?_⟩
    intro g memG h memH a mem b mem'
    have own := (isGroup_of_mem_groupsAfter isGroup' memH).1.own b mem'
    unfold finishedBy at memG
    split at memG
    · cases memG
    · next apart =>
      exact inOrder.endLine_lt isGroup apart (mem_finishGroup memG mem)
        (mem_of_mem_groupsAfter memH mem') own

/-! ## The groups of a listing -/

variable {source : Text} {l : Listing}

theorem inOrder_of_ofText? (listed : ofText? source = .ok l) : InOrder l.comments := by
  obtain ⟨lexemes, cut, rfl⟩ := ofText?_eq_ok_iff.1 listed
  have placed := congrArg Layout.comments (Layout.place_eq_run .start none lexemes)
  exact placed ▸ inOrder_run .start none (Lexeme.newline_of_split cut)

/-- The line on which a group of comments ends. -/
def endOf (group : List Comment) : Nat := group.getLast?.elim 0 (·.endLine)

theorem any_getLast?_iff (some : group ≠ []) {line : Nat} :
    group.getLast?.any (·.endLine = line) = true ↔ endOf group = line := by
  rw [endOf, List.getLast?_eq_some_getLast some, Option.any_some, Option.elim_some,
    decide_eq_true_iff]

/-- Groups that end on different lines are found by these lines. -/
theorem docEndingOn_endOf (some : ∀ g ∈ l.docGroups, g ≠ [])
    (different : (l.docGroups.map endOf).Nodup) (mem : group ∈ l.docGroups) :
    l.docEndingOn (endOf group) = group.map (·.text) := by
  unfold docEndingOn
  split
  · next other found =>
    have memOther := List.mem_reverse.1 (List.mem_of_find?_eq_some found)
    have ends := List.find?_some found
    have same := (any_getLast?_iff (some other memOther)).1 ends
    obtain rfl := List.inj_on_of_nodup_map different memOther mem same
    rfl
  · next none =>
    have no := List.find?_eq_none.1 none group (List.mem_reverse.2 mem)
    exact absurd ((any_getLast?_iff (some group mem)).2 rfl) no

/-- Nothing is found by other lines. -/
theorem docEndingOn_eq_nil (some : ∀ g ∈ l.docGroups, g ≠ []) {line : Nat}
    (other : line ∉ l.docGroups.map endOf) : l.docEndingOn line = [] := by
  unfold docEndingOn
  split
  · next group found =>
    have mem := List.mem_reverse.1 (List.mem_of_find?_eq_some found)
    have ends := List.find?_some found
    exact absurd (List.mem_map.2 ⟨group, mem, (any_getLast?_iff (some group mem)).1 ends⟩) other
  · rfl

/-- Groups one below the other end on rising lines. -/
theorem endOf_lt {g h : List Comment} (some : g ≠ []) (some' : h ≠ [])
    (lines : ∀ c ∈ h, c.line ≤ c.endLine) (below : ∀ a ∈ g, ∀ b ∈ h, a.endLine < b.line) :
    endOf g < endOf h := by
  rw [endOf, endOf, List.getLast?_eq_some_getLast some, List.getLast?_eq_some_getLast some']
  exact Nat.lt_of_lt_of_le (below _ (List.getLast_mem some) _ (List.getLast_mem some'))
    (lines _ (List.getLast_mem some'))

/-- The doc comments of a text are made of its comments on lines of their own. A group is a run of
them, each of which begins at most one line below the end of the one before it, that is no part of a
longer one. Each comment on a line of its own is in one group. The groups are found by their last
lines, which rise, and nothing is found by other lines. -/
theorem docGroups_of_ofText? (listed : ofText? source = .ok l) :
    (∀ run, run ∈ l.docGroups ↔
      ∃ before after, l.comments = before ++ run ++ after ∧ IsMaximal before run after) ∧
    l.docGroups.flatten = l.comments.filter (·.ownLine) ∧
    ∃ lines : List Nat, lines.Pairwise (· < ·) ∧
      l.docGroups.map (fun group => group.getLast?.map (·.endLine)) = lines.map some ∧
      l.docGroups.map (fun group => group.map (·.text)) = lines.map l.docEndingOn ∧
      ∀ line, line ∉ lines → l.docEndingOn line = [] := by
  have inOrder := inOrder_of_ofText? listed
  have start : IsGroup ([] : List Comment).reverse := isGroup_nil
  have group {g : List Comment} (mem : g ∈ l.docGroups) := isGroup_of_mem_groupsAfter start mem
  have some : ∀ g ∈ l.docGroups, g ≠ [] := fun g mem => (group mem).2.1
  have rising : (l.docGroups.map endOf).Pairwise (· < ·) := by
    have order : l.docGroups.Pairwise fun g h => ∀ a ∈ g, ∀ b ∈ h, a.endLine < b.line :=
      pairwise_groupsAfter inOrder start
    refine List.pairwise_map.2 (order.imp_of_mem fun {g h} memG memH below => ?_)
    exact endOf_lt (some g memG) (some h memH)
      (fun c mem => inOrder.lines c ((group memH).2.2.subset mem)) below
  have different : (l.docGroups.map endOf).Nodup := rising.imp Nat.ne_of_lt
  refine ⟨fun run => mem_groupsAfter_iff, flatten_groupsAfter [] l.comments,
    l.docGroups.map endOf, rising, ?_, ?_, fun line other => docEndingOn_eq_nil some other⟩
  · rw [List.map_map]
    refine List.map_congr_left fun g mem => ?_
    rw [Function.comp_apply, endOf, List.getLast?_eq_some_getLast (some g mem)]
    rfl
  · rw [List.map_map]
    exact List.map_congr_left fun g mem => (docEndingOn_endOf some different mem).symm

/-- The last comment stands right below a group, and behind a comment on the last line of that. -/
def commented : Text := text "// a\n// b\n\n/* c\n*/ x // d\n// e\n"

theorem docGroups_of_ofText?_commented :
    ∃ l, ofText? commented = .ok l ∧
      (∀ run ∈ l.docGroups, ∃ before after, l.comments = before ++ run ++ after ∧
        IsMaximal before run after) ∧
      l.docGroups.flatten = l.comments.filter (·.ownLine) ∧
      ∃ lines : List Nat, lines.Pairwise (· < ·) ∧ lines.map l.docEndingOn =
        [[text "// a", text "// b"], [text "/* c\n*/"], [text "// e"]] := by
  have read : (ofText? commented).map (·.docGroups.map fun group => group.map (·.text)) =
      .ok [[text "// a", text "// b"], [text "/* c\n*/"], [text "// e"]] := by
    decide +kernel
  obtain ⟨l, listed, groups⟩ := map_eq_ok_iff.1 read
  obtain ⟨maximal, whole, lines, rising, -, found, -⟩ := docGroups_of_ofText? listed
  exact ⟨l, listed, fun run mem => (maximal run).1 mem, whole, lines, rising, found ▸ groups⟩

end Listing

end EnumText
