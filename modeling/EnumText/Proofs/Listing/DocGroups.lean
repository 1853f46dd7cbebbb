import Mathlib.Data.List.Chain
import EnumText.Proofs.Listing.DocComments
import EnumText.Proofs.Listing.OwnLines

/-!
# Doc comments in their source

The doc comment above a token is told by line numbers alone: it is made of comments on lines of
their own, with no blank line between them or below. Tokens can stand between them and the token
all the same, on a line on which a comment ends, or before the token on its own line.

* `exists_group_of_docAbove`: a doc comment is a run of the comments of its listing.
* `Attached`: what that means for the places of its comments, and of the tokens between.
* `exists_attached_of_docAbove`: each doc comment is attached so.
-/

namespace EnumText

namespace Listing

/-! ## Groups -/

/-- Comments on lines of their own, with no blank line between them. -/
structure IsGroup (group : List Comment) : Prop where
  own : ∀ c ∈ group, c.ownLine = true
  near : group.IsChain fun a b => b.line ≤ a.endLine + 1

variable {current comments group : List Comment} {d : Comment}

theorem isGroup_nil : IsGroup [] := ⟨List.forall_mem_nil _, .nil⟩

theorem isGroup_groupWith (h : IsGroup current.reverse) :
    IsGroup (groupWith current d).reverse := by
  unfold groupWith
  split
  · next goes_on =>
    rw [follows, Bool.and_eq_true] at goes_on
    obtain ⟨own, near⟩ := goes_on
    rw [List.reverse_cons]
    refine ⟨List.forall_mem_append.2 ⟨h.own, List.forall_mem_singleton.2 own⟩, ?_⟩
    refine List.isChain_append.2 ⟨h.near, .singleton d, fun last mem next first => ?_⟩
    rw [List.getLast?_reverse, Option.mem_def] at mem
    rw [mem] at near
    cases first
    simpa using near
  split
  · next own => exact ⟨List.forall_mem_singleton.2 own, .singleton d⟩
  · exact isGroup_nil

/-- Behind a further comment the unfinished group is still a part of the comments. -/
theorem groupWith_suffix (current : List Comment) (d : Comment) :
    (groupWith current d).reverse <:+ current.reverse ++ [d] := by
  unfold groupWith
  split
  · refine ⟨[], ?_⟩
    rw [List.nil_append, List.reverse_cons]
  split
  · exact List.suffix_append _ _
  · exact List.nil_suffix

theorem isGroup_of_mem_finishGroup (h : IsGroup current.reverse)
    (mem : group ∈ finishGroup current) : IsGroup group ∧ group ≠ [] ∧ group = current.reverse := by
  unfold finishGroup at mem
  split at mem
  · cases mem
  · next some =>
    obtain rfl := List.mem_singleton.1 mem
    exact ⟨h, by simpa using some, rfl⟩

/-- Each group is a run of the comments. -/
theorem isGroup_of_mem_groupsAfter (h : IsGroup current.reverse)
    (mem : group ∈ groupsAfter current comments) :
    IsGroup group ∧ group ≠ [] ∧ group <:+: current.reverse ++ comments := by
  induction comments generalizing current with
  | nil =>
    obtain ⟨isGroup, some, rfl⟩ := isGroup_of_mem_finishGroup h mem
    exact ⟨isGroup, some, List.infix_append_left⟩
  | cons d rest ih =>
    rw [groupsAfter_cons] at mem
    rcases List.mem_append.1 mem with mem | mem
    · unfold finishedBy at mem
      split at mem
      · cases mem
      · obtain ⟨isGroup, some, rfl⟩ := isGroup_of_mem_finishGroup h mem
        exact ⟨isGroup, some, List.infix_append_left⟩
    · obtain ⟨isGroup, some, inside⟩ := ih (isGroup_groupWith h) mem
      refine ⟨isGroup, some, inside.trans ?_⟩
      obtain ⟨front, whole⟩ := groupWith_suffix current d
      refine ⟨front, [], ?_⟩
      rw [List.append_nil, ← List.append_assoc, whole, List.append_assoc]
      rfl

/-- A doc comment is a group of the comments of its listing, which ends right above the token. -/
theorem exists_group_of_docAbove {l : Listing} {t : Token} (some : l.docAbove t ≠ []) :
    ∃ group last, IsGroup group ∧ group <:+: l.comments ∧ l.docAbove t = group.map (·.text) ∧
      group.getLast? = .some last ∧ last.endLine + 1 = t.line := by
  unfold docAbove at some ⊢
  split at some
  · exact absurd rfl some
  next line =>
  rw [if_neg line]
  unfold docEndingOn at some ⊢
  split at some
  · next group found =>
    have start : IsGroup ([] : List Comment).reverse := isGroup_nil
    obtain ⟨isGroup, -, inside⟩ := isGroup_of_mem_groupsAfter start
      (List.mem_reverse.1 (List.mem_of_find?_eq_some found))
    have ends := List.find?_some found
    obtain ⟨last, final, on⟩ := (Option.any_eq_true _ _).1 ends
    have on := of_decide_eq_true on
    exact ⟨group, last, isGroup, inside, rfl, final, by omega⟩
  · exact absurd rfl some

/-! ## Comments and tokens in their order -/

end Listing

theorem Text.lineAt_mono (t : Text) {i j : Nat} (le : i ≤ j) : t.lineAt i ≤ t.lineAt j :=
  Nat.succ_le_succ ((List.take_sublist_take_left le).count_le _)

namespace Listing

/-- Tokens and comments stand in a source, none of them inside of another. No token stands before a
comment with a line of its own on that line, after the comment before it. -/
structure Marked (source : Text) (ts : List Token) (marks : List (Span × Comment)) : Prop where
  comment : ∀ d ∈ marks, d.1.IsComment source d.2
  order : marks.Pairwise fun a b => a.1.stop ≤ b.1.start
  tokens : ts.Pairwise fun t u => t.start ≤ u.start
  line : ∀ t ∈ ts, t.line = source.lineAt t.start
  apart : ∀ d ∈ marks, ∀ t ∈ ts, t.start ≤ d.1.start ∨ d.1.stop ≤ t.start
  inline : ∀ a b, [a, b] <:+: marks → a.2.ownLine = true → b.2.ownLine = true →
    ∀ t ∈ ts, a.1.stop ≤ t.start → t.start ≤ b.1.start → t.line < b.2.line

/-- The comments of a listing, each with the part of the source that it takes. -/
theorem exists_marked_of_ofText? {source : Text} {l : Listing} (listed : ofText? source = .ok l) :
    ∃ spans, List.Forall₂ (fun s c => s.IsComment source c) spans l.comments ∧
      Marked source l.tokens (spans.zip l.comments) := by
  obtain ⟨lexemes, cut, rfl⟩ := ofText?_eq_ok_iff.1 listed
  have fills := fills_place cut [] none
  rw [List.nil_append] at fills
  have comments := fills.forall₂_isComment
  have inside {t : Token} (mem : t ∈ (Layout.place .start none lexemes).tokens) :=
    List.mem_append_left [(Layout.place .start none lexemes).eof] mem
  have isComment : ∀ d ∈ Layout.marks .start none lexemes, d.1.IsComment source d.2 :=
    fun d mem => List.forall₂_zip comments mem
  refine ⟨_, comments, isComment, ?_, ?_, ?_, ?_, ?_⟩
  · have order := fills.pairwise_spans
    rw [← List.map_fst_zip comments.length_eq.le] at order
    exact List.pairwise_map.1 order
  · refine (List.pairwise_append.1 fills.pairwise).1.imp_of_mem fun {t u} mem _ le => ?_
    exact Nat.le_trans (fills.bounds t (inside mem)).2.1 le
  · exact fun t mem => (fills.places t (inside mem)).line
  · intro d mem t mem'
    refine (fills.apart d.1 (List.of_mem_zip mem).1 t (inside mem')).imp_left fun le => ?_
    exact Nat.le_trans (fills.bounds t (inside mem')).2.1 le
  · intro a b pair own own'
    exact line_lt_of_infix cut .start none a b pair
      (isComment a (pair.subset List.mem_cons_self)).lt
      (isComment b (pair.subset (List.mem_cons_of_mem _ List.mem_cons_self))).lt own own'

namespace Marked

variable {source : Text} {ts before after : List Token} {marks docs : List (Span × Comment)}
variable {t first : Token} {d last : Span × Comment}

theorem endLine_le (h : Marked source ts marks) (mem : d ∈ marks) (mem' : t ∈ ts)
    (le : d.1.stop ≤ t.start) : d.2.endLine ≤ t.line := by
  rw [(h.comment d mem).endLine, h.line t mem']
  exact source.lineAt_mono le

theorem line_le (h : Marked source ts marks) (mem : d ∈ marks) (mem' : t ∈ ts)
    (le : t.start ≤ d.1.start) : t.line ≤ d.2.line := by
  rw [(h.comment d mem).line, h.line t mem']
  exact source.lineAt_mono le

theorem line_le_endLine (h : Marked source ts marks) (mem : d ∈ marks) :
    d.2.line ≤ d.2.endLine := by
  rw [(h.comment d mem).line, (h.comment d mem).endLine]
  exact source.lineAt_mono (Nat.le_of_lt (h.comment d mem).lt)

/-- A comment whose last line is above a token stands before it. -/
theorem stop_le (h : Marked source ts marks) (mem : d ∈ marks) (mem' : t ∈ ts)
    (above : d.2.endLine < t.line) : d.1.stop ≤ t.start := by
  refine (h.apart d mem t mem').resolve_left fun le => ?_
  have below := h.line_le mem mem' le
  have order := h.line_le_endLine mem
  omega

/-- No comment ends on a line below the last one. -/
theorem endLine_le_getLast (h : Marked source ts marks) (inside : docs <:+: marks)
    (final : docs.getLast? = some last) (mem : d ∈ docs) : d.2.endLine ≤ last.2.endLine := by
  obtain ⟨init, rfl⟩ := List.getLast?_eq_some_iff.1 final
  rcases List.mem_append.1 mem with front | same
  · have order := (List.pairwise_append.1 (h.order.sublist inside.sublist)).2.2 d front last
      List.mem_cons_self
    have isComment := h.comment d (inside.subset mem)
    have isComment' := h.comment last (inside.subset (List.mem_append_right _ List.mem_cons_self))
    rw [isComment.endLine, isComment'.endLine]
    exact source.lineAt_mono (Nat.le_trans order (Nat.le_of_lt isComment'.lt))
  · rw [List.mem_singleton.1 same]

/-- A token behind one of the comments of a group, and not below the line after the group, stands on
that line or on the last line of a comment before it. -/
theorem line_eq (h : Marked source ts marks) {n : Nat} (mem : t ∈ ts) (le : t.line ≤ n)
    (inside : docs <:+: marks) (own : ∀ d ∈ docs, d.2.ownLine = true)
    (near : docs.IsChain fun a b => b.2.line ≤ a.2.endLine + 1)
    (below : ∀ d ∈ docs.getLast?, d.2.endLine + 1 = n) (behind : ∃ d ∈ docs, d.1.stop ≤ t.start) :
    t.line = n ∨ ∃ d ∈ docs, d.1.stop ≤ t.start ∧ t.line = d.2.endLine := by
  induction docs with
  | nil =>
    obtain ⟨d, none, -⟩ := behind
    cases none
  | cons a rest ih =>
    have deeper (behind : ∃ d ∈ rest, d.1.stop ≤ t.start) (some : rest ≠ []) :
        t.line = n ∨ ∃ d ∈ a :: rest, d.1.stop ≤ t.start ∧ t.line = d.2.endLine := by
      have inside := (List.suffix_cons a rest).isInfix.trans inside
      have own := (List.forall_mem_cons.1 own).2
      rw [List.getLast?_cons_of_ne_nil some] at below
      refine (ih inside own near.tail below behind).imp_right fun ⟨d, mem, found⟩ => ?_
      exact ⟨d, List.mem_cons_of_mem _ mem, found⟩
    obtain ⟨d, memD, behind⟩ := behind
    rcases List.mem_cons.1 memD with rfl | memD
    · have least := h.endLine_le (inside.subset List.mem_cons_self) mem behind
      cases rest with
      | nil =>
        have final := below d rfl
        by_cases same : t.line = n
        · exact .inl same
        · exact .inr ⟨d, List.mem_cons_self, behind, by omega⟩
      | cons b rest =>
        by_cases later : b.1.stop ≤ t.start
        · exact deeper ⟨b, List.mem_cons_self, later⟩ (List.cons_ne_nil _ _)
        · -- The token is above the next comment, and there is no line between the two comments.
          have pair : [d, b] <:+: marks := (List.prefix_append [d, b] rest).isInfix.trans inside
          have memB : b ∈ marks := pair.subset (List.mem_cons_of_mem _ List.mem_cons_self)
          have early := (h.apart b memB t mem).resolve_right later
          have above := h.inline d b pair (own d List.mem_cons_self)
            (own b (List.mem_cons_of_mem _ List.mem_cons_self)) t mem behind early
          have adjacent := (List.isChain_cons_cons.1 near).1
          exact .inr ⟨d, List.mem_cons_self, behind, by omega⟩
    · exact deeper ⟨d, memD, behind⟩ (List.ne_nil_of_mem memD)

end Marked

/-! ## Doc comments above tokens -/

/-- How a doc comment stands above a token: its comments stand before the token, one after the other
on lines of their own, with no blank line between them or below. Another token stands between them
and the token if and only if one stands behind a comment on the line on which that ends, or before
the token on its own line. -/
structure Attached (before : List Token) (first : Token) (docs : List (Span × Comment)) :
    Prop where
  own : ∀ d ∈ docs, d.2.ownLine = true
  above : ∀ d ∈ docs, d.1.stop ≤ first.start
  order : docs.Pairwise fun a b => a.1.stop ≤ b.1.start
  near : docs.IsChain fun a b => b.2.line ≤ a.2.endLine + 1
  below : ∀ d ∈ docs.getLast?, d.2.endLine + 1 = first.line
  between : (∃ t ∈ before, ∃ d ∈ docs, d.1.stop ≤ t.start) ↔
    (∃ t ∈ before, t.line = first.line) ∨
      ∃ t ∈ before, ∃ d ∈ docs, d.1.stop ≤ t.start ∧ t.line = d.2.endLine

/-- A doc comment is attached to the token that it stands above. -/
theorem exists_attached_of_docAbove {source : Text} {l : Listing} {spans : List Span}
    {before after : List Token} {first : Token}
    (comments : List.Forall₂ (fun s c => s.IsComment source c) spans l.comments)
    (marked : Marked source l.tokens (spans.zip l.comments))
    (split : l.tokens = before ++ first :: after) (some : l.docAbove first ≠ []) :
    ∃ docs, docs <:+: spans.zip l.comments ∧ l.docAbove first = docs.map (·.2.text) ∧
      Attached before first docs := by
  obtain ⟨group, last, isGroup, part, doc, ends, below⟩ := exists_group_of_docAbove some
  rw [← List.map_snd_zip comments.length_eq.ge] at part
  obtain ⟨docs, inside, rfl⟩ := List.infix_map_iff.1 part
  have own := List.forall_mem_map.1 isGroup.own
  have near := (List.isChain_map _).1 isGroup.near
  rw [List.getLast?_map] at ends
  obtain ⟨last, final, rfl⟩ := Option.map_eq_some_iff.1 ends
  have memLast := List.mem_of_getLast? final
  have below : ∀ d ∈ docs.getLast?, d.2.endLine + 1 = first.line := by
    intro d mem
    rw [final] at mem
    cases mem
    exact below
  have memFirst : first ∈ l.tokens := split ▸ List.mem_append_right _ List.mem_cons_self
  have memBefore {t : Token} (mem : t ∈ before) : t ∈ l.tokens :=
    split ▸ List.mem_append_left _ mem
  have above (d : Span × Comment) (mem : d ∈ docs) : d.2.endLine < first.line := by
    have least := marked.endLine_le_getLast inside final mem
    have final := below last final
    omega
  have order (t : Token) (mem : t ∈ before) : t.line ≤ first.line := by
    have tokens := marked.tokens
    rw [split] at tokens
    have le := (List.pairwise_append.1 tokens).2.2 t mem first List.mem_cons_self
    rw [marked.line t (memBefore mem), marked.line first memFirst]
    exact source.lineAt_mono le
  refine ⟨docs, inside, by rw [doc, List.map_map]; rfl, own, ?_,
    marked.order.sublist inside.sublist, near, below, ?_, ?_⟩
  · exact fun d mem => marked.stop_le (inside.subset mem) memFirst (above d mem)
  · intro h
    obtain ⟨t, mem, d, memD, behind⟩ := h
    refine (marked.line_eq (memBefore mem) (order t mem) inside own near below
      ⟨d, memD, behind⟩).imp (fun same => ⟨t, mem, same⟩) fun found => ⟨t, mem, found⟩
  · intro h
    rcases h with ⟨t, mem, same⟩ | ⟨t, mem, d, memD, behind, -⟩
    · refine ⟨t, mem, last, memLast, marked.stop_le (inside.subset memLast) (memBefore mem) ?_⟩
      rw [same]
      exact above last memLast
    · exact ⟨t, mem, d, memD, behind⟩

end Listing

end EnumText
