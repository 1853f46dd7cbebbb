import EnumText.Proofs.Listing.DocComments
import EnumText.Proofs.Listing.Yielding
import EnumText.Proofs.Text.Lines

/-!
# The lines of a doc comment as they are written

Line comments above a declaration are its doc comment, each as it is written. What stands behind the
first token of the declaration, comments included, does not change that.

* `Lexeme.split_unlines_doc`, `Layout.run_ofDoc`: the lexemes of the lines and what they place.
* `Listing.docAbove_of_doc`: the doc comment of a token below the lines.
-/

namespace EnumText

/-- A comment up to the end of a line that is kept as it is written. -/
structure Text.IsDocLine (d : Text) : Prop where
  marker : text "//" <+: d
  inline : .scalar '\n' ∉ d
  last : d.getLast? ≠ some (.scalar '\r')

instance (d : Text) : Decidable d.IsDocLine :=
  decidable_of_iff (text "//" <+: d ∧ .scalar '\n' ∉ d ∧ d.getLast? ≠ some (.scalar '\r'))
    ⟨fun h => ⟨h.1, h.2.1, h.2.2⟩, fun h => ⟨h.marker, h.inline, h.last⟩⟩

theorem Text.IsDocLine.trimRight {d : Text} (h : d.IsDocLine) :
    d.trimRight (· == .scalar '\r') = d := by
  rw [Text.trimRight, List.reverse_eq_iff, List.dropWhile_eq_self_iff]
  intro nonempty
  have last := h.last
  rw [← List.head?_reverse, List.head?_eq_getElem?, List.getElem?_eq_getElem nonempty] at last
  simpa using last

variable {doc : List Text} {here : Cursor} {more : List Lexeme}

namespace Lexeme

/-- The lexemes of the lines of a doc comment. -/
def ofDoc (doc : List Text) : List Lexeme :=
  doc.flatMap fun d => [⟨.lineComment, d⟩, ⟨.newline, text "\n"⟩]

theorem split_unlines_doc (isDoc : ∀ d ∈ doc, d.IsDocLine) (more : Text) :
    split (unlines doc ++ more) = (ofDoc doc ++ (split more).1, (split more).2) := by
  induction doc with
  | nil => rfl
  | cons d doc ih =>
    obtain ⟨first, others⟩ := List.forall_mem_cons.1 isDoc
    have comment : split d = ([⟨.lineComment, d⟩], none) := by
      obtain ⟨⟨body, rfl⟩, inline, -⟩ := first
      exact split_lineComment fun mem => inline (List.mem_append_right _ mem)
    have line : split (text "\n" ++ (unlines doc ++ more)) =
        (⟨.newline, text "\n"⟩ :: (ofDoc doc ++ (split more).1), (split more).2) := by
      have line := split_cons (.newline (unlines doc ++ more))
      rw [List.drop_zero, ih others] at line
      exact line
    rw [unlines_cons, List.append_assoc, List.append_assoc,
      split_append comment (apart_newline _).soft, line]
    · rfl
    · intro last mem s after
      cases mem
      cases after
      rfl

theorem flatMap_ofDoc (isDoc : ∀ d ∈ doc, d.IsDocLine) :
    (ofDoc doc).flatMap Lexeme.spelling = unlines doc := by
  have cut : split (unlines doc ++ []) = (ofDoc doc ++ [], none) := split_unlines_doc isDoc []
  rw [List.append_nil, List.append_nil] at cut
  exact flatMap_spelling cut

/-- A line break is the lexeme of a line break. -/
theorem newline_of_split {t : Text} {lexemes : List Lexeme} (cut : split t = (lexemes, none)) :
    ∀ x ∈ lexemes, x.kind = .newline → .scalar '\n' ∈ x.spelling := by
  refine split_induction (motive := fun _ lexemes => ∀ x ∈ lexemes, x.kind = .newline →
    .scalar '\n' ∈ x.spelling) (fun _ mem => nomatch mem) ?_ cut
  intro c rest kind n tail reads _ ih
  refine List.forall_mem_cons.2 ⟨fun same => ?_, ih⟩
  subst same
  cases reads
  exact List.mem_cons_self

end Lexeme

namespace Layout

open Listing (Consecutive)

/-- Lines of a doc comment place a block of comments and nothing else. -/
theorem run_ofDoc (isDoc : ∀ d ∈ doc, d.IsDocLine) (here : Cursor) :
    ∃ comments, run here none (Lexeme.ofDoc doc) = ⟨[], comments, none⟩ ∧
      Consecutive here.line comments ∧ comments.map (·.text) = doc := by
  induction doc generalizing here with
  | nil => exact ⟨[], rfl, .nil _, rfl⟩
  | cons d doc ih =>
    obtain ⟨first, others⟩ := List.forall_mem_cons.1 isDoc
    obtain ⟨comments, below, block, texts⟩ := ih others ((here.advance d).advance (text "\n"))
    have line : ((here.advance d).advance (text "\n")).line = here.line + 1 := by
      rw [Cursor.advance_line, Cursor.advance_line, List.count_eq_zero.2 first.inline]
      rfl
    rw [line] at block
    let comment : Comment := ⟨d, here.line, here.line, true⟩
    have first_line : Consecutive comment.line (comment :: comments) := .cons rfl rfl block
    refine ⟨comment :: comments, ?_, first_line, ?_⟩
    · rw [Lexeme.ofDoc, List.flatMap_cons, ← Lexeme.ofDoc, List.cons_append, List.singleton_append,
        run, run]
      simp only [lastAfter, tokensOf, commentsOf, first.trimRight, below]
      rfl
    · rw [List.map_cons, texts]

/-- Only a line break makes the last token of a line forgotten. -/
theorem line_lt_of_lastAfter {t : Token} {lexeme : Lexeme}
    (newline : lexeme.kind = .newline → .scalar '\n' ∈ lexeme.spelling)
    (after : lastAfter here (some t) lexeme = none) :
    here.line < (here.advance lexeme.spelling).line := by
  obtain ⟨kind, spelling⟩ := lexeme
  cases kind with
  | newline =>
    have breaks := List.count_pos_iff.2 (newline rfl)
    rw [Cursor.advance_line]
    exact Nat.lt_add_of_pos_right breaks
  | blockComment =>
    by_cases wraps : here.line < (here.advance spelling).line
    · exact wraps
    · simp [lastAfter, wraps] at after
  | blank | lineComment | token => cases after

/-- Behind a token, comments stand on its line, or further down. -/
theorem apart_of_mem_comments {t : Token} {lexemes : List Lexeme} {c : Comment}
    (newlines : ∀ x ∈ lexemes, x.kind = .newline → .scalar '\n' ∈ x.spelling)
    (mem : c ∈ (run here (some t) lexemes).comments) :
    c.ownLine = false ∨ here.line < c.line := by
  induction lexemes generalizing here t with
  | nil => cases mem
  | cons lexeme rest ih =>
    obtain ⟨first, others⟩ := List.forall_mem_cons.1 newlines
    rcases List.mem_append.1 mem with own | later
    · unfold commentsOf at own
      split at own
      · obtain rfl := List.mem_singleton.1 own
        exact .inl rfl
      · obtain rfl := List.mem_singleton.1 own
        exact .inl rfl
      · cases own
    · have forward := (here.precedes_advance lexeme.spelling).2
      cases after : lastAfter here (some t) lexeme with
      | some u =>
        rw [after] at later
        exact (ih others later).imp_right (Nat.lt_of_le_of_lt forward)
      | none =>
        have wraps := line_lt_of_lastAfter first after
        exact .inr (Nat.lt_of_lt_of_le wraps ((between_run _ _ _).comments _ later).line)

end Layout

namespace Listing

/-- The doc comment of a token below lines of a doc comment are these lines. -/
theorem docAbove_of_doc {l : Listing} (isDoc : ∀ d ∈ doc, d.IsDocLine) (low : 1 ≤ here.line)
    (newlines : ∀ x ∈ more, x.kind = .newline → .scalar '\n' ∈ x.spelling)
    {kind : Token.Kind} {word : Text}
    (comments : l.comments =
      (Layout.run here none (Lexeme.ofDoc doc ++ ⟨.token kind, word⟩ :: more)).comments)
    {t : Token} (line : t.line = here.line + doc.length) : l.docAbove t = doc := by
  obtain ⟨block, placed, consecutive, texts⟩ := Layout.run_ofDoc isDoc here
  have length : block.length = doc.length := by
    rw [← texts, List.length_map]
  have below : (here.advance ((Lexeme.ofDoc doc).flatMap Lexeme.spelling)).line =
      here.line + doc.length := by
    rw [Lexeme.flatMap_ofDoc isDoc, Cursor.advance_line,
      count_unlines fun d mem => (isDoc d mem).inline]
  rw [Layout.run_append, placed, Layout.run] at comments
  generalize here.advance ((Lexeme.ofDoc doc).flatMap Lexeme.spelling) = start at below comments
  have forward := (start.precedes_advance word).2
  rw [docAbove_eq _ (by omega), comments]
  refine (docIn_block_append consecutive (by omega) (fun y mem => ?_) fun y mem => ?_).trans texts
  · have between := (Layout.between_run _ _ _).comments _ mem
    have line : (start.advance word).line ≤ y.line := between.line
    exact ⟨by omega, between.order⟩
  · have apart : _ ∨ (start.advance word).line < y.line := Layout.apart_of_mem_comments newlines mem
    exact apart.imp_right fun further => by omega

end Listing

end EnumText
