import EnumText.Proofs.Declaration.Reading
import EnumText.Proofs.Listing.Placing
import EnumText.Proofs.Token.Splitting

/-!
# The tokens of a listing are different

A token that is written takes room in the source, and between two implied semicolons stands a token
that is written. So the middles of tokens rise along a listing.

* `Rises`: tokens with rising middles after an offset.
* `Layout.rises_place`: what is placed for lexemes rises.
* `Listing.nodup_tokens`: no token stands twice in a listing.
-/

namespace EnumText

/-- Twice the offset of the middle of a token. -/
def Token.middle (t : Token) : Nat := t.start + t.stop

/-- Tokens after an offset, each with its middle behind that of the one before it. Unless the text
before the offset ends a statement with the line, none stands at the offset itself. -/
structure Rises (n : Nat) (ends : Bool) (ts : List Token) : Prop where
  order : ts.Pairwise (·.middle < ·.middle)
  low : ∀ t ∈ ts, 2 * n ≤ t.middle
  strict : ends = false → ∀ t ∈ ts, 2 * n < t.middle

namespace Rises

variable {n m : Nat} {ends : Bool} {ts : List Token}

theorem mono (h : Rises m ends ts) (le : n ≤ m) : Rises n ends ts where
  order := h.order
  low t mem := by
    have low := h.low t mem
    omega
  strict others t mem := by
    have strict := h.strict others t mem
    omega

theorem implied (h : Rises m false ts) {place : Cursor} (from_ : n ≤ place.offset)
    (upTo : place.offset ≤ m) (last : Option Token) (spelling : Text) :
    Rises n (last.any Token.endsStatement)
      (Layout.impliedSemicolon last spelling place ++ ts) := by
  have strict := h.strict rfl
  unfold Layout.impliedSemicolon
  split
  · next ends =>
    have middle : (Layout.emptyToken .semicolon spelling place).middle = 2 * place.offset :=
      (Nat.two_mul _).symm
    refine ⟨List.pairwise_cons.2 ⟨fun t mem => ?_, h.order⟩, List.forall_mem_cons.2
      ⟨by omega, fun t mem => ?_⟩, fun others => ?_⟩
    · have later := strict t mem
      omega
    · have later := strict t mem
      omega
    · rw [ends] at others
      cases others
  · refine ⟨h.order, fun t mem => ?_, fun _ t mem => ?_⟩
    · have later := strict t mem
      omega
    · have later := strict t mem
      omega

theorem token (h : Rises m ends ts) {t : Token} (start : t.start = n) (stop : t.stop = m)
    (some : n < m) (ends' : Bool) : Rises n ends' (t :: ts) := by
  have middle : t.middle = n + m := by rw [Token.middle, start, stop]
  refine ⟨List.pairwise_cons.2 ⟨fun u mem => ?_, h.order⟩, List.forall_mem_cons.2
    ⟨by omega, fun u mem => ?_⟩, fun _ => List.forall_mem_cons.2 ⟨by omega, fun u mem => ?_⟩⟩
  all_goals
    have later := h.low u mem
    omega

theorem nodup (h : Rises n ends ts) : ts.Nodup :=
  h.order.imp fun below same => Nat.ne_of_lt below (congrArg Token.middle same)

end Rises

namespace Layout

theorem rises_place {lexemes : List Lexeme} (some : ∀ x ∈ lexemes, x.spelling ≠ [])
    (here : Cursor) (last : Option Token) :
    Rises here.offset (last.any Token.endsStatement) (place here last lexemes).tokens := by
  induction lexemes generalizing here last with
  | nil =>
    have empty : Rises here.offset false [] :=
      ⟨.nil, List.forall_mem_nil _, fun _ => List.forall_mem_nil _⟩
    have atEnd := empty.implied (Nat.le_refl _) (Nat.le_refl _) last []
    rwa [List.append_nil] at atEnd
  | cons x rest ih =>
    obtain ⟨first, others⟩ := List.forall_mem_cons.1 some
    have later := ih others (here.advance x.spelling) (lastAfter here last x)
    have forward := (here.precedes_advance x.spelling).1
    have length := List.length_pos_iff.2 first
    have offset := here.advance_offset x.spelling
    obtain ⟨kind, spelling⟩ := x
    rw [place_cons]
    cases kind with
    | newline => exact later.implied (Nat.le_refl _) forward last _
    | blank | lineComment => exact later.mono forward
    | blockComment =>
      simp only [lastAfter, tokensOf] at later ⊢
      split
      · next broken =>
        rw [if_pos broken] at later
        exact later.implied forward (Nat.le_refl _) last _
      · next broken =>
        rw [if_neg broken] at later
        exact later.mono forward
    | token k => exact later.token (n := here.offset) rfl rfl (by omega) _

end Layout
theorem Listing.nodup_tokens {source : Text} {l : Listing} (h : ofText? source = .ok l) :
    l.tokens.Nodup := by
  obtain ⟨lexemes, cut, rfl⟩ := ofText?_eq_ok_iff.1 h
  exact (Layout.rises_place (fun x mem => (Lexeme.ne_nil_of_split cut x mem).1) .start none).nodup

end EnumText
