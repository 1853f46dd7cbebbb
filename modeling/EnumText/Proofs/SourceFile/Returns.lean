import EnumText.Proofs.Listing.Distinct
import EnumText.Proofs.Listing.Returns
import EnumText.Proofs.SourceFile.Pairing

/-!
# Files with carriage returns

A text without carriage returns and the text with one before each line feed have the same tokens,
comments and declarations, up to the carriage returns, if no string or rune literal goes on behind a
backslash on the next line.

* `Listing.exists_returned`: the listings of both texts.
* `Listing.Returned.pairing`, `Listing.Returned.pairingBack`: their tokens go together both ways.
* `SourceFile.ofText?_withReturns`: all that the two texts have in common.
-/

namespace EnumText

open List (Forall₂)
open Text (withReturns withoutReturns offsetUnder)

/-! ## Offsets -/

theorem Text.Meets.eq_offsetUnder {source : Text} {n n' : Nat} (h : source.Meets n n') :
    n' = offsetUnder withReturns source n := by
  obtain ⟨before, inside, rfl, rfl⟩ := h
  rw [offsetUnder, ← List.prefix_iff_eq_take.1 inside]

theorem Text.Meets.eq_offsetUnder_back {source : Text} {n n' : Nat} (h : source.Meets n n')
    (clean : .scalar '\r' ∉ source) : n = offsetUnder withoutReturns source.withReturns n' := by
  obtain ⟨before, ⟨more, rfl⟩, rfl, rfl⟩ := h
  rw [offsetUnder, Text.withReturns_append, List.take_left, Text.withoutReturns_withReturns]
  exact fun mem => clean (List.mem_append_left _ mem)

/-! ## Listings -/

namespace Listing

/-- The listing of a text without carriage returns and that of the text with them. -/
structure Returned (l l' : Listing) : Prop where
  source : l'.source = l.source.withReturns
  clean : .scalar '\r' ∉ l.source
  tokens : Forall₂ (Token.Returned l.source) l.tokens l'.tokens
  eof : l.eof.Returned l.source l'.eof
  comments : Forall₂ Comment.Returned l.comments l'.comments

/-- Listings with as many tokens and comments, of the same kinds and on the same lines, whose texts
are equal but for the carriage returns in those of the second one. -/
structure AgreesUpToReturns (l l' : Listing) : Prop where
  tokens : Forall₂ (fun t u => u.kind = t.kind ∧ u.line = t.line ∧
    u.spelling.withoutReturns = t.spelling) l.allTokens l'.allTokens
  comments : Forall₂ (fun c d => d.line = c.line ∧ d.endLine = c.endLine ∧
    d.ownLine = c.ownLine ∧ d.text.withoutReturns = c.text) l.comments l'.comments

theorem map_eq_of_forall₂ {α β : Type} {f : α → β} {xs : List α} {ys : List β}
    (h : Forall₂ (fun x y => y = f x) xs ys) : ys = xs.map f := by
  induction h with
  | nil => rfl
  | cons first _ ih => rw [List.map_cons, first, ih]

variable {source : Text} {l l' : Listing}

/-- The tokens of the first listing go together with those of the second. -/
def Returned.pairing (h : l.Returned l') (distinct : l.tokens.Nodup) : l.Pairing l' where
  pair := Token.Returned l.source
  rewrite := withReturns
  tokens := h.tokens
  distinct := distinct
  kind together := together.kind
  spelling together word := together.plain (by rcases word with same | same <;> simp [same])
  line together := together.line
  eof := h.eof.kind
  slice together together' first last := by
    rw [(together.start first).eq_offsetUnder, (together'.stop last).eq_offsetUnder, h.source]
    exact Text.slice_offsetUnder Text.withReturns_append _ _ _
  comments := map_eq_of_forall₂ (h.comments.imp fun _ _ together => together.moved)

/-- The tokens of the second listing go together with those of the first. -/
def Returned.pairingBack (h : l.Returned l') (distinct : l'.tokens.Nodup) : l'.Pairing l where
  pair u t := t.Returned l.source u
  rewrite := withoutReturns
  tokens := h.tokens.flip
  distinct := distinct
  kind together := together.kind.symm
  spelling together word := (together.plain (by
    rw [← together.kind]
    rcases word with same | same <;> simp [same])).symm
  line together := together.line.symm
  eof := h.eof.kind.symm
  slice together together' first last := by
    rw [together.kind] at first
    rw [together'.kind] at last
    rw [(together.start first).eq_offsetUnder_back h.clean,
      (together'.stop last).eq_offsetUnder_back h.clean, h.source,
      ← Text.slice_offsetUnder Text.withoutReturns_append, Text.withoutReturns_withReturns h.clean]
  comments := map_eq_of_forall₂ (h.comments.flip.imp fun _ _ together => together.back)

theorem Returned.agrees (h : l.Returned l') : l.AgreesUpToReturns l' where
  tokens := by
    refine (List.rel_append h.tokens (.cons h.eof .nil)).imp fun t u together => ?_
    exact ⟨together.kind, together.line, together.spelling⟩
  comments := by
    refine h.comments.imp fun c d together => ?_
    have text := congrArg Comment.text together.back
    rw [together.moved] at text ⊢
    exact ⟨rfl, rfl, rfl, text.symm⟩

/-- A lexeme that is a token is one of the listing. -/
theorem exists_token_of_mem {lexemes : List Lexeme} {x : Lexeme} (mem : x ∈ lexemes)
    {k : Token.Kind} (kind : x.kind = .token k) (here : Cursor) (last : Option Token) :
    ∃ t ∈ (Layout.place here last lexemes).tokens, t.kind = k ∧ t.spelling = x.spelling := by
  induction lexemes generalizing here last with
  | nil => cases mem
  | cons y rest ih =>
    rw [Layout.place_cons]
    rcases List.mem_cons.1 mem with rfl | later
    · refine ⟨⟨k, x.spelling, here.line, here.column, here.offset,
        (here.advance x.spelling).offset⟩, List.mem_append_left _ ?_, rfl, rfl⟩
      rw [Layout.tokensOf, kind]
      exact List.mem_singleton_self _
    · obtain ⟨t, placed, same⟩ := ih later (here.advance y.spelling) (Layout.lastAfter here last y)
      exact ⟨t, List.mem_append_right _ placed, same⟩

/-- The text with carriage returns has a listing as well. -/
theorem exists_returned (h : ofText? source = .ok l) (clean : .scalar '\r' ∉ source)
    (inline : ∀ t ∈ l.tokens, t.kind = .string ∨ t.kind = .rune → .scalar '\n' ∉ t.spelling) :
    ∃ l', ofText? source.withReturns = .ok l' ∧ l.Returned l' := by
  obtain ⟨xs, cut, rfl⟩ := ofText?_eq_ok_iff.1 h
  have quoted : ∀ x ∈ xs, x.kind = .token .string ∨ x.kind = .token .rune →
      .scalar '\n' ∉ x.spelling := by
    intro x mem kind
    have apart {k : Token.Kind} (own : x.kind = .token k) (literal : k = .string ∨ k = .rune) :
        .scalar '\n' ∉ x.spelling := by
      obtain ⟨t, placed, same, spelling⟩ := exists_token_of_mem mem own .start none
      rw [← spelling]
      exact inline t placed (by rwa [same])
    exact kind.elim (apart · (.inl rfl)) (apart · (.inr rfl))
  obtain ⟨ys, cut', together⟩ := Lexeme.split_withReturns cut quoted
  have start : Cursor.start.Returned [] Cursor.start := ⟨rfl, rfl, rfl⟩
  obtain ⟨tokens, eof, comments⟩ := Layout.place_returned together start
    (Lexeme.flatMap_spelling cut).symm clean .none
  exact ⟨_, ofText?_eq_ok_iff.2 ⟨ys, cut', rfl⟩, rfl, clean, tokens, eof, comments⟩

end Listing

/-! ## Files -/

namespace SourceFile

/-- Line ends with carriage returns change no more than the texts in which they stand. -/
theorem ofText?_withReturns {source : Text} {l : Listing} (listed : Listing.ofText? source = .ok l)
    (clean : .scalar '\r' ∉ source)
    (inline : ∀ t ∈ l.tokens, t.kind = .string ∨ t.kind = .rune → .scalar '\n' ∉ t.spelling) :
    (∃ l', Listing.ofText? source.withReturns = .ok l' ∧ l.AgreesUpToReturns l') ∧
    ∀ file, (ofText? file source).toOption =
      (ofText? file source.withReturns).toOption.map (·.rewrite withoutReturns) := by
  obtain ⟨l', listed', returned⟩ := Listing.exists_returned listed clean inline
  refine ⟨⟨l', listed', returned.agrees⟩, fun file => ?_⟩
  have forth (f : SourceFile) (read : ofText? file source = .ok f) :
      ofText? file source.withReturns = .ok (f.rewrite withReturns) := by
    obtain ⟨m, again, found⟩ := ofText?_eq_ok_iff.1 read
    obtain rfl : l = m := Except.ok.inj (listed.symm.trans again)
    exact ofText?_eq_ok_iff.2
      ⟨l', listed', ofListing?_rewrite (returned.pairing (Listing.nodup_tokens listed)) found⟩
  have back (f : SourceFile) (read : ofText? file source.withReturns = .ok f) :
      ofText? file source = .ok (f.rewrite withoutReturns) := by
    obtain ⟨m, again, found⟩ := ofText?_eq_ok_iff.1 read
    obtain rfl : l' = m := Except.ok.inj (listed'.symm.trans again)
    exact ofText?_eq_ok_iff.2
      ⟨l, listed, ofListing?_rewrite (returned.pairingBack (Listing.nodup_tokens listed')) found⟩
  cases read' : ofText? file source.withReturns with
  | ok f =>
    rw [back f read']
    rfl
  | error e' =>
    cases read : ofText? file source with
    | error e => rfl
    | ok f =>
      rw [forth f read] at read'
      cases read'

/-- A source with a comment, a type, a raw string and a value that go over lines. -/
def plays : Text :=
  text "package p\n\n/* A Hand\n of cards. */\ntype Hand struct \x7b\n" ++
    text "\tplay func(\n\t\tint) // now\n\tmark string \x60k\n\x60\n\x7d\n\n" ++
    text "var High = Hand\x7bmark: \x60a\nb\x60, play: deal(\"x\",\n\t1)\x7d"

theorem ofText?_withReturns_plays :
    let hand (b : Text) : TypeDecl :=
      ⟨⟨text "Hand", [text "/* A Hand" ++ b ++ text " of cards. */"],
        [⟨text "play", text "func(" ++ b ++ text "\t\tint)"⟩, ⟨text "mark", text "string"⟩]⟩,
        true, 5⟩
    let high (b : Text) : Binding := ⟨[text "High"], [some ⟨text "Hand",
      [⟨some (text "mark"), text "\x60a" ++ b ++ text "b\x60"⟩,
        ⟨some (text "play"), text "deal(\"x\"," ++ b ++ text "\t1)"⟩]⟩]⟩
    ∃ l, Listing.ofText? plays = .ok l ∧ .scalar '\r' ∉ plays ∧
      (∀ t ∈ l.tokens, t.kind = .string ∨ t.kind = .rune → .scalar '\n' ∉ t.spelling) ∧
      ofText? .here plays = .ok ⟨text "p", [hand (text "\n")], [high (text "\n")]⟩ ∧
      ofText? .here plays.withReturns =
        .ok ⟨text "p", [hand (text "\r\n")], [high (text "\r\n")]⟩ ∧
      (∃ l', Listing.ofText? plays.withReturns = .ok l' ∧ l.AgreesUpToReturns l') ∧
      ∀ file, (ofText? file plays).toOption =
        (ofText? file plays.withReturns).toOption.map (·.rewrite withoutReturns) := by
  intro hand high
  have clean : .scalar '\r' ∉ plays := by decide +kernel
  obtain ⟨l, listed, inline⟩ := exists_ok_of_any (x := Listing.ofText? plays)
    (p := fun l => decide (∀ t ∈ l.tokens, t.kind = .string ∨ t.kind = .rune →
      Rune.scalar '\n' ∉ t.spelling)) (by decide +kernel)
  have inline := of_decide_eq_true inline
  exact ⟨l, listed, clean, inline, eq_ok_of_toOption (by decide +kernel),
    eq_ok_of_toOption (by decide +kernel), ofText?_withReturns listed clean inline⟩

end SourceFile

end EnumText
