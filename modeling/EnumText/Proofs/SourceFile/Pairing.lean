import EnumText.Proofs.Declaration.Relocation.Declarations
import EnumText.Proofs.Listing.DocComments
import Mathlib.Data.List.Forall2

/-!
# Sources whose tokens go together one by one

Where the tokens of two listings go together one by one, with the same kinds, words and lines, and
the texts between them are rewritten in one way, the readers of declarations take both in the same
way.

* `Pairing`: the tokens of two listings, and the texts and comments between them.
* `Pairing.exists_relocation`: the tokens of the one are found again in the other.
* `SourceFile.ofListing?_rewrite`: the other declares the same with its texts rewritten.
-/

namespace EnumText

open List (Forall₂)

/-- What a file declares, with its texts rewritten. -/
def SourceFile.rewrite (g : Text → Text) (f : SourceFile) : SourceFile :=
  ⟨f.package, f.types.map (·.move g 0), f.bindings.map (·.rewrite g)⟩

namespace Listing

/-- How the tokens of two listings go together. A semicolon may take another place beside a line
break, so it counts for no text. -/
structure Pairing (l l' : Listing) where
  pair : Token → Token → Prop
  /-- How texts are changed from the first to the second. -/
  rewrite : Text → Text
  tokens : Forall₂ pair l.tokens l'.tokens
  distinct : l.tokens.Nodup
  kind {t u : Token} : pair t u → u.kind = t.kind
  spelling {t u : Token} : pair t u → t.kind = .identifier ∨ t.kind = .keyword →
    u.spelling = t.spelling
  line {t u : Token} : pair t u → u.line = t.line
  eof : l'.eof.kind = l.eof.kind
  slice {t u t' u' : Token} : pair t u → pair t' u' → t.kind ≠ .semicolon → t'.kind ≠ .semicolon →
    l'.source.slice u.start u'.stop = rewrite (l.source.slice t.start t'.stop)
  comments : l'.comments = l.comments.map (·.move rewrite 0)

/-- Different things that go together with others one by one are taken to them by a function. -/
theorem exists_map_eq {α : Type} [DecidableEq α] {pair : α → α → Prop} {xs ys : List α}
    (pairs : Forall₂ pair xs ys) (distinct : xs.Nodup) :
    ∃ f : α → α, xs.map f = ys ∧ (∀ x ∈ xs, pair x (f x)) ∧ ∀ x ∉ xs, f x = x := by
  induction pairs with
  | nil => exact ⟨id, rfl, fun x mem => absurd mem List.not_mem_nil, fun _ _ => rfl⟩
  | @cons x y xs ys first _ ih =>
    obtain ⟨fresh, distinct⟩ := List.nodup_cons.1 distinct
    obtain ⟨f, same, related, outside⟩ := ih distinct
    have later : ∀ z ∈ xs, Function.update f x y z = f z := fun z mem =>
      Function.update_of_ne (ne_of_mem_of_not_mem mem fresh) _ _
    refine ⟨Function.update f x y, ?_, ?_, ?_⟩
    · rw [List.map_cons, Function.update_self, List.map_congr_left later, same]
    · refine List.forall_mem_cons.2 ⟨?_, fun z mem => ?_⟩
      · rwa [Function.update_self]
      · rw [later z mem]
        exact related z mem
    · intro z notMem
      rw [List.mem_cons, not_or] at notMem
      rw [Function.update_of_ne notMem.1, outside z notMem.2]

variable {l l' : Listing}

theorem Pairing.docAbove (p : l.Pairing l') {t u : Token} (h : p.pair t u) :
    l'.docAbove u = (l.docAbove t).map p.rewrite := by
  by_cases zero : t.line = 0
  · rw [Listing.docAbove, Listing.docAbove, p.line h, if_pos zero, if_pos zero, List.map_nil]
  · have low := Nat.one_le_iff_ne_zero.2 zero
    rw [docAbove_eq l low, docAbove_eq l' (by rwa [p.line h]), p.line h, p.comments]
    exact docIn_move p.rewrite 0 l.comments (t.line - 1)

theorem textOf_cons (l : Listing) (t : Token) (ts : List Token) :
    l.textOf (t :: ts) =
      l.source.slice t.start ((t :: ts).getLast (List.cons_ne_nil t ts)).stop := by
  rw [textOf, List.head?_cons, List.getLast?_eq_some_getLast (List.cons_ne_nil t ts)]

/-- The tokens of the first listing are found again in the second one. -/
theorem Pairing.exists_relocation (p : l.Pairing l') :
    ∃ r : Relocation l l', l.tokens.map r.move = l'.tokens ∧ r.region = l.tokens ∧
      r.rewrite = p.rewrite ∧ r.lines = 0 := by
  obtain ⟨move, same, related, outside⟩ := exists_map_eq p.tokens p.distinct
  have known (t : Token) : p.pair t (move t) ∨ move t = t := by
    by_cases mem : t ∈ l.tokens
    · exact .inl (related t mem)
    · exact .inr (outside t mem)
  refine ⟨⟨move, l.tokens, p.rewrite, 0, fun t => ?_, fun t word => ?_, fun t => ?_, p.eof,
    fun ts some inside ends => ?_, fun t mem => p.docAbove (related t mem)⟩, same, rfl, rfl, rfl⟩
  · rcases known t with h | h
    · exact p.kind h
    · rw [h]
  · rcases known t with h | h
    · exact p.spelling h word
    · rw [h]
  · rcases known t with h | h
    · exact p.line h
    · rw [h, Nat.add_zero]
  · cases ts with
    | nil => exact absurd rfl some
    | cons t ts =>
      have last := List.getLast?_eq_some_getLast (List.cons_ne_nil t ts)
      rw [List.map_cons, textOf_cons, textOf_cons]
      have moved : ((move t :: ts.map move).getLast (List.cons_ne_nil _ _)) =
          move ((t :: ts).getLast (List.cons_ne_nil _ _)) :=
        List.getLast_map (f := move) (l := t :: ts) (List.cons_ne_nil _ _)
      rw [moved]
      exact p.slice (related t (inside t List.mem_cons_self))
        (related _ (inside _ (List.getLast_mem _))) (ends t (.inl rfl)) (ends _ (.inr last))

end Listing

/-- The second listing declares what the first one does, with its texts rewritten. -/
theorem SourceFile.ofListing?_rewrite {l l' : Listing} (p : l.Pairing l') {f : SourceFile}
    (h : ofListing? l = .ok f) : ofListing? l' = .ok (f.rewrite p.rewrite) := by
  obtain ⟨word, name, rest, types, bindings, front, isWord, kind, found, rfl⟩ :=
    ofListing?_eq_ok_iff.1 h
  obtain ⟨r, tokens, region, rewrite, lines⟩ := p.exists_relocation
  have part : r.Part l.tokens [] := ⟨fun t mem => region ▸ mem, .inl rfl⟩
  obtain ⟨part, skipped⟩ := part.skipSemicolons front
  rw [List.append_nil, List.append_nil, tokens, List.map_cons] at skipped
  have declared := Listing.declarations_move (k := 0)
    (.inr ((part.tail (Listing.kind_of_isWord isWord) (by decide)).tail kind (by decide))) found rfl
  rw [List.append_nil, List.append_nil, List.append_nil, rewrite, lines, Nat.add_zero] at declared
  refine ofListing?_eq_ok_iff.2 ⟨r.move word, r.move name, rest.map r.move, _, _, skipped, ?_, ?_,
    by rw [List.length_map]; exact declared, ?_⟩
  · rw [Listing.Relocation.isWord_move, isWord]
  · rw [r.kind, kind]
  · rw [r.spelling name (.inl kind)]
    rfl

end EnumText
