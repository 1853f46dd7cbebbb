import EnumText.Proofs.Declaration.Reading
import EnumText.Proofs.Listing.Placing
import EnumText.Proofs.Token.Splitting

/-!
# Files that begin with their package clause

What stands below the line of the package clause is laid out from `afterClause` on, as if nothing
stood above it, and its tokens come after those of the clause.

* `ofText?_packageClause`: the listing of such a file.
* `ofListing?_clauseTokens`: what such a file declares.
-/

namespace EnumText

/-- The line that names the package of a file. -/
def packageClause (p : Text) : Text := text "package " ++ p ++ text "\n"

namespace Lexeme

/-- The lexemes of a package clause. -/
def ofClause (p : Text) : List Lexeme :=
  [⟨.token .keyword, text "package"⟩, ⟨.blank, text " "⟩, ⟨.token (wordKind p), p⟩,
    ⟨.newline, text "\n"⟩]

theorem split_packageClause {p : Text} (h : p.isIdentifier = true) (more : Text) :
    split (packageClause p ++ more) = (ofClause p ++ (split more).1, (split more).2) := by
  have front : split (text "package ") =
      ([⟨.token .keyword, text "package"⟩, ⟨.blank, text " "⟩], none) := by decide
  have line : split (.scalar '\n' :: more) =
      (⟨.newline, text "\n"⟩ :: (split more).1, (split more).2) := split_cons (.newline more)
  have tail : split (p ++ .scalar '\n' :: more) =
      (⟨.token (wordKind p), p⟩ :: ⟨.newline, text "\n"⟩ :: (split more).1, (split more).2) := by
    rw [split_word_append h, line]
    intro s next
    cases next
    decide
  have whole : packageClause p ++ more = text "package " ++ (p ++ .scalar '\n' :: more) := by
    simp [packageClause, text]
  rw [whole, split_append front (.inl ⟨.scalar ' ', rfl, rfl⟩) (fun last mem s next => ?_), tail]
  · rfl
  · cases mem
    rfl

end Lexeme

open Lexeme (wordKind ofClause)

/-! ## Tokens -/

/-- The position below a package clause. -/
def afterClause (p : Text) : Cursor := Cursor.start.advance (packageClause p)

/-- The token of the keyword. -/
def clauseWord : Token := ⟨.keyword, text "package", 1, 1, 0, 7⟩

/-- The token of the package name. -/
def clauseName (p : Text) : Token :=
  ⟨wordKind p, p, 1, 9, 8, ((Cursor.mk 8 1 9).advance p).offset⟩

/-- The tokens of a package clause. -/
def clauseTokens (p : Text) : List Token :=
  clauseWord :: clauseName p ::
    Layout.impliedSemicolon (some (clauseName p)) (text "\n") ((Cursor.mk 8 1 9).advance p)

/-- A package name ends a statement, so the clause has a semicolon of its own. -/
theorem clauseTokens_of_identifier {p : Text} (kind : wordKind p = .identifier) :
    ∃ t : Token, t.kind = .semicolon ∧ clauseTokens p = [clauseWord, clauseName p, t] := by
  refine ⟨Layout.emptyToken .semicolon (text "\n") ((Cursor.mk 8 1 9).advance p), rfl, ?_⟩
  rw [clauseTokens, Layout.impliedSemicolon, Option.any_some,
    if_pos (by rw [Token.endsStatement, clauseName, kind])]

theorem run_ofClause (p : Text) :
    Layout.run .start none (ofClause p) = ⟨clauseTokens p, [], none⟩ := by
  simp only [ofClause, Layout.run, Layout.tokensOf, Layout.commentsOf, Layout.lastAfter,
    List.append_nil, List.nil_append]
  rfl

theorem flatMap_ofClause (p : Text) : (ofClause p).flatMap Lexeme.spelling = packageClause p := by
  simp [ofClause, packageClause, text]

theorem place_ofClause (p : Text) (lexemes : List Lexeme) :
    Layout.place .start none (ofClause p ++ lexemes) =
      (Layout.place (afterClause p) none lexemes).withTokens (clauseTokens p) := by
  rw [Layout.place_append, run_ofClause, flatMap_ofClause]
  rfl

/-! ## Listings and files -/

/-- The listing of a package clause and lexemes below it. -/
def Listing.belowClause (p body : Text) (lexemes : List Lexeme) : Listing :=
  ⟨(Layout.place (afterClause p) none lexemes).withTokens (clauseTokens p), packageClause p ++ body⟩

theorem Listing.ofText?_packageClause {p : Text} (h : p.isIdentifier = true) {body : Text}
    {l : Listing} :
    ofText? (packageClause p ++ body) = .ok l ↔
      ∃ lexemes, Lexeme.split body = (lexemes, none) ∧ l = belowClause p body lexemes := by
  rw [ofText?_eq_ok_iff, Lexeme.split_packageClause h]
  constructor
  · intro h
    rcases h with ⟨lexemes, same, rfl⟩
    rw [Prod.mk.injEq] at same
    refine ⟨_, Prod.ext rfl same.2, ?_⟩
    rw [← same.1, place_ofClause]
    rfl
  · intro h
    rcases h with ⟨lexemes, same, rfl⟩
    refine ⟨_, by rw [same], ?_⟩
    rw [place_ofClause]
    rfl

/-- Below the package clause stand the declarations. -/
theorem SourceFile.ofListing?_clauseTokens {p : Text} {l : Listing} {below : List Token}
    (tokens : l.tokens = clauseTokens p ++ below) {f : SourceFile} :
    ofListing? l = .ok f ↔ wordKind p = .identifier ∧ ∃ types bindings,
      l.declarations below.length below = .ok (types, bindings) ∧ f = ⟨p, types, bindings⟩ := by
  have whole : Listing.skipSemicolons l.tokens = clauseTokens p ++ below := by
    rw [tokens]
    rfl
  rw [ofListing?_eq_ok_iff, whole]
  constructor
  · intro h
    rcases h with ⟨word, name, rest, types, bindings, front, -, kind, found, rfl⟩
    rw [clauseTokens, List.cons_append, List.cons_append, List.cons.injEq, List.cons.injEq] at front
    obtain ⟨-, rfl, same⟩ := front
    obtain ⟨t, isSemicolon, clause⟩ := clauseTokens_of_identifier kind
    obtain rfl : t :: below = rest := by
      rw [clauseTokens, List.cons.injEq, List.cons.injEq] at clause
      rw [← same, clause.2.2]
      rfl
    rw [List.length_cons, Listing.declarations, if_pos isSemicolon] at found
    exact ⟨kind, types, bindings, found, rfl⟩
  · intro h
    rcases h with ⟨kind, types, bindings, found, rfl⟩
    obtain ⟨t, isSemicolon, clause⟩ := clauseTokens_of_identifier kind
    refine ⟨clauseWord, clauseName p, t :: below, types, bindings, ?_, by decide, kind, ?_, rfl⟩
    · rw [clause]
      rfl
    · rw [List.length_cons, Listing.declarations, if_pos isSemicolon, found]

end EnumText
