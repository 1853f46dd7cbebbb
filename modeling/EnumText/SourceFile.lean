import EnumText.Declaration.Types
import EnumText.Declaration.Variables

/-!
Whole Go files: the package clause, the declared types and the declared variables.

- `SourceFile.ofListing?` reads tokens; every other statement is passed over.
- `SourceFile.ofText?` reads a text, and says at which place of the file it cannot.
-/

namespace EnumText

/-- Why a text is no Go source. -/
inductive SyntaxError.Cause where
  | lexical (fault : Lexeme.Fault)
  | grammatical (cause : Declaration.Cause)
deriving DecidableEq, Inhabited

/-- A place in a Go file and why it cannot be read there. -/
structure SyntaxError where
  site : Site
  cause : SyntaxError.Cause
deriving DecidableEq, Inhabited

namespace SyntaxError

/-- The message for a cause. -/
def Cause.message : Cause → Text
  | .lexical fault => fault.message
  | .grammatical cause => cause.message

/-- The message of an error, with its place. -/
def message (e : SyntaxError) : Text := e.site.explain e.cause.message

end SyntaxError

/-- The listing of a file, or where and why it has none. -/
def Listing.ofFile? (file : Path) (source : Text) : Except SyntaxError Listing :=
  match Listing.ofText? source with
  | .ok l => .ok l
  | .error (cursor, fault) =>
    .error ⟨Site.inText file source cursor.line cursor.column, .lexical fault⟩

namespace Listing

open Declaration

/-- Reads declarations up to the end of the file, in at most `fuel` steps. -/
def declarations (l : Listing) : Nat → List Token → Except Fault (List TypeDecl × List Binding)
  | _, [] => .ok ([], [])
  | 0, t :: _ => .error ⟨t, .strandedBracket⟩
  | fuel + 1, t :: rest =>
    if t.kind = .semicolon then l.declarations fuel rest
    else if t.isWord "type" then do
      let (types, tokens) ← l.typeDecl (t :: rest)
      let (moreTypes, bindings) ← l.declarations fuel tokens
      return (types ++ moreTypes, bindings)
    else if t.isWord "var" then do
      let (bindings, tokens) ← l.varDecl (t :: rest)
      let (types, moreBindings) ← l.declarations fuel tokens
      return (types, bindings ++ moreBindings)
    else do
      let tokens ← l.skipStatement 0 (t :: rest)
      l.declarations fuel tokens

end Listing

namespace SourceFile

open Declaration

/-- What a listing declares. -/
def ofListing? (l : Listing) : Except Fault SourceFile := do
  let (_, tokens) ← l.expectWord "package" (Listing.skipSemicolons l.tokens)
  let (package, tokens) ← l.expect .identifier tokens
  let (types, bindings) ← l.declarations tokens.length tokens
  return ⟨package.spelling, types, bindings⟩

/-- What a source text of a file declares. -/
def ofText? (file : Path) (source : Text) : Except SyntaxError SourceFile :=
  match Listing.ofFile? file source with
  | .error e => .error e
  | .ok l =>
    match ofListing? l with
    | .ok declared => .ok declared
    | .error ⟨token, cause⟩ =>
      .error ⟨Site.inText file source token.line token.column, .grammatical cause⟩

end SourceFile

end EnumText
