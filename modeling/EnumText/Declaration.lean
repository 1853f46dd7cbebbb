import EnumText.Binding
import EnumText.Listing
import EnumText.TypeInfo

/-!
Declarations of a Go file, and what can be wrong with them.

- `TypeDecl` is one declared type, and `SourceFile` all that a file declares.
- `Fault` is why a list of tokens is not read, with the token where that shows.
-/

namespace EnumText

/-- A type as a file declares it. -/
structure TypeDecl extends TypeInfo where
  isStruct : Bool
  /-- The line of the name. -/
  line : Nat
deriving DecidableEq, Inhabited

/-- What a Go file declares. -/
structure SourceFile where
  package : Text
  types : List TypeDecl
  bindings : List Binding
deriving DecidableEq, Inhabited

namespace Declaration

/-- Why tokens are not read as declarations. -/
inductive Cause where
  /-- Another token is wanted than the one that stands there. -/
  | expected (wanted got : Text)
  /-- A closing bracket without an opening one. -/
  | unopened (bracket : Text)
  /-- The file ends inside brackets. -/
  | unclosed
  /-- The file ends inside a struct type. -/
  | unclosedStruct
  /-- Names of fields without a type. -/
  | missingFieldType
  /-- A round or square bracket that closes nothing, where a struct type goes on. No rule reads
  past it. -/
  | strandedBracket
deriving DecidableEq, Inhabited

/-- The message for a cause. -/
def Cause.message : Cause → Text
  | .expected wanted got => text "expected " ++ wanted ++ text ", got " ++ got.display
  | .unopened bracket => text "unexpected " ++ bracket.display
  | .unclosed => text "unexpected EOF, unbalanced brackets"
  | .unclosedStruct => text "unexpected EOF in struct type"
  | .missingFieldType => text "missing field type"
  | .strandedBracket => text "unexpected bracket in struct type"

/-- A cause and the token where it shows. -/
structure Fault where
  token : Token
  cause : Cause
deriving DecidableEq, Inhabited

/-- A value read from the beginning of a list of tokens, and the tokens after it. -/
abbrev Taken (α : Type) := α × List Token

end Declaration

namespace Listing

open Declaration

/-- The first of the tokens that are left, or the end of the file. -/
def current (l : Listing) (tokens : List Token) : Token := tokens.headD l.eof

/-- Whether the first of the tokens that are left has a kind. -/
def at? (kind : Token.Kind) (tokens : List Token) : Bool := tokens.head?.any (·.kind = kind)

/-- The fault of finding another token than the wanted one. -/
def unexpected (l : Listing) (wanted : Text) (tokens : List Token) : Fault :=
  match tokens with
  | [] => ⟨l.eof, .expected wanted (text "EOF")⟩
  | t :: _ => ⟨t, .expected wanted t.spelling⟩

/-- Reads a token of a kind. -/
def expect (l : Listing) (kind : Token.Kind) (tokens : List Token) : Except Fault (Taken Token) :=
  match tokens with
  | t :: rest =>
    if t.kind = kind then .ok (t, rest) else .error (l.unexpected kind.label tokens)
  | [] => .error (l.unexpected kind.label tokens)

/-- Reads a keyword. -/
def expectWord (l : Listing) (word : String) (tokens : List Token) : Except Fault (Taken Token) :=
  match tokens with
  | t :: rest => if t.isWord word then .ok (t, rest) else .error (l.unexpected (text word) tokens)
  | [] => .error (l.unexpected (text word) tokens)

/-- The tokens after any semicolons. -/
def skipSemicolons (tokens : List Token) : List Token := tokens.dropWhile (·.kind = .semicolon)

/-- The tokens after one semicolon, if there is one. -/
def skipSemicolon : List Token → List Token
  | [] => []
  | t :: rest => if t.kind = .semicolon then rest else t :: rest

end Listing

end EnumText
