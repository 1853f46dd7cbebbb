import EnumText.Declaration

/-!
Balanced runs of tokens. Brackets are counted without regard to their shape.

- `Listing.collect` reads tokens up to a stop outside of brackets.
- `Listing.skipStatement` passes over a whole statement.
- `splitOutside` splits tokens at separators outside of brackets.
- `closesAtEnd` tells whether the first bracket of a run is closed by its last token.
-/

namespace EnumText

namespace Listing

open Declaration

/-- The longest run of tokens, inside `depth` brackets, in which no token of a stop kind and no
closing bracket stands outside of brackets. -/
def collect (l : Listing) (stops : List Token.Kind) :
    Nat → List Token → Except Fault (Taken (List Token))
  | depth, [] => if depth = 0 then .ok ([], []) else .error ⟨l.eof, .unclosed⟩
  | depth, t :: rest =>
    if depth = 0 ∧ (stops.contains t.kind ∨ t.kind.isClosing) then .ok ([], t :: rest)
    else do
      let depth :=
        if t.kind.isOpening then depth + 1 else if t.kind.isClosing then depth - 1 else depth
      let (run, rest) ← l.collect stops depth rest
      return (t :: run, rest)

/-- The tokens after the next semicolon that stands outside of brackets, counting `depth` brackets
as open. -/
def skipStatement (l : Listing) : Nat → List Token → Except Fault (List Token)
  | depth, [] => if depth = 0 then .ok [] else .error ⟨l.eof, .unclosed⟩
  | depth, t :: rest =>
    if t.kind.isOpening then l.skipStatement (depth + 1) rest
    else if t.kind.isClosing then
      if depth = 0 then .error ⟨t, .unopened t.spelling⟩ else l.skipStatement (depth - 1) rest
    else if t.kind = .semicolon ∧ depth = 0 then .ok rest
    else l.skipStatement depth rest

end Listing

namespace Declaration

/-- How a token changes the number of open brackets. -/
def depthChange (t : Token) : Int :=
  if t.kind.isOpening then 1 else if t.kind.isClosing then -1 else 0

/-- The runs between the separators that stand at depth zero, from a depth on. -/
def piecesFrom (separator : Token.Kind) (depth : Int) : List Token → List (List Token)
  | [] => [[]]
  | t :: rest =>
    let depth := depth + depthChange t
    let pieces := piecesFrom separator depth rest
    if t.kind = separator ∧ depth = 0 then [] :: pieces
    else (t :: pieces.headD []) :: pieces.tail

/-- The non-empty runs between the separators that stand outside of brackets. -/
def splitOutside (separator : Token.Kind) (tokens : List Token) : List (List Token) :=
  (piecesFrom separator 0 tokens).filter (!·.isEmpty)

/-- Whether the last token is the one that closes the outermost bracket, counting `depth` brackets
as open. -/
def closesAtEnd : Nat → List Token → Bool
  | _, [] => false
  | depth, t :: rest =>
    if t.kind.isOpening then closesAtEnd (depth + 1) rest
    else if t.kind.isClosing then
      if depth ≤ 1 then rest.isEmpty else closesAtEnd (depth - 1) rest
    else closesAtEnd depth rest

end Declaration

end EnumText
