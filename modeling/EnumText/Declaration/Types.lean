import EnumText.Declaration.Brackets

/-!
Type declarations, single and in groups, with the fields of struct types.
-/

namespace EnumText

namespace Declaration

/-- The names before the type in a line of a struct type, and the tokens of the type. -/
def fieldNames : List Token → List Text × List Token
  | [] => ([], [])
  | [t] => if t.kind = .identifier then ([t.spelling], []) else ([], [t])
  | t :: next :: rest =>
    if t.kind = .identifier then
      if next.kind = .comma then
        let (names, type) := fieldNames rest
        (t.spelling :: names, type)
      else ([t.spelling], next :: rest)
    else ([], t :: next :: rest)

/-- A line of a struct type without the tag at its end. -/
def withoutTag (tokens : List Token) : List Token :=
  match tokens.getLast? with
  | some t =>
    if (t.kind = .string ∨ t.kind = .rawString) ∧ 1 < tokens.length then tokens.dropLast
    else tokens
  | none => tokens

end Declaration

namespace Listing

open Declaration

/-- The fields of a line of a struct type. A line that begins with no name and its type, as for an
embedded type, has none. -/
def fieldsOfLine (l : Listing) (line : List Token) : Except Fault (List Field) :=
  match withoutTag line with
  | first :: second :: rest =>
    if first.kind = .identifier ∧ second.kind ≠ .dot then
      let (names, type) := fieldNames (first :: second :: rest)
      if type.isEmpty then
        .error ⟨(second :: rest).getLast (by simp), .missingFieldType⟩
      else .ok (names.map fun name => ⟨name, l.textOf type⟩)
    else .ok []
  | _ => .ok []

/-- The fields of a struct type up to its closing bracket, in at most `fuel` lines. A line that
takes no token ends the reading, for no later one would take any. -/
def fieldsUpToClose (l : Listing) : Nat → List Token → Except Fault (Taken (List Field))
  | 0, tokens => .error ⟨l.current tokens, .strandedBracket⟩
  | fuel + 1, tokens =>
    match skipSemicolons tokens with
    | [] => .error ⟨l.eof, .unclosedStruct⟩
    | t :: rest =>
      if t.kind = .closing .curly then .ok ([], rest)
      else do
        let (line, rest) ← l.collect [.semicolon, .closing .curly] 0 (t :: rest)
        let fields ← l.fieldsOfLine line
        let (more, rest) ← l.fieldsUpToClose fuel rest
        return (fields ++ more, rest)

/-- Reads a struct type. -/
def structFields (l : Listing) (tokens : List Token) : Except Fault (Taken (List Field)) := do
  let (_, tokens) ← l.expectWord "struct" tokens
  let (_, tokens) ← l.expect (.opening .curly) tokens
  l.fieldsUpToClose (tokens.length + 1) tokens

/-- Whether the tokens after an opening square bracket begin type parameters, and not the length of
an array. -/
def startsTypeParameters (l : Listing) (tokens : List Token) : Bool :=
  (l.current tokens).kind = .identifier && (l.current (tokens.drop 1)).kind ≠ .closing .square

/-- Passes over the type parameters after the name of a type, if there are any. -/
def skipTypeParameters (l : Listing) (tokens : List Token) : Except Fault (List Token) :=
  if at? (.opening .square) tokens && l.startsTypeParameters (tokens.drop 1) then do
    let (_, tokens) ← l.collect [.closing .square] 0 (tokens.drop 1)
    let (_, tokens) ← l.expect (.closing .square) tokens
    return tokens
  else .ok tokens

/-- Reads the name and the type of a declared type. -/
def typeSpec (l : Listing) (doc : List Text) (tokens : List Token) :
    Except Fault (Taken TypeDecl) := do
  let (name, tokens) ← l.expect .identifier tokens
  let tokens ← l.skipTypeParameters tokens
  let tokens := if at? .assign tokens then tokens.drop 1 else tokens
  let isStruct := tokens.head?.any (·.isWord "struct")
  let (fields, tokens) ← if isStruct then l.structFields tokens else .ok ([], tokens)
  let (_, tokens) ← l.collect [.semicolon, .closing .round] 0 tokens
  return (⟨⟨name.spelling, doc, fields⟩, isStruct, name.line⟩, skipSemicolon tokens)

/-- Reads the types of a group up to its closing bracket, in at most `fuel` steps. A type without a
doc comment of its own has that of the group. -/
def typeGroup (l : Listing) (groupDoc : List Text) :
    Nat → List Token → Except Fault (Taken (List TypeDecl))
  | 0, tokens => .error ⟨l.current tokens, .strandedBracket⟩
  | fuel + 1, tokens =>
    let tokens := skipSemicolons tokens
    if at? (.closing .round) tokens then .ok ([], tokens.drop 1)
    else do
      let doc := l.docAbove (l.current tokens)
      let (type, tokens) ← l.typeSpec (if doc.isEmpty then groupDoc else doc) tokens
      let (more, tokens) ← l.typeGroup groupDoc fuel tokens
      return (type :: more, tokens)

/-- Reads a type declaration. -/
def typeDecl (l : Listing) (tokens : List Token) : Except Fault (Taken (List TypeDecl)) := do
  let (keyword, tokens) ← l.expectWord "type" tokens
  let doc := l.docAbove keyword
  if at? (.opening .round) tokens then l.typeGroup doc (tokens.length + 1) (tokens.drop 1)
  else
    let (type, tokens) ← l.typeSpec doc tokens
    return ([type], tokens)

end Listing

end EnumText
