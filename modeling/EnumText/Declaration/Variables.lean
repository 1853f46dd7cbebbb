import EnumText.Declaration.Brackets

/-!
Variable declarations, single and in groups, with the composite literals that they assign.
-/

namespace EnumText.Listing

open Declaration

/-- The element that a run of tokens between commas makes, unless it is empty. -/
def element? (l : Listing) (tokens : List Token) : Option Composite.Element :=
  match tokens.filter (·.kind ≠ .semicolon) with
  | [] => none
  | key :: colon :: first :: rest =>
    if key.kind = .identifier ∧ colon.kind = .colon then
      some ⟨some key.spelling, l.textOf (first :: rest)⟩
    else some ⟨none, l.textOf (key :: colon :: first :: rest)⟩
  | tokens => some ⟨none, l.textOf tokens⟩

/-- The composite literal that an expression is, if it is one of a plain type name. -/
def composite? (l : Listing) (expression : List Token) : Option Composite :=
  match expression with
  | name :: brace :: rest =>
    if name.kind = .identifier ∧ brace.kind = .opening .curly ∧
        rest.getLast?.any (·.kind = .closing .curly) ∧ closesAtEnd 1 rest then
      some ⟨name.spelling, (splitOutside .comma rest.dropLast).filterMap l.element?⟩
    else none
  | _ => none

/-- Reads the names after a first one, each after a comma. -/
def moreNames (l : Listing) : List Token → Except Fault (Taken (List Text))
  | [] => .ok ([], [])
  | [comma] =>
    if comma.kind = .comma then .error (l.unexpected (Token.Kind.label .identifier) [])
    else .ok ([], [comma])
  | comma :: name :: rest =>
    if comma.kind = .comma then
      if name.kind = .identifier then do
        let (more, tokens) ← l.moreNames rest
        return (name.spelling :: more, tokens)
      else .error (l.unexpected (Token.Kind.label .identifier) (name :: rest))
    else .ok ([], comma :: name :: rest)

/-- Reads the values after an equals sign, if there is one. -/
def varValues (l : Listing) (tokens : List Token) :
    Except Fault (Taken (List (Option Composite))) :=
  if at? .assign tokens then do
    let (values, tokens) ← l.collect [.semicolon, .closing .round] 0 (tokens.drop 1)
    return ((splitOutside .comma values).map l.composite?, tokens)
  else .ok ([], tokens)

/-- Reads the names, the type and the values of a variable declaration. -/
def varSpec (l : Listing) (tokens : List Token) : Except Fault (Taken Binding) := do
  let (name, tokens) ← l.expect .identifier tokens
  let (more, tokens) ← l.moreNames tokens
  let (_, tokens) ← l.collect [.assign, .semicolon, .closing .round] 0 tokens
  let (values, tokens) ← l.varValues tokens
  return (⟨name.spelling :: more, values⟩, skipSemicolon tokens)

/-- Reads the variables of a group up to its closing bracket, in at most `fuel` steps. -/
def varGroup (l : Listing) : Nat → List Token → Except Fault (Taken (List Binding))
  | 0, tokens => .error ⟨l.current tokens, .strandedBracket⟩
  | fuel + 1, tokens =>
    let tokens := skipSemicolons tokens
    if at? (.closing .round) tokens then .ok ([], tokens.drop 1)
    else do
      let (binding, tokens) ← l.varSpec tokens
      let (more, tokens) ← l.varGroup fuel tokens
      return (binding :: more, tokens)

/-- Reads a variable declaration. -/
def varDecl (l : Listing) (tokens : List Token) : Except Fault (Taken (List Binding)) := do
  let (_, tokens) ← l.expectWord "var" tokens
  if at? (.opening .round) tokens then l.varGroup (tokens.length + 1) (tokens.drop 1)
  else
    let (binding, tokens) ← l.varSpec tokens
    return ([binding], tokens)

end EnumText.Listing
