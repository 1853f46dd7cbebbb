import EnumText.Proofs.Declaration.Reading
import Mathlib.Logic.Function.Iterate

/-!
# The readers of declarations as loops

The readers of a file take tokens one after the other in loops, some of them inside of others.
`State` is the reader at the head of one of its loops, with all that it holds there, and
`Listing.step` takes it to the next head: one test of the condition of a loop and, if it holds, the
body up to the next loop. No loop is bounded here.

* `Loop`: the loops, and `Purpose` and `Next`, what is done when an inner one ends.
* `Listing.step`, `Listing.walk`: one step, and a number of steps from the beginning of a file.
* `Listing.Leads`: what a state comes to.
-/

namespace EnumText

namespace Declaration

/-! ## States -/

/-- Where a type is declared: by itself, or in a group with a doc comment, after other types. -/
inductive TypePlace where
  | single
  | grouped (doc : List Text) (earlier : List TypeDecl)

/-- Where variables are declared: by themselves, or in a group after others. -/
inductive VariablePlace where
  | single
  | grouped (earlier : List Binding)

/-- A declared type of which no more than the name is read. -/
structure TypeHead where
  place : TypePlace
  doc : List Text
  name : Token

/-- The type, when all is read. -/
def TypeHead.type (head : TypeHead) (isStruct : Bool) (fields : List Field) : TypeDecl :=
  ⟨⟨head.name.spelling, head.doc, fields⟩, isStruct, head.name.line⟩

/-- What a balanced run of tokens is read as. -/
inductive Purpose where
  /-- The parameters of a generic type. -/
  | parameters (head : TypeHead)
  /-- A line of a struct type, after others with some fields. -/
  | line (head : TypeHead) (fields : List Field)
  /-- All that stands behind the fields of a type. -/
  | remainder (place : TypePlace) (type : TypeDecl)
  /-- The type of variables. -/
  | variableType (place : VariablePlace) (names : List Text)
  /-- The values of variables. -/
  | values (place : VariablePlace) (names : List Text)

/-- What ends a run, outside of brackets. -/
def Purpose.stops : Purpose → List Token.Kind
  | .parameters _ => [.closing .square]
  | .line .. => [.semicolon, .closing .curly]
  | .remainder .. => [.semicolon, .closing .round]
  | .variableType .. => [.assign, .semicolon, .closing .round]
  | .values .. => [.semicolon, .closing .round]

/-- What stands after semicolons that are passed over. -/
inductive Next where
  | packageClause
  | fields (head : TypeHead) (fields : List Field)
  | types (doc : List Text) (earlier : List TypeDecl)
  | bindings (earlier : List Binding)

/-- The loops of the readers, each with what it has read so far. -/
inductive Loop where
  /-- Semicolons are passed over. -/
  | semicolons (next : Next)
  /-- The declarations of a file. -/
  | declarations
  /-- The tokens of a statement that is passed over, in a number of open brackets. -/
  | statement (depth : Nat)
  /-- The tokens of a balanced run, in a number of open brackets. -/
  | run (purpose : Purpose) (depth : Nat) (taken : List Token)
  /-- The lines of a struct type. -/
  | fields (head : TypeHead) (fields : List Field)
  /-- The names of variables. -/
  | names (place : VariablePlace) (names : List Text)
  /-- The types of a group. -/
  | types (doc : List Text) (earlier : List TypeDecl)
  /-- The variables of a group. -/
  | bindings (earlier : List Binding)

/-- The reader of a file at the head of a loop, with what it has found and the tokens that are left,
or at its end. -/
inductive State where
  | head (loop : Loop) (found : SourceFile) (tokens : List Token)
  | ended (result : Except Fault SourceFile)

/-- The state after a reader without loops, which may fail. -/
def State.after {α : Type} (read : Except Fault α) (next : α → State) : State :=
  match read with
  | .ok a => next a
  | .error fault => .ended (.error fault)

end Declaration

namespace Listing

open Declaration

/-! ## Steps -/

/-- A type is read. -/
def afterType (place : TypePlace) (type : TypeDecl) (found : SourceFile) (tokens : List Token) :
    State :=
  match place with
  | .single =>
    .head .declarations { found with types := found.types ++ [type] } tokens
  | .grouped doc earlier => .head (.semicolons (.types doc (earlier ++ [type]))) found tokens

/-- Variables are read. -/
def afterVariable (place : VariablePlace) (binding : Binding) (found : SourceFile)
    (tokens : List Token) : State :=
  match place with
  | .single =>
    .head .declarations { found with bindings := found.bindings ++ [binding] } tokens
  | .grouped earlier => .head (.semicolons (.bindings (earlier ++ [binding]))) found tokens

/-- The name and the parameters of a type are read. -/
def typeBody (l : Listing) (head : TypeHead) (found : SourceFile) (tokens : List Token) : State :=
  let tokens := afterAssign tokens
  if tokens.head?.any (·.isWord "struct") then
    .after (l.expect (.opening .curly) (tokens.drop 1)) fun (_, tokens) =>
      .head (.semicolons (.fields head [])) found tokens
  else .head (.run (.remainder head.place (head.type false [])) 0 []) found tokens

/-- A declared type begins. -/
def typeStart (l : Listing) (place : TypePlace) (doc : List Text) (found : SourceFile)
    (tokens : List Token) : State :=
  .after (l.expect .identifier tokens) fun (name, tokens) =>
    if at? (.opening .square) tokens && l.startsTypeParameters (tokens.drop 1) then
      .head (.run (.parameters ⟨place, doc, name⟩) 0 []) found (tokens.drop 1)
    else l.typeBody ⟨place, doc, name⟩ found tokens

/-- Declared variables begin. -/
def variableStart (l : Listing) (place : VariablePlace) (found : SourceFile)
    (tokens : List Token) : State :=
  .after (l.expect .identifier tokens) fun (name, tokens) =>
    .head (.names place [name.spelling]) found tokens

/-- The semicolons are passed over. -/
def afterSemicolons (l : Listing) (next : Next) (found : SourceFile) (tokens : List Token) :
    State :=
  match next with
  | .packageClause =>
    .after (l.expectWord "package" tokens) fun (_, tokens) =>
      .after (l.expect .identifier tokens) fun (name, tokens) =>
        .head .declarations { found with package := name.spelling } tokens
  | .fields head fields => .head (.fields head fields) found tokens
  | .types doc earlier => .head (.types doc earlier) found tokens
  | .bindings earlier => .head (.bindings earlier) found tokens

/-- A balanced run is read. -/
def afterRun (l : Listing) (purpose : Purpose) (taken : List Token) (found : SourceFile)
    (tokens : List Token) : State :=
  match purpose with
  | .parameters head =>
    .after (l.expect (.closing .square) tokens) fun (_, tokens) => l.typeBody head found tokens
  | .line head fields =>
    .after (l.fieldsOfLine taken) fun own =>
      .head (.semicolons (.fields head (fields ++ own))) found tokens
  | .remainder place type => afterType place type found (skipSemicolon tokens)
  | .variableType place names =>
    if at? .assign tokens then .head (.run (.values place names) 0 []) found (tokens.drop 1)
    else afterVariable place ⟨names, []⟩ found (skipSemicolon tokens)
  | .values place names =>
    afterVariable place ⟨names, (splitOutside .comma taken).map l.composite?⟩ found
      (skipSemicolon tokens)

/-- A declaration begins with a token. -/
def declaration (l : Listing) (found : SourceFile) (t : Token) (rest : List Token) : State :=
  if t.kind = .semicolon then .head .declarations found rest
  else if t.isWord "type" then
    if at? (.opening .round) rest then
      .head (.semicolons (.types (l.docAbove t) [])) found (rest.drop 1)
    else l.typeStart .single (l.docAbove t) found rest
  else if t.isWord "var" then
    if at? (.opening .round) rest then .head (.semicolons (.bindings [])) found (rest.drop 1)
    else l.variableStart .single found rest
  else .head (.statement 0) found (t :: rest)

/-- From the head of a loop to the next one. -/
def step (l : Listing) : State → State
  | .ended result => .ended result
  | .head (.semicolons next) found [] => l.afterSemicolons next found []
  | .head (.semicolons next) found (t :: rest) =>
    if t.kind = .semicolon then .head (.semicolons next) found rest
    else l.afterSemicolons next found (t :: rest)
  | .head .declarations found [] => .ended (.ok found)
  | .head .declarations found (t :: rest) => l.declaration found t rest
  | .head (.statement depth) found [] =>
    if depth = 0 then .head .declarations found [] else .ended (.error ⟨l.eof, .unclosed⟩)
  | .head (.statement depth) found (t :: rest) =>
    if t.kind.isOpening then .head (.statement (depth + 1)) found rest
    else if t.kind.isClosing then
      if depth = 0 then .ended (.error ⟨t, .unopened t.spelling⟩)
      else .head (.statement (depth - 1)) found rest
    else if t.kind = .semicolon ∧ depth = 0 then .head .declarations found rest
    else .head (.statement depth) found rest
  | .head (.run purpose depth taken) found [] =>
    if depth = 0 then l.afterRun purpose taken found [] else .ended (.error ⟨l.eof, .unclosed⟩)
  | .head (.run purpose depth taken) found (t :: rest) =>
    if depth = 0 ∧ (purpose.stops.contains t.kind ∨ t.kind.isClosing) then
      l.afterRun purpose taken found (t :: rest)
    else .head (.run purpose (depthAfter depth t) (taken ++ [t])) found rest
  | .head (.fields _ _) _ [] => .ended (.error ⟨l.eof, .unclosedStruct⟩)
  | .head (.fields head fields) found (t :: rest) =>
    if t.kind = .closing .curly then
      .head (.run (.remainder head.place (head.type true fields)) 0 []) found rest
    else .head (.run (.line head fields) 0 []) found (t :: rest)
  | .head (.names place names) found tokens =>
    if at? .comma tokens then
      .after (l.expect .identifier (tokens.drop 1)) fun (name, tokens) =>
        .head (.names place (names ++ [name.spelling])) found tokens
    else .head (.run (.variableType place names) 0 []) found tokens
  | .head (.types doc earlier) found tokens =>
    if at? (.closing .round) tokens then
      .head .declarations { found with types := found.types ++ earlier } (tokens.drop 1)
    else
      let own := l.docAbove (l.current tokens)
      l.typeStart (.grouped doc earlier) (if own.isEmpty then doc else own) found tokens
  | .head (.bindings earlier) found tokens =>
    if at? (.closing .round) tokens then
      .head .declarations { found with bindings := found.bindings ++ earlier } (tokens.drop 1)
    else l.variableStart (.grouped earlier) found tokens

/-- The state of the reader after a number of steps from the beginning of a file. -/
def walk (l : Listing) (n : Nat) : State :=
  l.step^[n] (.head (.semicolons .packageClause) ⟨[], [], []⟩ l.tokens)

/-! ## Walks -/

/-- Some number of steps takes one state to another. -/
def Leads (l : Listing) (s s' : State) : Prop := ∃ n, l.step^[n] s = s'

variable {l : Listing} {s s' s'' : State}

theorem Leads.refl (l : Listing) (s : State) : l.Leads s s := ⟨0, rfl⟩

theorem Leads.trans (first : l.Leads s s') (next : l.Leads s' s'') : l.Leads s s'' := by
  obtain ⟨n, rfl⟩ := first
  obtain ⟨m, rfl⟩ := next
  exact ⟨m + n, Function.iterate_add_apply l.step m n s⟩

theorem Leads.head (h : l.Leads (l.step s) s') : l.Leads s s' :=
  Leads.trans ⟨1, rfl⟩ h

theorem step_iterate_ended (l : Listing) (n : Nat) (result : Except Fault SourceFile) :
    l.step^[n] (.ended result) = .ended result :=
  Function.iterate_fixed rfl n

end Listing

end EnumText
