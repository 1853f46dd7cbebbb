import EnumText.Text.Letter
import EnumText.Token

/-!
Lexemes: the pieces that a Go source text falls into, before lines and columns are known.

- `Lexeme.read` tells the kind and the length of the lexeme at the beginning of a text.
- `Lexeme.split` cuts a whole text into lexemes, up to the first place where none can be read.

The lexemes of a text and what is left of it make up the text.
-/

namespace EnumText

namespace Lexeme

/-- What a lexeme is. -/
inductive Kind where
  | newline
  | blank
  | lineComment
  | blockComment
  | token (kind : Token.Kind)
deriving DecidableEq, Inhabited

/-- Why no lexeme can be read at a place. -/
inductive Fault where
  | openComment
  | openString
  | openRune
  | openRawString
  | strange (c : Rune)
deriving DecidableEq, Inhabited

/-- The message for a fault. -/
def Fault.message : Fault → Text
  | .openComment => text "comment not terminated"
  | .openString => text "string literal not terminated"
  | .openRune => text "rune literal not terminated"
  | .openRawString => text "raw string literal not terminated"
  | .strange c => text "Unexpected character: " ++ Text.display [c]

end Lexeme

/-- A lexeme with its text. -/
structure Lexeme where
  kind : Lexeme.Kind
  spelling : Text
deriving DecidableEq, Inhabited

namespace Lexeme

/-! ## Readers

Each reader gets the text after the first rune or runes of a lexeme, and tells how many more belong
to it. -/

/-- Whether a rune is white space other than a line break. -/
def isSpace (c : Rune) : Bool :=
  c == .scalar ' ' || c == .scalar '\t' || c == .scalar '\r' || c == .scalar '\ufeff'

/-- Whether a rune can stand in an identifier after its first. -/
def isIdentifierPart (c : Rune) : Bool := c.isAlphanumeric || c == .scalar '_'

/-- The length of a line comment, which ends before the line break. -/
def lineCommentLength (rest : Text) : Nat := (rest.takeWhile (· ≠ .scalar '\n')).length

/-- The length of a block comment up to and with its end marker. -/
def blockCommentLength : Text → Except Fault Nat
  | [] => .error .openComment
  | .scalar '*' :: .scalar '/' :: _ => .ok 2
  | _ :: rest => (blockCommentLength rest).map (· + 1)

/-- The length of a quoted literal up to and with the closing quote. A backslash protects any rune
after it, and only there a line break may stand. -/
def quotedLength (quote : Rune) : Text → Except Fault Nat
  | [] => .error (if quote = '\x27' then .openRune else .openString)
  | c :: rest =>
    if c = '\n' then .error (if quote = '\x27' then .openRune else .openString)
    else if c = '\\' then
      match rest with
      | [] => .error .openString
      | _ :: rest => (quotedLength quote rest).map (· + 2)
    else if c = quote then .ok 1
    else (quotedLength quote rest).map (· + 1)

/-- The length of a raw string up to and with the closing back quote. -/
def rawStringLength : Text → Except Fault Nat
  | [] => .error .openRawString
  | c :: rest => if c = '\x60' then .ok 1 else (rawStringLength rest).map (· + 1)

/-- Whether a sign may follow a rune inside a number. -/
def isExponentMark (isHex : Bool) (c : Rune) : Bool :=
  c == .scalar 'p' || c == .scalar 'P' || (!isHex && (c == .scalar 'e' || c == .scalar 'E'))

/-- The length of a number: letters, digits, dots, underscores and a sign after each exponent mark.
The flag tells whether such a mark stands right before. -/
def numberLength (isHex afterMark : Bool) : Text → Nat
  | [] => 0
  | c :: rest =>
    if c.isAlphanumeric || c == .scalar '.' || c == .scalar '_' then
      numberLength isHex (isExponentMark isHex c) rest + 1
    else if afterMark && (c == .scalar '+' || c == .scalar '-') then
      numberLength isHex false rest + 1
    else 0

/-- Whether a number is hexadecimal, which changes its exponent mark. -/
def isHexNumber (first : Rune) (rest : Text) : Bool :=
  first == .scalar '0' && rest.head?.any fun c => c == .scalar 'x' || c == .scalar 'X'

/-- The length of an identifier or keyword. -/
def identifierLength (rest : Text) : Nat := (rest.takeWhile isIdentifierPart).length

/-- A word is a keyword or an identifier. -/
def wordKind (word : Text) : Token.Kind :=
  if Token.keywords.contains word then .keyword else .identifier

/-- The kind of a punctuation mark. -/
def punctuation? : Rune → Option Token.Kind
  | .scalar '(' => some (.opening .round)
  | .scalar ')' => some (.closing .round)
  | .scalar '[' => some (.opening .square)
  | .scalar ']' => some (.closing .square)
  | .scalar '\x7b' => some (.opening .curly)
  | .scalar '\x7d' => some (.closing .curly)
  | .scalar ',' => some .comma
  | .scalar ':' => some .colon
  | .scalar '.' => some .dot
  | .scalar '=' => some .assign
  | .scalar ';' => some .semicolon
  | _ => none

/-- The operators, longer ones before their beginnings. -/
def operators : List Text :=
  ["<<=", ">>=", "&^=", "...", "&&", "||", "<-", "++", "--", "==", "!=", "<=", ">=", ":=", "+=",
    "-=", "*=", "/=", "%=", "&=", "|=", "^=", "<<", ">>", "&^", "+", "-", "*", "/", "%", "&", "|",
    "^", "<", ">", "!", "~"].map text

/-- Whether a text begins with an operator whose first rune is a punctuation mark. -/
def startsOperator (t : Text) : Bool :=
  t.startsWith (text "...") || t.startsWith (text ":=") || t.startsWith (text "==")

/-- The longest operator that a text begins with. -/
def operator? (t : Text) : Option Text := operators.find? t.startsWith

/-- The kind of the lexeme that begins with a given rune, and how many of the runes after it belong
to it. -/
def read (c : Rune) (rest : Text) : Except Fault (Kind × Nat) :=
  if c = '\n' then .ok (.newline, 0)
  else if isSpace c then .ok (.blank, 0)
  else if c = '/' ∧ rest.head? = some (.scalar '/') then
    .ok (.lineComment, lineCommentLength rest)
  else if c = '/' ∧ rest.head? = some (.scalar '*') then
    (blockCommentLength rest.tail).map fun n => (.blockComment, n + 1)
  else if c = '"' then (quotedLength c rest).map (Kind.token .string, ·)
  else if c = '\x27' then (quotedLength c rest).map (Kind.token .rune, ·)
  else if c = '\x60' then (rawStringLength rest).map (Kind.token .rawString, ·)
  else if c.isDigit || (c == .scalar '.' && rest.head?.any Rune.isDigit) then
    .ok (.token .number, numberLength (isHexNumber c rest) false (c :: rest) - 1)
  else if c.isLetter || c == .scalar '_' then
    let n := identifierLength rest
    .ok (.token (wordKind (c :: rest.take n)), n)
  else
    match punctuation? c, startsOperator (c :: rest) with
    | some kind, false => .ok (.token kind, 0)
    | _, _ =>
      match operator? (c :: rest) with
      | some op => .ok (.token .operator, op.length - 1)
      | none => .error (.strange c)

/-! ## Whole texts -/

/-- The lexemes of what follows the first `skip` runes of a text, and the fault at the place where
they end, if they do not reach the end of the text. -/
def splitAfter : Nat → Text → List Lexeme × Option Fault
  | _, [] => ([], none)
  | skip + 1, _ :: rest => splitAfter skip rest
  | 0, c :: rest =>
    match read c rest with
    | .error fault => ([], some fault)
    | .ok (kind, n) =>
      let (lexemes, fault) := splitAfter n rest
      (⟨kind, c :: rest.take n⟩ :: lexemes, fault)

/-- The lexemes of a text, and the fault at the place where they end, if they do not reach the end
of the text. -/
def split (t : Text) : List Lexeme × Option Fault := splitAfter 0 t

end Lexeme

end EnumText
