import EnumText.Text.Display

/-!
Tokens and comments of Go source.
-/

namespace EnumText

/-- The shape of a bracket. -/
inductive Bracket where
  | round
  | square
  | curly
deriving DecidableEq, Inhabited

namespace Token

/-- What a token is. -/
inductive Kind where
  | identifier
  | keyword
  | string
  | rawString
  | rune
  | number
  | operator
  | opening (b : Bracket)
  | closing (b : Bracket)
  | comma
  | colon
  | dot
  | assign
  | semicolon
  /-- The end of the file. -/
  | eof
deriving DecidableEq, Inhabited

namespace Kind

/-- The name of a kind in messages; punctuation names itself. -/
def label : Kind → Text
  | .identifier => text "IDENTIFIER"
  | .keyword => text "KEYWORD"
  | .string => text "STRING"
  | .rawString => text "RAW_STRING"
  | .rune => text "CHAR"
  | .number => text "NUMBER"
  | .operator => text "OPERATOR"
  | .opening .round => text "("
  | .closing .round => text ")"
  | .opening .square => text "["
  | .closing .square => text "]"
  | .opening .curly => text "\x7b"
  | .closing .curly => text "\x7d"
  | .comma => text ","
  | .colon => text ":"
  | .dot => text "."
  | .assign => text "="
  | .semicolon => text ";"
  | .eof => text "EOF"

/-- Whether a token of this kind opens a bracket. -/
def isOpening : Kind → Bool
  | .opening _ => true
  | _ => false

/-- Whether a token of this kind closes a bracket. -/
def isClosing : Kind → Bool
  | .closing _ => true
  | _ => false

end Kind

end Token

/-- A token with its place. Lines and columns are counted from one; `start` and `stop` are the
offsets of its first rune and of the rune after its last. A semicolon that stands for a line break
and the end of the file take no room in the source. -/
structure Token where
  kind : Token.Kind
  /-- The source text of the token. -/
  spelling : Text
  line : Nat
  column : Nat
  start : Nat
  stop : Nat
deriving DecidableEq, Inhabited

namespace Token

/-- The keywords of Go. -/
def keywords : List Text :=
  ["break", "case", "chan", "const", "continue", "default", "defer", "else", "fallthrough", "for",
    "func", "go", "goto", "if", "import", "interface", "map", "package", "range", "return",
    "select", "struct", "switch", "type", "var"].map text

/-- The keywords that can end a statement. -/
def endingKeywords : List Text :=
  ["break", "continue", "fallthrough", "return"].map text

/-- The operators that can end a statement. -/
def endingOperators : List Text := ["++", "--"].map text

/-- Whether a line break after the token ends the statement. -/
def endsStatement (t : Token) : Bool :=
  match t.kind with
  | .identifier | .string | .rawString | .rune | .number | .closing _ => true
  | .keyword => endingKeywords.contains t.spelling
  | .operator => endingOperators.contains t.spelling
  | _ => false

/-- Whether a token is a given keyword. -/
def isWord (t : Token) (word : String) : Bool :=
  t.kind == .keyword && t.spelling == text word

/-- A token in a form for diagnosis. -/
def display (t : Token) : Text :=
  text "Token(" ++ t.kind.label ++ text ", " ++ t.spelling.display ++ text ", " ++
    Text.ofNat t.line ++ text ":" ++ Text.ofNat t.column ++ text ")"

end Token

/-- A comment with its markers, and the lines that it begins and ends on. -/
structure Comment where
  text : Text
  line : Nat
  endLine : Nat
  /-- Whether no token stands before the comment on its line. -/
  ownLine : Bool
deriving DecidableEq, Inhabited

end EnumText
