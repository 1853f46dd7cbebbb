import EnumText.Text.Numeral
import EnumText.Text.Printable
import EnumText.Text.Utf8

/-!
String and rune literals of Go.

- `Literal.quote` writes a text as an interpreted string literal.
- `Literal.unquote?` reads a literal of any of the three kinds.

Inside double quotes the hexadecimal and octal escapes stand for single bytes, so that a literal can
denote bytes that are not UTF-8; `quote` writes stray bytes in that form.
-/

namespace EnumText.Literal

/-- The rune that a one-letter escape stands for. -/
def simpleEscape? : Rune → Option Char
  | .scalar 'a' => some '\x07'
  | .scalar 'b' => some '\x08'
  | .scalar 'f' => some '\x0c'
  | .scalar 'n' => some '\n'
  | .scalar 'r' => some '\r'
  | .scalar 't' => some '\t'
  | .scalar 'v' => some '\x0b'
  | .scalar '\\' => some '\\'
  | _ => none

/-- One rune inside an interpreted string literal. -/
def escape : Rune → Text
  | .scalar '\x07' => text "\\a"
  | .scalar '\x08' => text "\\b"
  | .scalar '\x0c' => text "\\f"
  | .scalar '\n' => text "\\n"
  | .scalar '\r' => text "\\r"
  | .scalar '\t' => text "\\t"
  | .scalar '\x0b' => text "\\v"
  | .scalar '\\' => text "\\\\"
  | .scalar '"' => text "\\\""
  | .scalar c =>
    let n := c.toNat
    if Rune.isPrintable (.scalar c) then [.scalar c]
    else if n < 0x20 ∨ n = 0x7F then text "\\x" ++ Text.hex 2 n
    else if n < 0x10000 then text "\\u" ++ Text.hex 4 n
    else text "\\U" ++ Text.hex 8 n
  | .stray b => text "\\x" ++ Text.hex 2 (Rune.strayByte b)

/-- The interpreted string literal of a text. -/
def quote (t : Text) : Text := .scalar '"' :: t.flatMap escape ++ [.scalar '"']

/-- The bytes of a numeric escape: one byte as it is, or the UTF-8 sequence of a scalar value. -/
def numericBytes? (isByte : Bool) (n : Nat) : Option (List UInt8) :=
  if isByte then some [.ofNat n]
  else if n.isValidChar then some (Rune.encode (Rune.ofCode n))
  else none

/-- The bytes that an escape stands for, and how many runes it takes after its backslash. -/
def escape? (quote : Rune) : Text → Option (List UInt8 × Nat)
  | [] => none
  | c :: rest =>
    match simpleEscape? c with
    | some value => some (Rune.encode value, 1)
    | none =>
      if c = quote then some (quote.encode, 1)
      else if c = 'x' then do
        let n ← Text.numberOf? 16 2 rest
        return (← numericBytes? (quote == '"') n, 3)
      else if c = 'u' then do
        let n ← Text.numberOf? 16 4 rest
        return (← numericBytes? false n, 5)
      else if c = 'U' then do
        let n ← Text.numberOf? 16 8 rest
        return (← numericBytes? false n, 9)
      else do
        let n ← Text.numberOf? 8 3 (c :: rest)
        if n < 0x100 then return (← numericBytes? (quote == '"') n, 3) else none

/-- The bytes of what follows the first `skip` runes between interpreting quotes. -/
def bodyBytes? (quote : Rune) : Nat → Text → Option (List UInt8)
  | _, [] => some []
  | skip + 1, _ :: rest => bodyBytes? quote skip rest
  | 0, c :: rest =>
    if c = quote ∨ c = '\n' then none
    else if c = '\\' then do
      let (bytes, count) ← escape? quote rest
      return bytes ++ (← bodyBytes? quote count rest)
    else do
      return c.encode ++ (← bodyBytes? quote 0 rest)

/-- The text between interpreting quotes. Without escapes it is the body itself. -/
def body? (quote : Rune) (body : Text) : Option Text :=
  if body.contains '\\' || body.contains '\n' || body.contains quote then
    (bodyBytes? quote 0 body).map Utf8.decode
  else some body

/-- The text between back quotes: carriage returns are dropped. -/
def rawBody? (body : Text) : Option Text :=
  if body.contains '\x60' then none else some (body.filter (· ≠ '\r'))

/-- The text that a literal denotes. A rune literal denotes a text of one rune. -/
def unquote? : Text → Option Text
  | [] => none
  | quote :: rest =>
    if rest.getLast? = some quote then
      let body := rest.dropLast
      if quote = '\x60' then rawBody? body
      else if quote = '"' then body? quote body
      else if quote = '\x27' then
        (body? quote body).bind fun t => if t.length = 1 then some t else none
      else none
    else none

end EnumText.Literal
