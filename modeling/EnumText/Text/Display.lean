import EnumText.Text.Printable

/-!
The display form of a text in messages: quoted, and printable throughout.
-/

namespace EnumText

/-- One rune between quotes of the given kind: a backslash and the quote itself are escaped, and so
is all that cannot be printed, by the shortest numeric form that holds it. -/
def Rune.display (quote : Char) : Rune → Text
  | .scalar c =>
    let n := c.toNat
    if c = quote ∨ c = '\\' then ['\\', .scalar c]
    else if c = '\n' then text "\\n"
    else if c = '\r' then text "\\r"
    else if c = '\t' then text "\\t"
    else if Rune.isPrintable (.scalar c) then [.scalar c]
    else if n < 0x100 then text "\\x" ++ Text.hex 2 n
    else if n < 0x10000 then text "\\u" ++ Text.hex 4 n
    else text "\\U" ++ Text.hex 8 n
  | .stray b => text "\\udc" ++ Text.hex 2 (Rune.strayByte b)

namespace Text

/-- The quote of the display form: single, or double for a text that holds a single quote and no
double one. -/
def displayQuote (t : Text) : Char :=
  if t.contains '\x27' && !t.contains '"' then '"' else '\x27'

/-- The display form of a text. -/
def display (t : Text) : Text :=
  let quote := displayQuote t
  [.scalar quote] ++ t.flatMap (Rune.display quote) ++ [.scalar quote]

end Text

end EnumText
