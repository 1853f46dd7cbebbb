import EnumText.Text.Rune

/-!
Lines of a text.

- `Text.lines` cuts at every line boundary of Unicode, a carriage return and line feed together
  being one.
- `Text.unifyNewlines` writes each of the three usual line ends as a line feed, and
  `Text.unifyLineEnds` leaves a carriage return alone that stands by itself.
-/

namespace EnumText

/-- Whether a rune is a line boundary. -/
def Rune.breaksLine : Rune → Bool
  | .scalar c =>
    let n := c.toNat
    (0x0A ≤ n && n ≤ 0x0D) || (0x1C ≤ n && n ≤ 0x1E) || n == 0x85 || n == 0x2028 || n == 0x2029
  | .stray _ => false

namespace Text

/-- The lines of a text without their boundaries. A boundary at the end starts no further line. -/
def lines : Text → List Text
  | [] => []
  | .scalar '\r' :: .scalar '\n' :: rest => [] :: lines rest
  | c :: rest =>
    if c.breaksLine then [] :: lines rest
    else
      let following := lines rest
      (c :: following.headD []) :: following.tail

/-- The text with a line feed for each carriage return, alone or before a line feed. -/
def unifyNewlines : Text → Text
  | [] => []
  | .scalar '\r' :: .scalar '\n' :: rest => .scalar '\n' :: unifyNewlines rest
  | c :: rest => (if c = '\r' then .scalar '\n' else c) :: unifyNewlines rest

/-- The text with a line feed for each carriage return before a line feed. -/
def unifyLineEnds : Text → Text
  | [] => []
  | .scalar '\r' :: .scalar '\n' :: rest => .scalar '\n' :: unifyLineEnds rest
  | c :: rest => c :: unifyLineEnds rest

end Text

end EnumText
