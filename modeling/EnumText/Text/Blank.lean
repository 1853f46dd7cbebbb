import EnumText.Text.Ranges
import EnumText.Text.Rune

/-!
White space: the code points with a white space property in Unicode 14, and the separators U+001C to
U+001F.
-/

namespace EnumText.Text.Blank

/-- The white space code points. -/
def blanks : Ranges := [
  (0x9, 0xD), (0x1C, 0x20), (0x85, 0x85), (0xA0, 0xA0), (0x1680, 0x1680), (0x2000, 0x200A),
  (0x2028, 0x2029), (0x202F, 0x202F), (0x205F, 0x205F), (0x3000, 0x3000)]

end EnumText.Text.Blank

namespace EnumText

/-- Whether a rune is white space. -/
def Rune.isBlank : Rune → Bool
  | .scalar c => Text.Blank.blanks.contains c.toNat
  | .stray _ => false

/-- A text without the white space at its ends. -/
def Text.strip (t : Text) : Text := t.trim Rune.isBlank

end EnumText
