/-!
Text in which bytes that are not UTF-8 keep their place.

- `Rune` is one unit of text: a Unicode scalar value, or one stray byte.
- `Text` is a list of runes; lengths, columns and offsets count runes.
- `Rune.rank` orders runes, and `Text.le` orders texts by it.
-/

namespace EnumText

/-- A rune is a Unicode scalar value, or a byte from 0x80 to 0xFF that belongs to no valid UTF-8
sequence, held as its distance from 0x80. -/
inductive Rune where
  | scalar (c : Char)
  | stray (offset : Fin 128)
deriving DecidableEq, Inhabited

namespace Rune

instance : Coe Char Rune := ⟨.scalar⟩

/-- The place of a rune in the order of texts: scalar values by code point, and stray bytes in the
gap that the surrogates leave among them. -/
def rank : Rune → Nat
  | .scalar c => c.toNat
  | .stray b => 0xDC80 + b.val

/-- The value of the byte that a stray offset stands for. -/
def strayByte (b : Fin 128) : Nat := 0x80 + b.val

/-- Whether a rune is a scalar value. -/
def isScalar : Rune → Bool
  | .scalar _ => true
  | .stray _ => false

/-- The rune of a code point that is a scalar value; any other number gives U+0000. -/
def ofCode (n : Nat) : Rune := .scalar (Char.ofNat n)

end Rune

/-- A text is a list of runes. -/
abbrev Text := List Rune

/-- The text of a string. -/
def text (s : String) : Text := s.toList.map .scalar

namespace Text

/-- Whether every rune of a text is a scalar value. -/
def isScalar (t : Text) : Bool := t.all Rune.isScalar

/-- The order of texts: by the rank of the first rune that differs, a shorter text before its
extensions. -/
def le : Text → Text → Bool
  | [], _ => true
  | _ :: _, [] => false
  | a :: s, b :: t => if a = b then le s t else a.rank < b.rank

/-- The decimal digits of a number. -/
def ofNat (n : Nat) : Text := (Nat.toDigits 10 n).map .scalar

/-- The decimal digits of an integer, after a minus sign if it is negative. -/
def ofInt : Int → Text
  | .ofNat n => ofNat n
  | .negSucc n => .scalar '-' :: ofNat (n + 1)

/-- The lower-case hexadecimal digits of a number, with zeros in front up to a width. -/
def hex (width n : Nat) : Text :=
  let digits := (Nat.toDigits 16 n).map Rune.scalar
  List.replicate (width - digits.length) (.scalar '0') ++ digits

/-- A run of spaces. -/
def spaces (n : Nat) : Text := List.replicate n (.scalar ' ')

/-- A text with spaces after it up to a width. -/
def padRight (width : Nat) (t : Text) : Text := t ++ spaces (width - t.length)

/-- A text with spaces before it up to a width. -/
def padLeft (width : Nat) (t : Text) : Text := spaces (width - t.length) ++ t

/-- Whether a text begins with another. -/
def startsWith (t start : Text) : Bool := start.isPrefixOf t

/-- Whether a text ends with another. -/
def endsWith (t tail : Text) : Bool := tail.isSuffixOf t

/-- The runes from one offset up to another. -/
def slice (t : Text) (start stop : Nat) : Text := (t.drop start).take (stop - start)

/-- The pieces of a text between the occurrences of a rune; there is always one piece more than
there are occurrences. -/
def splitOn (separator : Rune) : Text → List Text
  | [] => [[]]
  | c :: s =>
    let pieces := splitOn separator s
    if c = separator then [] :: pieces
    else (c :: pieces.headD []) :: pieces.tail

/-- What stands before and after the first occurrence of a rune, if there is one. -/
def cut? (separator : Rune) : Text → Option (Text × Text)
  | [] => none
  | c :: s =>
    if c = separator then some ([], s)
    else (cut? separator s).map fun (before, after) => (c :: before, after)

/-- A text without its first and last runes that satisfy a property. -/
def trim (p : Rune → Bool) (t : Text) : Text :=
  ((t.dropWhile p).reverse.dropWhile p).reverse

/-- A text without its last runes that satisfy a property. -/
def trimRight (p : Rune → Bool) (t : Text) : Text := (t.reverse.dropWhile p).reverse

end Text

end EnumText
