import EnumText.Text.Rune

/-!
UTF-8, with bytes that belong to no valid sequence kept as stray runes.

- `Rune.encode` and `Text.encode` write runes as bytes.
- `Utf8.scalarAt?` reads the one valid sequence that a list of bytes may begin with.
- `Utf8.decode` reads any bytes.
-/

namespace EnumText

/-- The bytes of a rune: its UTF-8 sequence, or the stray byte itself. -/
def Rune.encode : Rune → List UInt8
  | .scalar c =>
    let n := c.toNat
    if n < 0x80 then [.ofNat n]
    else if n < 0x800 then [.ofNat (0xC0 + n / 0x40), .ofNat (0x80 + n % 0x40)]
    else if n < 0x10000 then
      [.ofNat (0xE0 + n / 0x1000), .ofNat (0x80 + n / 0x40 % 0x40), .ofNat (0x80 + n % 0x40)]
    else
      [.ofNat (0xF0 + n / 0x40000), .ofNat (0x80 + n / 0x1000 % 0x40),
        .ofNat (0x80 + n / 0x40 % 0x40), .ofNat (0x80 + n % 0x40)]
  | .stray b => [.ofNat (Rune.strayByte b)]

/-- The bytes of a text. -/
def Text.encode (t : Text) : List UInt8 := t.flatMap Rune.encode

namespace Utf8

/-- The payload of a continuation byte. -/
def continuation? (b : UInt8) : Option Nat :=
  if 0x80 ≤ b.toNat ∧ b.toNat < 0xC0 then some (b.toNat - 0x80) else none

/-- The payloads of the first `count` bytes, which have to be continuation bytes, as one number. -/
def payload? : Nat → Nat → List UInt8 → Option Nat
  | 0, high, _ => some high
  | _ + 1, _, [] => none
  | count + 1, high, b :: rest =>
    (continuation? b).bind fun low => payload? count (high * 0x40 + low) rest

/-- The number of continuation bytes that a first byte asks for, and its own payload. -/
def lead? (b : UInt8) : Option (Nat × Nat) :=
  let n := b.toNat
  if n < 0x80 then some (0, n)
  else if n < 0xC2 then none
  else if n < 0xE0 then some (1, n - 0xC0)
  else if n < 0xF0 then some (2, n - 0xE0)
  else if n < 0xF5 then some (3, n - 0xF0)
  else none

/-- Whether a number is a scalar value that needs exactly this many continuation bytes. -/
def fits : Nat → Nat → Bool
  | 0, n => n < 0x80
  | 1, n => 0x80 ≤ n && n < 0x800
  | 2, n => 0x800 ≤ n && n < 0x10000 && !(0xD800 ≤ n && n < 0xE000)
  | _, n => 0x10000 ≤ n && n < 0x110000

/-- The scalar value whose UTF-8 sequence the bytes begin with, and how many bytes follow the first
one in it. -/
def scalarAt? (first : UInt8) (rest : List UInt8) : Option (Char × Nat) := do
  let (count, high) ← lead? first
  let n ← payload? count high rest
  if fits count n then some (Char.ofNat n, count) else none

/-- The text of the bytes that follow the first `skip` ones. -/
def decodeAfter : Nat → List UInt8 → Text
  | _, [] => []
  | skip + 1, _ :: rest => decodeAfter skip rest
  | 0, b :: rest =>
    match scalarAt? b rest with
    | some (c, count) => .scalar c :: decodeAfter count rest
    | none => .stray (Fin.ofNat 128 b.toNat) :: decodeAfter 0 rest

/-- The text of any bytes: each byte that belongs to no valid sequence becomes a stray rune. -/
def decode (bytes : List UInt8) : Text := decodeAfter 0 bytes

end Utf8

end EnumText
