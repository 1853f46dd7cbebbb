import EnumText.Setting.Table
import EnumText.Text.Lines
import EnumText.Text.Numeral

/-!
Reading of TOML.

A reader takes the text from a place on and gives a value with the rest of the text, or nothing
where the text is malformed. Values nest, so that their readers take a number of steps that they may
use, for which the length of the text is always enough.

- `Toml.string?`, `Toml.moment?`, `Toml.number?` and `Toml.value?` read values.
- `Toml.Document` is what the statements up to some place have defined.
- `Toml.parse?` reads a whole text.
-/

namespace EnumText.Toml

/-- A chain of keys. -/
abbrev Keys := List Text

/-! ## Blanks and comments -/

/-- Whether a rune is blank inside a line. -/
def isSpace (c : Rune) : Bool := c == .scalar ' ' || c == .scalar '\t'

/-- Whether a rune is a control code other than the tab. -/
def isControl : Rune → Bool
  | .scalar c => (c.toNat < 0x20 && c ≠ '\t') || c.toNat == 0x7F
  | .stray _ => false

/-- The text after blanks. -/
def skipSpaces (t : Text) : Text := t.dropWhile isSpace

/-- The text after a comment, if there is one, up to the line feed. -/
def skipComment? : Text → Option Text
  | [] => some []
  | c :: rest =>
    if c = '#' then
      let (comment, rest) := rest.span (· ≠ .scalar '\n')
      if comment.any isControl then none else some rest
    else some (c :: rest)

/-- The text after blanks, line feeds and comments, in at most `fuel` lines. -/
def skipLines? : Nat → Text → Option Text
  | 0, _ => none
  | fuel + 1, t => do
    let t := t.dropWhile fun c => isSpace c || c == .scalar '\n'
    if t.head? = some (.scalar '#') then skipLines? fuel (← skipComment? t) else some t

/-- The text after a given beginning. -/
def skip? (start t : Text) : Option Text :=
  if t.startsWith start then some (t.drop start.length) else none

/-! ## Strings -/

/-- The scalar value that hexadecimal digits write. -/
def codePoint? (width : Nat) (t : Text) : Option (Text × Text) := do
  let n ← Text.numberOf? 16 width t
  if n.isValidChar then some ([Rune.ofCode n], t.drop width) else none

/-- The text after a backslash at the end of a line of a long string: the line break and the blanks
at the beginning of the next line are dropped. -/
def skipFold? (t : Text) : Option Text := do
  match t.dropWhile isSpace with
  | .scalar '\n' :: rest => some (rest.dropWhile fun c => isSpace c || c == .scalar '\n')
  | _ => none

/-- The text of an escape, which is read from after its backslash. -/
def escape? (long : Bool) : Text → Option (Text × Text)
  | [] => none
  | c :: rest =>
    if c = 'b' then some (text "\x08", rest)
    else if c = 't' then some (text "\t", rest)
    else if c = 'n' then some (text "\n", rest)
    else if c = 'f' then some (text "\x0c", rest)
    else if c = 'r' then some (text "\r", rest)
    else if c = '"' then some (text "\"", rest)
    else if c = '\\' then some (text "\\", rest)
    else if c = 'u' then codePoint? 4 rest
    else if c = 'U' then codePoint? 8 rest
    else if long && (isSpace c || c == .scalar '\n') then
      (skipFold? (c :: rest)).map fun rest => ([], rest)
    else none

/-- The quotes that end a string. -/
def closing (quote : Char) (long : Bool) : Text :=
  List.replicate (if long then 3 else 1) (.scalar quote)

/-- The body of a string up to and with its closing quotes. A literal one has no escapes. -/
def body? (quote : Char) (long : Bool) : Nat → Text → Option (Text × Text)
  | 0, _ => none
  | _ + 1, [] => none
  | fuel + 1, c :: rest => do
    if let some rest := skip? (closing quote long) (c :: rest) then
      return ([], rest)
    else if c = '\\' ∧ quote = '"' then
      let (escaped, rest) ← escape? long rest
      let (more, rest) ← body? quote long fuel rest
      return (escaped ++ more, rest)
    else if isControl c && !(long && c == Rune.scalar '\n') then none
    else
      let (more, rest) ← body? quote long fuel rest
      return (c :: more, rest)

/-- The quotes, two at most, that stand before the closing ones of a long string. -/
def extraQuotes (quote : Char) (t : Text) : Text :=
  (t.takeWhile (· == .scalar quote)).take 2

/-- A string from its opening quotes on. -/
def string? (quote : Char) (mayBeLong : Bool) (t : Text) : Option (Text × Text) :=
  if mayBeLong && t.startsWith (closing quote true) then do
    let t := t.drop 3
    let t := if t.head? = some (.scalar '\n') then t.drop 1 else t
    let (value, t) ← body? quote true (t.length + 1) t
    let extra := extraQuotes quote t
    return (value ++ extra, t.drop extra.length)
  else body? quote false (t.length + 1) (t.drop 1)

/-! ## Keys -/

/-- Whether a rune can stand in a key without quotes. -/
def isBareKeyPart : Rune → Bool
  | .scalar c => c.isAlphanum || c == '-' || c == '_'
  | .stray _ => false

/-- One key. -/
def keyPart? (t : Text) : Option (Text × Text) :=
  match t.head? with
  | some (.scalar '"') => string? '"' false t
  | some (.scalar '\x27') => string? '\x27' false t
  | _ =>
    let (key, rest) := t.span isBareKeyPart
    if key.isEmpty then none else some (key, rest)

/-- A chain of keys with dots between them, and the blanks after it. -/
def keys? : Nat → Text → Option (Keys × Text)
  | 0, _ => none
  | fuel + 1, t => do
    let (key, t) ← keyPart? t
    let t := skipSpaces t
    if t.head? = some (.scalar '.') then
      let (more, t) ← keys? fuel (skipSpaces (t.drop 1))
      return (key :: more, t)
    else return ([key], t)

/-! ## Numbers -/

/-- The digits at the beginning of a text, where single underscores may stand between them. -/
def digitRun (isDigit : Rune → Bool) : Text → Text × Text
  | [] => ([], [])
  | c :: rest =>
    if isDigit c then
      let (more, rest) := digitRun isDigit rest
      (c :: more, rest)
    else if c == .scalar '_' && rest.head?.any isDigit then digitRun isDigit rest
    else ([], c :: rest)

/-- One digit or more at the beginning of a text. -/
def digits? (isDigit : Rune → Bool) (t : Text) : Option (Text × Text) :=
  if t.head?.any isDigit then some (digitRun isDigit t) else none

/-- Whether a rune is a digit below a base. -/
def isDigitOf (base : Nat) (c : Rune) : Bool := (c.digitOf? base).isSome

/-- The number that digits write in a base. -/
def valueOf (base : Nat) (digits : Text) : Nat := (Text.number? base digits).getD 0

/-- A sign, if there is one; whether it is a minus. -/
def sign (t : Text) : Bool × Text :=
  match t with
  | .scalar '-' :: rest => (true, rest)
  | .scalar '+' :: rest => (false, rest)
  | _ => (false, t)

/-- The number `± digits * 10 ^ exponent` as a floating-point number. Far beyond the range of such
numbers it is infinite or zero. -/
def floatOf (negative : Bool) (digits : Text) (exponent : Int) : Float :=
  let n := valueOf 10 digits
  let magnitude : Int := digits.length + exponent
  let x : Float :=
    if n = 0 ∨ magnitude < -400 then 0.0
    else if 800 < magnitude - digits.length then 1.0 / 0.0
    else Float.ofScientific n (exponent < 0) exponent.natAbs
  if negative then -x else x

/-- An integer with a base of its own. -/
def based? (t : Text) : Option (Setting × Text) :=
  let based (mark : String) (base : Nat) : Option (Setting × Text) := do
    let (digits, rest) ← digits? (isDigitOf base) (← skip? (text mark) t)
    return (.int (valueOf base digits), rest)
  based "0x" 16 <|> based "0b" 2 <|> based "0o" 8

/-- The digits of a whole number, which have no zero in front. -/
def whole? (t : Text) : Option (Text × Text) :=
  match t with
  | .scalar '0' :: rest => some (text "0", rest)
  | _ => digits? (isDigitOf 10) t

/-- The digits after a point, if there are any. -/
def fraction (t : Text) : Text × Text :=
  match t with
  | .scalar '.' :: rest => (digits? (isDigitOf 10) rest).getD ([], t)
  | _ => ([], t)

/-- The exponent after its mark, if there is one. -/
def exponent? (t : Text) : Option (Int × Text) :=
  match t with
  | .scalar 'e' :: rest | .scalar 'E' :: rest => do
    let (negative, rest) := sign rest
    let (digits, rest) ← digits? (isDigitOf 10) rest
    let n := valueOf 10 digits
    return (if negative then -(n : Int) else n, rest)
  | _ => none

/-- A decimal number: an integer, or with a fraction or an exponent a floating-point number. -/
def decimal? (t : Text) : Option (Setting × Text) := do
  let (negative, t) := sign t
  let (whole, t) ← whole? t
  let (places, t) := fraction t
  match exponent? t with
  | some (exponent, t) =>
    return (.float (floatOf negative (whole ++ places) (exponent - places.length)), t)
  | none =>
    if places.isEmpty then
      if Setting.maxDigits < whole.length then none
      else
        let n := valueOf 10 whole
        return (.int (if negative then -(n : Int) else n), t)
    else return (.float (floatOf negative (whole ++ places) (-(places.length : Int))), t)

/-- Infinity, or what is no number. -/
def special? (t : Text) : Option (Setting × Text) :=
  let (negative, rest) := sign t
  let finish (x : Float) : Setting × Text := (.float (if negative then -x else x), rest.drop 3)
  if rest.startsWith (text "inf") then some (finish (1.0 / 0.0))
  else if rest.startsWith (text "nan") then some (finish (0.0 / 0.0))
  else none

/-- A number. -/
def number? (t : Text) : Option (Setting × Text) := based? t <|> decimal? t <|> special? t

/-! ## Dates and times -/

/-- A number of two digits below a bound. -/
def below? (bound : Nat) (t : Text) : Option (Fin bound × Text) := do
  let n ← Text.numberOf? 10 2 t
  if h : n < bound then some (⟨n, h⟩, t.drop 2) else none

/-- An hour and a minute. -/
def clock? (t : Text) : Option ((Fin 24 × Fin 60) × Text) := do
  let (hour, t) ← below? 24 t
  let (minute, t) ← below? 60 (← skip? (text ":") t)
  return ((hour, minute), t)

/-- The digits after a point, if there are any, of which the first six count as microseconds. -/
def microsecond (t : Text) : Fin 1000000 × Text :=
  let places := match t with
    | .scalar '.' :: rest => rest.takeWhile (isDigitOf 10)
    | _ => []
  let counted := places.take 6
  let n := valueOf 10 counted * Nat.pow 10 (6 - counted.length)
  (⟨n % 1000000, Nat.mod_lt _ (by decide)⟩,
    if places.isEmpty then t else t.drop (places.length + 1))

/-- A time of day. -/
def time? (t : Text) : Option (TimeOfDay × Text) := do
  let ((hour, minute), t) ← clock? t
  let (second, t) ← below? 60 (← skip? (text ":") t)
  let (microsecond, t) := microsecond t
  return (⟨hour, minute, second, microsecond⟩, t)

/-- A day of the calendar: a year of four digits, a month and a day. -/
def date? (t : Text) : Option (Date × Text) := do
  let year ← Text.numberOf? 10 4 t
  let (month, t) ← below? 13 (← skip? (text "-") (t.drop 4))
  let (day, t) ← below? 32 (← skip? (text "-") t)
  return (← Date.ofNumbers? year month day, t)

/-- The minutes that a time is ahead of universal time. -/
def offset? : Text → Option (Int × Text)
  | [] => none
  | c :: rest =>
    if c = 'Z' ∨ c = 'z' then some (0, rest)
    else if c = '+' ∨ c = '-' then do
      let ((hours, minutes), rest) ← clock? rest
      let n : Int := 60 * hours.val + minutes.val
      return (if c = '-' then -n else n, rest)
    else none

/-- The time of day after a date, if there is one. -/
def timeAfter? : Text → Option (TimeOfDay × Text)
  | [] => none
  | c :: rest => if c = 'T' ∨ c = 't' ∨ c = ' ' then time? rest else none

/-- A date, a time, or both. -/
def moment? (t : Text) : Option (Setting × Text) :=
  match date? t with
  | none => (time? t).map fun (time, t) => (.moment (.time time), t)
  | some (date, t) =>
    match timeAfter? t with
    | none => some (.moment (.date date), t)
    | some (time, t) =>
      match offset? t with
      | none => some (.moment (.both date time none), t)
      | some (minutes, t) => some (.moment (.both date time (some minutes)), t)

/-! ## Values -/

/-- Whether one of some chains of keys leads to a table or value around a chain. -/
def covers (chains : List Keys) (keys : Keys) : Bool := chains.any (·.isPrefixOf keys)

/-- Whether a value is a table or a list, to which nothing can be added afterwards. -/
def isClosed : Setting → Bool
  | .list _ | .table _ => true
  | _ => false

mutual

/-- A value. Four digits and a dash that begin no date begin no number after which a value may end
either. -/
def value? : Nat → Text → Option (Setting × Text)
  | 0, _ => none
  | fuel + 1, t =>
    match t with
    | .scalar '"' :: _ => (string? '"' true t).map fun (s, t) => (.text s, t)
    | .scalar '\x27' :: _ => (string? '\x27' true t).map fun (s, t) => (.text s, t)
    | .scalar '[' :: rest => do
      let t ← skipLines? (rest.length + 1) rest
      let (items, t) ← items? fuel t
      return (.list items, t)
    | .scalar '\x7b' :: rest =>
      match skipSpaces rest with
      | .scalar '\x7d' :: t => some (.table [], t)
      | t => (entries? fuel [] [] t).map fun (entries, t) => (.table entries, t)
    | _ =>
      if t.startsWith (text "true") then some (.bool true, t.drop 4)
      else if t.startsWith (text "false") then some (.bool false, t.drop 5)
      else moment? t <|> number? t

/-- The elements of a list up to and with its closing bracket. -/
def items? : Nat → Text → Option (List Setting × Text)
  | 0, _ => none
  | fuel + 1, t =>
    if t.head? = some (.scalar ']') then some ([], t.drop 1)
    else do
      let (item, t) ← value? fuel t
      let t ← skipLines? (t.length + 1) t
      match t with
      | .scalar ']' :: t => return ([item], t)
      | .scalar ',' :: t =>
        let (more, t) ← items? fuel (← skipLines? (t.length + 1) t)
        return (item :: more, t)
      | _ => none

/-- The entries of a table in braces up to and with the closing one, after some entries. Tables and
lists among those are closed. -/
def entries? : Nat → Table → List Keys → Text → Option (Table × Text)
  | 0, _, _, _ => none
  | fuel + 1, table, closed, t => do
    let (keys, value, t) ← entry? fuel t
    if covers closed keys then none
    else
      let table ← table.alter? (Table.add? (keys.getLastD []) value) keys.dropLast
      let closed := if isClosed value then keys :: closed else closed
      match skipSpaces t with
      | .scalar '\x7d' :: t => return (table, t)
      | .scalar ',' :: t => entries? fuel table closed (skipSpaces t)
      | _ => none

/-- A chain of keys with its value. -/
def entry? : Nat → Text → Option (Keys × Setting × Text)
  | 0, _ => none
  | fuel + 1, t => do
    let (keys, t) ← keys? (t.length + 1) t
    let (value, t) ← value? fuel (skipSpaces (← skip? (text "=") t))
    return (keys, value, t)

end

/-! ## Documents -/

/-- What the statements read so far have defined. -/
structure Document where
  entries : Table
  /-- The table that entries are added to. -/
  header : Keys
  /-- The tables that cannot be opened again. -/
  opened : List Keys
  /-- The tables made by dotted keys since the last header, which no header can open. -/
  dotted : List Keys
  /-- The tables and lists given as values. -/
  closed : List Keys
deriving Inhabited

namespace Document

/-- The document without statements. -/
def empty : Document := ⟨[], [], [], [], []⟩

/-- The document with an entry added to the current table. -/
def addEntry? (d : Document) (keys : Keys) (value : Setting) : Option Document :=
  let parents := (List.range (keys.length - 1)).map fun i => d.header ++ keys.take (i + 1)
  let chain := d.header ++ keys.dropLast
  if parents.any d.opened.contains || covers d.closed chain then none
  else do
    let entries ← d.entries.alter? (Table.add? (keys.getLastD []) value) chain
    let closed := if isClosed value then (d.header ++ keys) :: d.closed else d.closed
    return { d with entries, dotted := parents ++ d.dotted, closed }

/-- The document after the header of a table. -/
def openTable? (d : Document) (keys : Keys) : Option Document :=
  let opened := d.dotted ++ d.opened
  if opened.contains keys || covers d.closed keys then none
  else do
    let entries ← d.entries.alter? some keys
    return { d with entries, header := keys, opened := keys :: opened, dotted := [] }

/-- The document after the header of one more table in a list. The tables in the last one can be
opened anew. -/
def appendTable? (d : Document) (keys : Keys) : Option Document :=
  let outside (chains : List Keys) := chains.filter (!keys.isPrefixOf ·)
  if covers d.closed keys then none
  else do
    let entries ← d.entries.alter? (Table.append? (keys.getLastD [])) keys.dropLast
    return { entries, header := keys, opened := keys :: outside (d.dotted ++ d.opened), dotted := []
             closed := outside d.closed }

/-- The document after a header, which is read from its opening brackets on. -/
def header? (d : Document) (t : Text) : Option (Document × Text) :=
  if t.startsWith (text "[[") then do
    let (keys, t) ← keys? (t.length + 1) (skipSpaces (t.drop 2))
    return (← d.appendTable? keys, ← skip? (text "]]") t)
  else do
    let (keys, t) ← keys? (t.length + 1) (skipSpaces (t.drop 1))
    return (← d.openTable? keys, ← skip? (text "]") t)

/-- The document after one statement. -/
def statement? (d : Document) (t : Text) : Option (Document × Text) :=
  match t.head? with
  | none | some (.scalar '\n') | some (.scalar '#') => some (d, t)
  | some (.scalar '[') => d.header? t
  | some _ => do
    let (keys, value, t) ← entry? (t.length + 1) t
    return (← d.addEntry? keys value, t)

/-- The document after all statements, at most one a line, in at most `fuel` lines. -/
def statements? (d : Document) : Nat → Text → Option Document
  | 0, _ => none
  | fuel + 1, t => do
    let (d, t) ← d.statement? (skipSpaces t)
    match ← skipComment? (skipSpaces t) with
    | [] => return d
    | .scalar '\n' :: rest => d.statements? fuel rest
    | _ => none

end Document

/-- The table that a text writes. -/
def parse? (t : Text) : Option Table :=
  let t := t.unifyLineEnds
  (Document.empty.statements? (t.length + 1) t).map (·.entries)

end EnumText.Toml
