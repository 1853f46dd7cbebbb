import EnumText.Text.Case

/-!
Names as words, and the conventions for writing words as a name.

- `words` splits a name at underscores, spaces and changes of case.
- `Casing` lists the conventions; `Casing.parse?` reads the name of one.
- `Casing.join` writes words under a convention, and `Casing.transform` a whole name.
-/

namespace EnumText

/-- Whether a rune ends a word and is dropped. -/
def Rune.isDelimiter (c : Rune) : Bool := c == '_' || c == ' '

/-- The word read so far, given backwards, unless it is empty. -/
def finishWord (current : Text) : List Text :=
  if current.isEmpty then [] else [current.reverse]

/-- The words of a text that stands after an unfinished word, which is given backwards.

A word ends at a delimiter, and before a capital that follows a small letter. Where a small letter
follows two capitals, the second capital starts a word with it. -/
def wordsAfter (current : Text) : Text → List Text
  | [] => finishWord current
  | c :: rest =>
    if c.isDelimiter then finishWord current ++ wordsAfter [] rest
    else
      match current with
      | [] => wordsAfter [c] rest
      | last :: earlier =>
        if last.isLower && c.isUpper then current.reverse :: wordsAfter [c] rest
        else if c.isLower && last.isUpper && earlier.head?.any Rune.isUpper then
          earlier.reverse :: wordsAfter [c, last] rest
        else wordsAfter (c :: current) rest

/-- The words of a name, each as it is written there. -/
def words (name : Text) : List Text := wordsAfter [] name

/-- A word with its first rune in upper case and the others in lower case. -/
def capitalize : Text → Text
  | [] => []
  | c :: rest => c.upper ++ Text.lower rest

/-- A convention for writing the words of a name. -/
inductive Casing where
  /-- The name as it is. -/
  | identity
  /-- Lower case with underscores between words. -/
  | snake
  /-- Upper case with underscores between words. -/
  | screamingSnake
  /-- Capitalized words without separators, the first word in lower case. -/
  | camel
  /-- Capitalized words without separators. -/
  | pascal
  /-- Capitalized words with spaces between them. -/
  | title
deriving DecidableEq, Inhabited

namespace Casing

/-- Every convention, in the order in which they are listed to the user. -/
def all : List Casing := [.identity, .snake, .screamingSnake, .camel, .pascal, .title]

/-- The name of a convention: apart from the empty name, it is written the way that it describes. -/
def name : Casing → Text
  | .identity => []
  | .snake => text "snake_case"
  | .screamingSnake => text "SNAKE_CASE"
  | .camel => text "camelCase"
  | .pascal => text "PascalCase"
  | .title => text "Title Case"

/-- The convention of a name, or of one of two longer names. -/
def parse? (t : Text) : Option Casing :=
  if t = text "identity" then some .identity
  else if t = text "SCREAMING_SNAKE_CASE" then some .screamingSnake
  else all.find? fun c => c.name == t

/-- Words written under a convention. -/
def join : Casing → List Text → Text
  | .identity, parts => parts.flatten
  | .snake, parts => List.intercalate (text "_") (parts.map Text.lower)
  | .screamingSnake, parts => List.intercalate (text "_") (parts.map Text.upper)
  | .camel, [] => []
  | .camel, first :: rest => first.lower ++ rest.flatMap capitalize
  | .pascal, parts => parts.flatMap capitalize
  | .title, parts => List.intercalate (text " ") (parts.map capitalize)

/-- A name written under a convention. -/
def transform (casing : Casing) (name : Text) : Text :=
  match casing with
  | .identity => name
  | _ => casing.join (words name)

end Casing

end EnumText
