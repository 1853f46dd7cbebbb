import EnumText.Site
import EnumText.Text.Lines
import EnumText.Token.Lexeme

/-!
Listings: Go source with its tokens and comments at their places.

- `Cursor` counts offset, line and column along a text.
- `Layout` places lexemes and adds the semicolons that line breaks stand for.
- `Listing.ofText?` lays out a whole source text.
- `Listing.docs` groups the comments that stand on lines of their own.
-/

namespace EnumText

/-- A position in a text: the offset, and the line and column counted from one. -/
structure Cursor where
  offset : Nat
  line : Nat
  column : Nat
deriving DecidableEq, Inhabited

namespace Cursor

/-- The position before a text. -/
def start : Cursor := ⟨0, 1, 1⟩

/-- The position after one more rune. -/
def step (here : Cursor) (c : Rune) : Cursor :=
  if c = '\n' then ⟨here.offset + 1, here.line + 1, 1⟩
  else ⟨here.offset + 1, here.line, here.column + 1⟩

/-- The position after a further text. -/
def advance (here : Cursor) (t : Text) : Cursor := t.foldl step here

end Cursor

/-- Tokens and comments in source order, and the end of the file. -/
structure Layout where
  tokens : List Token
  eof : Token
  comments : List Comment
deriving DecidableEq, Inhabited

namespace Layout

/-- A token that takes no room in the source. -/
def emptyToken (kind : Token.Kind) (spelling : Text) (here : Cursor) : Token :=
  ⟨kind, spelling, here.line, here.column, here.offset, here.offset⟩

/-- The semicolon that a line break stands for, where the last token of the line ends a
statement. -/
def impliedSemicolon (last : Option Token) (spelling : Text) (here : Cursor) : List Token :=
  if last.any Token.endsStatement then [emptyToken .semicolon spelling here] else []

/-- A layout with tokens before it. -/
def withTokens (tokens : List Token) (l : Layout) : Layout :=
  { l with tokens := tokens ++ l.tokens }

/-- A layout with a comment before it. -/
def withComment (comment : Comment) (l : Layout) : Layout :=
  { l with comments := comment :: l.comments }

/-- The layout of lexemes from a position on, after the last token of the same line, if any. A block
comment that spans lines is a line break. -/
def place (here : Cursor) (last : Option Token) : List Lexeme → Layout
  | [] => ⟨impliedSemicolon last [] here, emptyToken .eof [] here, []⟩
  | lexeme :: rest =>
    let after := here.advance lexeme.spelling
    match lexeme.kind with
    | .newline => (place after none rest).withTokens (impliedSemicolon last (text "\n") here)
    | .blank => place after last rest
    | .lineComment =>
      (place after last rest).withComment
        ⟨lexeme.spelling.trimRight (· == .scalar '\r'), here.line, here.line, last.isNone⟩
    | .blockComment =>
      let comment := ⟨lexeme.spelling, here.line, after.line, last.isNone⟩
      if here.line < after.line then
        ((place after none rest).withTokens (impliedSemicolon last (text "\n") after)).withComment
          comment
      else (place after last rest).withComment comment
    | .token kind =>
      let token := ⟨kind, lexeme.spelling, here.line, here.column, here.offset, after.offset⟩
      (place after (some token) rest).withTokens [token]

end Layout

/-- A place in a text of a file, with the line that the text has there. -/
def Site.inText (file : Path) (source : Text) (line column : Nat) : Site :=
  ⟨file, line, column, if line = 0 then none else source.lines[line - 1]?⟩

/-- A source text with its tokens and comments. -/
structure Listing extends Layout where
  source : Text
deriving DecidableEq, Inhabited

namespace Listing

/-- The listing of a text, or the place where it has no lexeme and why. -/
def ofText? (source : Text) : Except (Cursor × Lexeme.Fault) Listing :=
  let (lexemes, fault) := Lexeme.split source
  match fault with
  | some fault => .error (Cursor.start.advance (lexemes.flatMap Lexeme.spelling), fault)
  | none => .ok ⟨Layout.place .start none lexemes, source⟩

/-- All tokens, the end of the file included. -/
def allTokens (l : Listing) : List Token := l.tokens ++ [l.eof]

/-- The source text of consecutive tokens. -/
def textOf (l : Listing) (tokens : List Token) : Text :=
  match tokens.head?, tokens.getLast? with
  | some first, some last => l.source.slice first.start last.stop
  | _, _ => []

/-! ## Doc comments -/

/-- The group of comments read so far, given backwards, unless it is empty. -/
def finishGroup (current : List Comment) : List (List Comment) :=
  if current.isEmpty then [] else [current.reverse]

/-- The groups of comments that stand after an unfinished group, which is given backwards. A group
ends before a blank line, and at a comment that follows a token on its line. -/
def groupsAfter (current : List Comment) : List Comment → List (List Comment)
  | [] => finishGroup current
  | c :: rest =>
    if c.ownLine then
      match current with
      | [] => groupsAfter [c] rest
      | last :: _ =>
        if c.line ≤ last.endLine + 1 then groupsAfter (c :: current) rest
        else finishGroup current ++ groupsAfter [c] rest
    else finishGroup current ++ groupsAfter [] rest

/-- The comment groups of a listing. -/
def docGroups (l : Listing) : List (List Comment) := groupsAfter [] l.comments

/-- The comments of the group that ends on a line. -/
def docEndingOn (l : Listing) (line : Nat) : List Text :=
  match l.docGroups.reverse.find? fun group => group.getLast?.any (·.endLine = line) with
  | some group => group.map (·.text)
  | none => []

/-- The doc comment of a declaration: the group that ends on the line above its first token. -/
def docAbove (l : Listing) (t : Token) : List Text :=
  if t.line = 0 then [] else l.docEndingOn (t.line - 1)

end Listing

end EnumText
