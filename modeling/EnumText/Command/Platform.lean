import EnumText.Command.Arguments
import EnumText.FileTree
import EnumText.Setting.Reader
import EnumText.Text.Terminal

/-!
What the program runs on: the libraries that read the command line and the settings and print texts,
the terminal, and the devices that hold the files.

- `Platform` is any of these together.
- `Platform.usual` reads the options as they are declared, leaves control sequences out of what it
  prints, and has devices on which no write fails.
-/

namespace EnumText

/-- What a device makes of a content that is written to a file. -/
inductive Writing where
  | whole
  /-- The file cannot be opened, for a reason that is given. -/
  | refused (reason : Text)
  /-- The file is opened, which empties it, and the writing breaks off after some bytes. -/
  | broken (bytes : Nat) (reason : Text)
deriving DecidableEq, Inhabited

/-- What a program runs on. -/
class Platform extends SettingReader where
  /-- What a command line asks for, if it is well formed. -/
  parse? : List Text → Option Invocation
  /-- The page of help that a command line asks for. -/
  help : List Text → Text
  /-- What a text is on standard output, if that can hold it. -/
  output? : Text → Option Text
  /-- What a message is on standard error. -/
  message : Text → Text
  /-- What a part of the log is on standard error. -/
  log : Text → Text
  /-- What becomes of a content that is written to the file at a place. -/
  writing : FileTree.Place → Text → Writing

namespace Platform

/-- A rune on standard error, where an escape stands for a stray byte. -/
def escaped : Rune → Text
  | .scalar c => [.scalar c]
  | .stray b => text "\\udc" ++ Text.hex 2 (Rune.strayByte b)

/-- The lines of help. -/
def usage : Text :=
  text "Usage: enumr [--version] [--help] generate|formats ...\n" ++
  text "  generate [PATH] --type NAMES [--format NAME] [--output PATH] [--marshal-field NAME]\n" ++
  text "           [--zero|--no-zero] [--dry-run] [--verbose]\n" ++
  text "  formats\n"

instance usual : Platform where
  parse? := Invocation.parse?
  help _ := usage
  output? t := if t.isScalar then some t.withoutSequences else none
  message t := t.withoutSequences.flatMap escaped
  log t := t.flatMap escaped
  writing _ _ := .whole

end Platform

end EnumText
