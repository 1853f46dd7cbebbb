import EnumText.Path
import EnumText.Text.Display

/-!
Notes: what the program tells about its work while it goes on.

- `Note` lists what can be told, each with its level, its topic and its message.
- `Noted` is a value with the notes on the way to it, and `Report` is the same for work that can
  fail.
-/

namespace EnumText

/-- How serious a message is. The last two are levels that a user can ask for and no note has. -/
inductive Level where
  | debug
  | info
  | warning
  | error
  | critical
deriving DecidableEq, Inhabited

namespace Level

/-- The place of a level among all. -/
def rank : Level → Nat
  | .debug => 1
  | .info => 2
  | .warning => 3
  | .error => 4
  | .critical => 5

/-- The name of a level in messages. -/
def label : Level → Text
  | .debug => text "DEBUG"
  | .info => text "INFO"
  | .warning => text "WARNING"
  | .error => text "ERROR"
  | .critical => text "CRITICAL"

end Level

/-- Something told on the way. -/
inductive Note where
  /-- An argument of a directive has no colon. -/
  | skippedArgument (argument : Text)
  /-- A directive names no instance. -/
  | namelessDirective (content : Text)
  /-- A variable has the name of an instance for which a variable will be generated. -/
  | shadowedVariable (name typeName : Text)
  /-- A source file is about to be read. -/
  | parsing (file : Path)
  /-- A configuration was found. -/
  | configuration (file : Path)
  /-- Directives define the instances of a type. -/
  | foundDirectives (count : Nat) (typeName : Text)
  /-- Variables define the instances of a type. -/
  | foundVariables (count : Nat) (typeName : Text)
  /-- The instances of a type passed all checks. -/
  | resolved (typeName : Text) (count : Nat) (fromDirectives : Bool)
  /-- The generated file was written. -/
  | completed (file : Path)
deriving DecidableEq, Inhabited

namespace Note

/-- The level of a note. -/
def level : Note → Level
  | .skippedArgument _ | .namelessDirective _ | .shadowedVariable .. => .warning
  | .resolved .. => .info
  | _ => .debug

/-- The part of the program that a note comes from. -/
def topic : Note → Text
  | .skippedArgument _ | .namelessDirective _ => text "enumr.core.directives"
  | .shadowedVariable .. | .foundDirectives .. | .foundVariables .. => text "enumr.core.resolver"
  | .parsing _ => text "enumr.golang.package"
  | .configuration _ => text "enumr.config"
  | .resolved .. => text "enumr.generator"
  | .completed _ => text "enumr.cli"

/-- The message of a note. -/
def message : Note → Text
  | .skippedArgument argument =>
    text "skipping directive argument without value: " ++ argument.display
  | .namelessDirective content => text "directive without instance name: " ++ content.display
  | .shadowedVariable name typeName =>
    text "var " ++ name ++ text " is also declared by an enumr directive on " ++ typeName ++
      text "; the generated declaration will conflict"
  | .parsing file => text "Parsing " ++ file.toText
  | .configuration file => text "Loaded configuration from " ++ file.toText
  | .foundDirectives count typeName =>
    text "Resolved " ++ Text.ofNat count ++ text " directive instance(s) for " ++ typeName
  | .foundVariables count typeName =>
    text "Resolved " ++ Text.ofNat count ++ text " var instance(s) for " ++ typeName
  | .resolved typeName count fromDirectives =>
    text "Resolved " ++ typeName ++ text " with " ++ Text.ofNat count ++ text " instance(s)" ++
      (if fromDirectives then text " from directives" else [])
  | .completed file => text "Enum generation completed successfully: " ++ file.toText

/-- A note as a line of a log. -/
def line (n : Note) : Text :=
  n.level.label ++ text " " ++ n.topic ++ text ": " ++ n.message ++ text "\n"

/-- The messages of the warnings among notes. -/
def warnings (notes : List Note) : List Text :=
  (notes.filter (·.level = .warning)).map message

end Note

/-- A value and the notes on the way to it. -/
structure Noted (α : Type) where
  notes : List Note
  value : α

namespace Noted

instance : Monad Noted where
  pure x := ⟨[], x⟩
  bind x f := ⟨x.notes ++ (f x.value).notes, (f x.value).value⟩

/-- Makes one note. -/
def note (n : Note) : Noted Unit := ⟨[n], ()⟩

end Noted

/-- The notes on the way to a value or an error. -/
abbrev Report (ε α : Type) := ExceptT ε Noted α

namespace Report

variable {ε ε' α : Type}

/-- Makes one note. -/
def note (n : Note) : Report ε Unit := ExceptT.lift (Noted.note n)

/-- The notes of a report. -/
def notes (r : Report ε α) : List Note := Noted.notes r.run

/-- What a report comes to. -/
def outcome (r : Report ε α) : Except ε α := Noted.value r.run

/-- A report without notes. -/
def ofExcept (x : Except ε α) : Report ε α := ExceptT.mk (pure x)

/-- A report whose error is told in other terms. -/
def mapError (f : ε → ε') (r : Report ε α) : Report ε' α := ExceptT.adapt f r

end Report

end EnumText
