import EnumText.Text.Rune

/-!
Arguments of the command line.

- `scanArguments` tells options from positional arguments.
- `Invocation.parse?` is what a command line asks for, if it is well formed.
-/

namespace EnumText

/-- An option of the command line. -/
inductive Flag where
  | version
  | help
  | type
  | format
  | output
  | marshalField
  | zero
  | noZero
  | dryRun
  | verbose
deriving DecidableEq, Inhabited

namespace Flag

/-- Whether an option has a value. -/
def takesValue : Flag → Bool
  | .type | .format | .output | .marshalField => true
  | _ => false

/-- The long name of an option. -/
def longName : Flag → Text
  | .version => text "--version"
  | .help => text "--help"
  | .type => text "--type"
  | .format => text "--format"
  | .output => text "--output"
  | .marshalField => text "--marshal-field"
  | .zero => text "--zero"
  | .noZero => text "--no-zero"
  | .dryRun => text "--dry-run"
  | .verbose => text "--verbose"

/-- The letter of an option, if it has one. -/
def letter? : Flag → Option Char
  | .version => some 'v'
  | .type => some 't'
  | .format => some 'f'
  | .output => some 'o'
  | .dryRun => some 'n'
  | _ => none

/-- The options before a command. -/
def general : List Flag := [.version, .help]

/-- The options of the command that generates code. -/
def forGenerate : List Flag :=
  [.type, .format, .output, .marshalField, .zero, .noZero, .dryRun, .verbose, .help]

/-- The options of the command that lists the formats. -/
def forFormats : List Flag := [.help]

end Flag

/-- Options in their order, each with its value, which is empty where it takes none. -/
abbrev Given := List (Flag × Text)

/-- The options that one argument gives, and the one at its end whose value is the next argument, if
there is such a one. -/
structure OptionArgument where
  given : Given
  awaiting : Option Flag
deriving DecidableEq, Inhabited

/-- The options of letters after one dash. A letter whose option takes a value ends them: what
follows it is the value. -/
def letterOptions? (allowed : List Flag) : Text → Option OptionArgument
  | [] => some ⟨[], none⟩
  | c :: rest => do
    let flag ← allowed.find? fun f => f.letter?.any (c = .scalar ·)
    if flag.takesValue then
      return if rest.isEmpty then ⟨[], some flag⟩ else ⟨[(flag, rest)], none⟩
    else
      let more ← letterOptions? allowed rest
      return ⟨(flag, []) :: more.given, more.awaiting⟩

/-- The options of an argument that begins with a dash. -/
def optionArgument? (allowed : List Flag) (argument : Text) : Option OptionArgument :=
  let (name, value) : Text × Option Text :=
    match argument.cut? '=' with
    | some (name, value) => (name, some value)
    | none => (argument, none)
  match allowed.find? (·.longName = name) with
  | some flag =>
    if flag.takesValue then
      match value with
      | some value => some ⟨[(flag, value)], none⟩
      | none => some ⟨[], some flag⟩
    else if value.isSome then none
    else some ⟨[(flag, [])], none⟩
  | none =>
    if argument.startsWith (text "--") then none else letterOptions? allowed (argument.drop 1)

/-- The options and the positional arguments among arguments. Two dashes end the options; so does
the first positional argument, unless both may be mixed. -/
def scanArguments (allowed : List Flag) (mixed : Bool) : List Text → Option (Given × List Text)
  | [] => some ([], [])
  | argument :: rest =>
    if argument = text "--" then some ([], rest)
    else if argument.startsWith (text "-") && 1 < argument.length then do
      let option ← optionArgument? allowed argument
      match option.awaiting with
      | none =>
        let (given, positional) ← scanArguments allowed mixed rest
        return (option.given ++ given, positional)
      | some flag =>
        match rest with
        | [] => none
        | value :: rest =>
          let (given, positional) ← scanArguments allowed mixed rest
          return (option.given ++ (flag, value) :: given, positional)
    else if mixed then do
      let (given, positional) ← scanArguments allowed mixed rest
      return (given, argument :: positional)
    else some ([], argument :: rest)

/-- What is asked of the command that generates code. -/
structure GenerateOptions where
  /-- The directory of the package, or a file in it. -/
  path : Text
  /-- The names of the types, with commas between them. -/
  types : Text
  format : Option Text
  output : Option Text
  marshalField : Option Text
  zero : Option Bool
  dryRun : Bool
  verbose : Bool
deriving DecidableEq, Inhabited

namespace GenerateOptions

/-- The last value of an option. -/
def valueOf? (given : Given) (flag : Flag) : Option Text := given.reverse.lookup flag

/-- Whether the zero value was last asked for or refused. -/
def zeroOf? (given : Given) : Option Bool :=
  match given.reverse.find? fun (flag, _) => flag = .zero ∨ flag = .noZero with
  | some (flag, _) => some (flag = .zero)
  | none => none

/-- The options of the command that generates code. The types are required. -/
def parse? (given : Given) (positional : List Text) : Option GenerateOptions := do
  let types ← valueOf? given .type
  let path ← match positional with
    | [] => some (text ".")
    | [path] => some path
    | _ => none
  return {
    path, types
    format := valueOf? given .format
    output := valueOf? given .output
    marshalField := valueOf? given .marshalField
    zero := zeroOf? given
    dryRun := (valueOf? given .dryRun).isSome
    verbose := (valueOf? given .verbose).isSome }

end GenerateOptions

/-- What a command line asks for. -/
inductive Invocation where
  | version
  | help
  | formats
  | generate (options : GenerateOptions)
deriving DecidableEq, Inhabited

/-- A command, which stands after the general options. -/
inductive Subcommand where
  | generate
  | formats
deriving DecidableEq, Inhabited

namespace Subcommand

/-- The command of a name. -/
def ofName? (name : Text) : Option Subcommand :=
  if name = text "generate" then some .generate
  else if name = text "formats" then some .formats
  else none

/-- What a command with its arguments asks for. -/
def invocation? (c : Subcommand) (arguments : List Text) : Option Invocation :=
  match c with
  | .generate => do
    let (given, positional) ← scanArguments Flag.forGenerate true arguments
    if (given.lookup .help).isSome then return .help
    return .generate (← GenerateOptions.parse? given positional)
  | .formats => do
    let (given, positional) ← scanArguments Flag.forFormats true arguments
    if (given.lookup .help).isSome then return .help
    if positional.isEmpty then return .formats else none

end Subcommand

namespace Invocation

/-- What general options ask for. The first of them decides. -/
def ofGeneral? : Given → Option Invocation
  | [] => none
  | (.version, _) :: _ => some .version
  | _ :: _ => some .help

/-- What a command line asks for. Arguments that stand in the place of a command and do not begin
with one are read for general options again, for two dashes may have ended these too early. -/
def parse? (arguments : List Text) : Option Invocation := do
  let (given, rest) ← scanArguments Flag.general false arguments
  match ofGeneral? given, rest with
  | some invocation, _ => return invocation
  | none, [] => none
  | none, name :: others =>
    match Subcommand.ofName? name with
    | some command => command.invocation? others
    | none =>
      let (given, _) ← scanArguments Flag.general false (name :: others)
      ofGeneral? given

end Invocation

end EnumText
