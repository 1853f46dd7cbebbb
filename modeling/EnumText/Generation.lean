import EnumText.Enumeration.Code
import EnumText.Resolution

/-!
Generation: from the names of types to the file that gives them text forms. Nothing is generated if
one of the types fails.

- `Source.generate` generates the file for a list of types.
- `Generator` keeps the warnings of the last request.
-/

namespace EnumText

/-- Why nothing is generated. -/
inductive GenerationError where
  /-- No casing has the name, which is given in its display form. -/
  | unknownCasing (shown : Text)
  | typeNotFound (typeName : Text)
  | repeatedField (e : RepeatedField)
  | resolution (e : ResolutionError)
  | missingMarshalField (typeName instanceName field : Text)
  | encoding (e : EncodingError)
deriving DecidableEq, Inhabited

/-- The message of an error. -/
def GenerationError.message : GenerationError → Text
  | .unknownCasing shown => text "unknown casing format " ++ shown
  | .typeNotFound typeName => text "type " ++ typeName ++ text " not found in package"
  | .repeatedField e => e.message
  | .resolution e => e.message
  | .missingMarshalField typeName instanceName field =>
    text "instance " ++ instanceName ++ text " of " ++ typeName ++
      text " is missing marshal field " ++ field
  | .encoding e => e.message

/-- How instances are written as text. -/
structure TextForm where
  casing : Casing
  /-- The field whose value is the text of an instance; an empty name is none. -/
  marshalField : Option Text
  allowZero : Bool
deriving DecidableEq, Inhabited

namespace TextForm

/-- The marshal field, if its name is not empty. -/
def field? (form : TextForm) : Option Text := form.marshalField.filter (· ≠ [])

/-- Refuses the first instance that does not set the marshal field. -/
def checkField (form : TextForm) (typeName : Text) (instances : List Instance) :
    Except GenerationError Unit :=
  match form.field? with
  | none => .ok ()
  | some field =>
    match instances.find? fun i => !i.fields.has field with
    | some i => .error (.missingMarshalField typeName i.name field)
    | none => .ok ()

end TextForm

namespace Source

/-- The enumeration of a type of the package, after all checks. -/
def enumeration (s : Source) (form : TextForm) (typeName : Text) :
    Report GenerationError Enumeration := do
  match ← Report.ofExcept ((s.find? typeName).mapError .repeatedField) with
  | none => throw (.typeNotFound typeName)
  | some type =>
    let resolution ← (s.resolve type).mapError .resolution
    Report.ofExcept (form.checkField typeName resolution.instances)
    let e : Enumeration := {
      typeName := typeName
      instances := resolution.instances
      casing := form.casing
      generateVars := resolution.generateVars
      marshalField := form.field?
      allowZero := form.allowZero
      fields := type.fields }
    Report.ofExcept (e.check.mapError .encoding)
    Report.note (.resolved typeName e.instances.length e.generateVars)
    return e

/-- The enumerations of types of the package. -/
def enumerations (s : Source) (form : TextForm) :
    List Text → Report GenerationError (List Enumeration)
  | [] => return []
  | typeName :: rest => do
    let first ← s.enumeration form typeName
    let others ← s.enumerations form rest
    return first :: others

/-- The generated file for types of the package, if there are any. -/
def generate (s : Source) (form : TextForm) (typeNames : List Text) :
    Report GenerationError (Option Text) := do
  let enumerations ← s.enumerations form typeNames
  if enumerations.isEmpty then return none
  let code ← Report.ofExcept ((codeFile? s.package enumerations).mapError .encoding)
  return some code

end Source

/-- A request to generate code, with the casing still as a name. -/
structure Request where
  typeNames : List Text
  format : Text
  marshalField : Option Text
  allowZero : Bool
deriving DecidableEq, Inhabited

/-- A generator with the warnings of its last request. -/
structure Generator where
  warnings : List Text
deriving DecidableEq, Inhabited

namespace Generator

/-- A generator before its first request. -/
def fresh : Generator := ⟨[]⟩

/-- Answers a request. A request for an unknown casing is refused before it starts, and the earlier
warnings stay. -/
def run (g : Generator) (s : Source) (r : Request) :
    Generator × Except GenerationError (Option Text) :=
  match Casing.parse? r.format with
  | none => (g, .error (.unknownCasing r.format.display))
  | some casing =>
    let report := s.generate ⟨casing, r.marshalField, r.allowZero⟩ r.typeNames
    (⟨Note.warnings report.notes⟩, report.outcome)

end Generator

end EnumText
