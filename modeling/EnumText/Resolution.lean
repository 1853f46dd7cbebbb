import EnumText.Directive
import EnumText.Names
import EnumText.Source

/-!
Resolution: which instances a type has.

Directives in the doc comment of the type come first. Only where there are none, the variables of
the package with composite literals of the type are its instances.

- `Source.scan` collects those variables.
- `Source.resolve` finds the instances of a type.
-/

namespace EnumText

/-- The instances of a type. -/
structure Resolution where
  instances : List Instance
  /-- Whether the instances come from directives, so that nothing declares them yet. -/
  generateVars : Bool
deriving DecidableEq, Inhabited

/-- Why a type has no resolution. -/
inductive ResolutionError where
  | noInstances (typeName : Text)
  | duplicateInstance (typeName instanceName : Text)
deriving DecidableEq, Inhabited

/-- The message of an error. -/
def ResolutionError.message : ResolutionError → Text
  | .noInstances typeName => text "failed to find any instances of " ++ typeName
  | .duplicateInstance typeName name =>
    text "duplicate instance " ++ name ++ text " for type " ++ typeName

namespace Binding

/-- The variables of a declaration that have a composite literal of a type. Values without a name
are passed over. -/
def instancesOf (typeName : Text) (fields : List Field) (b : Binding) : List Instance :=
  (b.names.zip b.values).filterMap fun (name, value) =>
    value.bind fun c =>
      if c.typeName = typeName then some ⟨name, c.fieldValues fields, .scan⟩ else none

end Binding

namespace Source

/-- The variables of a package that have a composite literal of a type. -/
def scan (s : Source) (typeName : Text) (fields : List Field) : List Instance :=
  s.bindings.flatMap (Binding.instancesOf typeName fields)

/-- Refuses instances of one name. -/
def checkNames (typeName : Text) (instances : List Instance) : Except ResolutionError Unit :=
  match firstRepeated? (instances.map (·.name)) with
  | some name => .error (.duplicateInstance typeName name)
  | none => .ok ()

/-- Notes the variables that have the name of an instance for which one will be generated. -/
def noteShadowed (s : Source) (type : TypeInfo) (instances : List Instance) : Noted Unit :=
  ⟨((s.scan type.name type.fields).filter fun v => instances.any (·.name = v.name)).map fun v =>
    .shadowedVariable v.name type.name, ()⟩

/-- The instances of a type of the package. -/
def resolve (s : Source) (type : TypeInfo) : Report ResolutionError Resolution := do
  let directives ← (Directive.readDirectives type.fields type.doc : Noted (List Instance))
  if directives.isEmpty then
    let scanned := s.scan type.name type.fields
    if scanned.isEmpty then throw (.noInstances type.name)
    Report.ofExcept (checkNames type.name scanned)
    Report.note (.foundVariables scanned.length type.name)
    return ⟨scanned, false⟩
  else
    Report.ofExcept (checkNames type.name directives)
    ExceptT.lift (s.noteShadowed type directives)
    Report.note (.foundDirectives directives.length type.name)
    return ⟨directives, true⟩

end Source

end EnumText
