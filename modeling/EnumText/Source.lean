import EnumText.Binding
import EnumText.Names
import EnumText.TypeInfo

/-!
Sources: the declarations of one package, as far as the generator needs them.
-/

namespace EnumText

/-- A type has two fields of one name. -/
structure RepeatedField where
  name : Text
deriving DecidableEq, Inhabited

/-- A rune as it is shown where text has to be Unicode: three replacement characters stand for a
stray byte. -/
def Rune.replaced : Rune → Text
  | .scalar c => [.scalar c]
  | .stray _ => List.replicate 3 (.scalar '\ufffd')

/-- The message for a repeated field. -/
def RepeatedField.message (e : RepeatedField) : Text :=
  text "fields: Value error, duplicate field '" ++ e.name.flatMap Rune.replaced ++ text "'"

/-- A type whose fields have different names. -/
def TypeInfo.check (type : TypeInfo) : Except RepeatedField TypeInfo :=
  match firstRepeated? (type.fields.map (·.name)) with
  | some name => .error ⟨name⟩
  | none => .ok type

/-- The types and the variables that a package declares. Of types with one name the first counts. -/
structure Source where
  package : Text
  types : List TypeInfo
  bindings : List Binding
deriving DecidableEq, Inhabited

namespace Source

/-- A source of types that are given one after the other, each replacing an earlier one of its
name. -/
def ofTypes? (package : Text) (types : List TypeInfo) (bindings : List Binding) :
    Except RepeatedField Source := do
  let types ← types.mapM TypeInfo.check
  return ⟨package, types.reverse, bindings⟩

/-- The type of a name, if the source declares it. -/
def find? (s : Source) (name : Text) : Except RepeatedField (Option TypeInfo) :=
  match s.types.find? (·.name = name) with
  | none => .ok none
  | some type => type.check.map some

end Source

end EnumText
