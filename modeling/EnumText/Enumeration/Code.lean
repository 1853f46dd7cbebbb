import EnumText.Enumeration

/-!
The generated Go file: a header, and for each enumeration the variables of its instances, if they
are to be declared, and the three methods that write and read its texts.

- `Enumeration.View.code` is the code of one enumeration.
- `codeFile?` is the whole file.
-/

namespace EnumText

/-- Lines, each with its line feed. -/
def unlines (lines : List Text) : Text := lines.flatMap (· ++ text "\n")

namespace Enumeration.View

/-- The declaration of a variable for each instance. -/
def varBlock (v : View) : List Text :=
  [[], text "var ("] ++
    v.members.map (fun m => text "\t" ++ m.paddedName ++ text " = " ++ m.initializer) ++ [text ")"]

/-- The method that writes an instance as a string. -/
def stringMethod (v : View) : List Text :=
  [[], text "// String returns the text form of a " ++ v.typeName ++ text ".",
    text "func (t " ++ v.typeName ++ text ") String() string \x7b", text "\tswitch t \x7b"] ++
    v.members.flatMap (fun m =>
      [text "\tcase " ++ m.name ++ text ":", text "\t\treturn " ++ m.encoding]) ++
    [text "\t\x7d", text "\treturn \"\"", text "\x7d"]

/-- The method that writes an instance as bytes. -/
def marshalMethod (v : View) : List Text :=
  [[], text "// MarshalText encodes a " ++ v.typeName ++ text " as its text form.",
    text "func (t " ++ v.typeName ++ text ") MarshalText() ([]byte, error) \x7b",
    text "\treturn []byte(t.String()), nil", text "\x7d"]

/-- The cases of the method that reads an instance: the key of each as a literal, and the expression
for it. -/
def decodeCases (v : View) : List (Text × Text) :=
  (if v.allowZero then [(text "\"\"", v.typeName ++ text "\x7b\x7d")] else []) ++
    v.members.map fun m => (m.decodeKey, m.name)

/-- The method that reads an instance. -/
def unmarshalMethod (v : View) : List Text :=
  [[], text "// UnmarshalText decodes a " ++ v.typeName ++
      text " from its text form, ignoring case and quotes.",
    text "func (t *" ++ v.typeName ++ text ") UnmarshalText(text []byte) error \x7b",
    text "\tswitch strings.ReplaceAll(strings.ToLower(string(text)), \"\\\"\", \"\") \x7b"] ++
    v.decodeCases.flatMap (fun (key, value) =>
      [text "\tcase " ++ key ++ text ":", text "\t\t*t = " ++ value]) ++
    [text "\tdefault:",
      text "\t\treturn fmt.Errorf(\"unsupported " ++ v.typeName ++ text " value: %q\", text)",
      text "\t\x7d", text "\treturn nil", text "\x7d"]

/-- The lines of the code of an enumeration. -/
def lines (v : View) : List Text :=
  (if v.generateVars then v.varBlock else []) ++ v.stringMethod ++ v.marshalMethod ++
    v.unmarshalMethod

/-- The code of an enumeration. -/
def code (v : View) : Text := unlines v.lines

end Enumeration.View

/-- The lines at the beginning of a generated file. -/
def headerLines (package : Text) : List Text :=
  [text "// Code generated by enumr. DO NOT EDIT.", [], text "package " ++ package, [],
    text "import (", text "\t\"fmt\"", text "\t\"strings\"", text ")"]

/-- The beginning of a generated file. -/
def codeHeader (package : Text) : Text := unlines (headerLines package)

/-- The generated file for enumerations of a package. -/
def codeFile? (package : Text) (enumerations : List Enumeration) : Except EncodingError Text := do
  let views ← enumerations.mapM Enumeration.view?
  return codeHeader package ++ views.flatMap Enumeration.View.code

end EnumText
