import EnumText.Setting

/-!
Readers of settings: what a single value means where a truth value or a text is wanted.

- `SettingReader` is any such reader. A truth value and a text mean themselves; of other values a
  reader decides whether they mean something.
- `SettingReader.lax` is the usual one, which also takes words and numbers for truth values.
-/

namespace EnumText

/-- What is wrong with a setting, in the word that its reader has for it. -/
structure SettingFault where
  word : Text
deriving DecidableEq, Inhabited

namespace SettingFault

/-- A number or a text that is no truth value. -/
def notTruth : SettingFault := ⟨text "bool_parsing"⟩

/-- A value of a kind that has no truth values, or a number of more than 64 bits. -/
def notBool : SettingFault := ⟨text "bool_type"⟩

/-- A value that is no text. -/
def notText : SettingFault := ⟨text "string_type"⟩

/-- A text with a stray byte, where a word is wanted. -/
def notUnicode : SettingFault := ⟨text "string_unicode"⟩

/-- All settings together are no table. -/
def notTable : SettingFault := ⟨text "model_type"⟩

end SettingFault

/-- A reader of single settings. -/
class SettingReader where
  /-- The truth value of a setting. -/
  boolOf : Setting → Except SettingFault Bool
  /-- The text of a setting that may be missing. -/
  textOf : Setting → Except SettingFault (Option Text)
  boolOf_bool (b : Bool) : boolOf (.bool b) = .ok b
  textOf_text (t : Text) : textOf (.text t) = .ok (some t)

namespace SettingReader

/-- The words for true, in lower case. -/
def truths : List Text := ["true", "t", "yes", "y", "on", "1"].map text

/-- The words for false, in lower case. -/
def falsehoods : List Text := ["false", "f", "no", "n", "off", "0"].map text

/-- A rune with a capital letter of ASCII in lower case. -/
def lowerAscii : Rune → Rune
  | .scalar c => .scalar c.toLower
  | .stray b => .stray b

/-- Whether a whole number is a signed one of 64 bits. -/
def fitsInWord (n : Int) : Bool := -Int.pow 2 63 ≤ n && n < Int.pow 2 63

/-- The truth value of a setting: itself, one or zero, or a word for it in any case. Another whole
number of 64 bits has no truth value, and a number beyond them is not even of a kind that has. -/
def laxBoolOf : Setting → Except SettingFault Bool
  | .bool b => .ok b
  | .int n =>
    if n = 0 then .ok false
    else if n = 1 then .ok true
    else if fitsInWord n then .error .notTruth
    else .error .notBool
  | .float x =>
    if x == 0.0 then .ok false
    else if x == 1.0 then .ok true
    else if x.abs < 9223372036854775808.0 && x.floor == x then .error .notTruth
    else .error .notBool
  | .text t =>
    let word := t.map lowerAscii
    if truths.contains word then .ok true
    else if falsehoods.contains word then .ok false
    else if t.isScalar then .error .notTruth
    else .error .notUnicode
  | _ => .error .notBool

/-- The text of a setting: itself, or none where there is nothing. -/
def laxTextOf : Setting → Except SettingFault (Option Text)
  | .text t => .ok (some t)
  | .null => .ok none
  | _ => .error .notText

instance lax : SettingReader where
  boolOf := laxBoolOf
  textOf := laxTextOf
  boolOf_bool _ := rfl
  textOf_text _ := rfl

end SettingReader

end EnumText
