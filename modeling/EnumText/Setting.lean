import EnumText.Decimal.Shortest
import EnumText.Setting.Moment
import EnumText.Text.Display

/-!
Settings: the values that a configuration holds, before their meaning is known.
-/

namespace EnumText

/-- A value in a configuration. The entries of a table have different keys. -/
inductive Setting where
  | null
  | bool (b : Bool)
  | int (n : Int)
  | float (x : Float)
  | text (t : Text)
  | moment (m : Moment)
  | list (items : List Setting)
  | table (entries : List (Text × Setting))
deriving Inhabited

namespace Setting

/-- Whether a value stands for having none: nothing, false, zero, and empty texts, lists and
tables. -/
def isEmpty : Setting → Bool
  | .null => true
  | .bool b => !b
  | .int n => n == 0
  | .float x => x == 0.0
  | .text t => t.isEmpty
  | .moment _ => false
  | .list items => items.isEmpty
  | .table entries => entries.isEmpty

/-- Whether a value is a given text. -/
def isText (t : Text) : Setting → Bool
  | .text s => s == t
  | _ => false

/-- The greatest number of decimal digits of an integer that is read or shown. -/
def maxDigits : Nat := 4300

/-- The display form of a plain value; lists and tables have none, nor have integers of too many
digits. -/
def display? : Setting → Option Text
  | .null => some (EnumText.text "None")
  | .bool true => some (EnumText.text "True")
  | .bool false => some (EnumText.text "False")
  | .int n => if n.natAbs < Nat.pow 10 maxDigits then some (Text.ofInt n) else none
  | .float x => some (Text.ofFloat x)
  | .text t => some t.display
  | .moment m => some m.display
  | .list _ | .table _ => none

end Setting

end EnumText
