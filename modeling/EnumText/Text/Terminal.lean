import EnumText.Text.Rune

/-!
Control sequences of terminals, such as those that switch colours. What the program prints as text
goes without them.

- `Text.sequenceLength?` tells how far a control sequence reaches after its escape character.
- `Text.withoutSequences` leaves all control sequences out.
-/

namespace EnumText.Text

/-- Whether a rune can stand among the parameters of a control sequence. -/
def isSequenceParameter : Rune → Bool
  | .scalar c => c.isDigit || c == ';' || c == '?'
  | .stray _ => false

/-- Whether a rune ends a control sequence: it is a letter of ASCII. -/
def isSequenceEnd : Rune → Bool
  | .scalar c => c.isAlpha
  | .stray _ => false

/-- The length of the rest of a control sequence, given what follows its escape character: an
opening bracket, parameters and a letter. -/
def sequenceLength? : Text → Option Nat
  | .scalar '[' :: rest =>
    let parameters := rest.takeWhile isSequenceParameter
    if (rest.drop parameters.length).head?.any isSequenceEnd then some (parameters.length + 2)
    else none
  | _ => none

/-- What follows the first `skip` runes of a text, without control sequences. -/
def withoutSequencesAfter : Nat → Text → Text
  | _, [] => []
  | skip + 1, _ :: rest => withoutSequencesAfter skip rest
  | 0, c :: rest =>
    match if c = '\x1b' then sequenceLength? rest else none with
    | some n => withoutSequencesAfter n rest
    | none => c :: withoutSequencesAfter 0 rest

/-- A text without its control sequences. What comes together where one is left out is not looked at
again. -/
def withoutSequences (t : Text) : Text := withoutSequencesAfter 0 t

end EnumText.Text
