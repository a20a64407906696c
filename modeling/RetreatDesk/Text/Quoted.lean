import RetreatDesk.Text.Letter
import RetreatDesk.Text.VisibleTable

/-!
# Texts quoted in messages

* `quoted`: a text between double quotes, with everything that would not show as itself escaped.
-/

namespace RetreatDesk.Text

/-- The digits of a number in base sixteen, in lower case. -/
def hexDigits (n : Nat) : List Char := Nat.toDigits 16 n

/-- Whether a character shows as itself inside quotes. -/
def isVisible (c : Char) : Bool :=
  !inRanges hiddenRanges c.toNat && !inRanges joiningRanges c.toNat

/-- One character of a quoted text. -/
def quotedChar (c : Char) : List Char :=
  match c with
  | '\x00' => ['\\', '0']
  | '\t' => ['\\', 't']
  | '\n' => ['\\', 'n']
  | '\r' => ['\\', 'r']
  | '"' => ['\\', '"']
  | '\\' => ['\\', '\\']
  | c => if isVisible c then [c] else ['\\', 'u', '\x7b'] ++ hexDigits c.toNat ++ ['\x7d']

/-- The text between double quotes, escaped. -/
def quoted (s : String) : String :=
  String.ofList (['"'] ++ s.toList.flatMap quotedChar ++ ['"'])

end RetreatDesk.Text
