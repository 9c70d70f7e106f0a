import Restatement.Text.Basic
import Restatement.Text.Digit

/-!
Decimal numerals of any script, with a sign and single low lines between digits.
-/

namespace Restatement.Text

/-- Blanks around a numeral; the separators of information do not count. -/
def isMargin (c : Char) : Bool := isBlank c && !(0x1C ≤ c.toNat && c.toNat ≤ 0x1F)

def trimMargin (t : Text) : Text := ((t.dropWhile isMargin).reverse.dropWhile isMargin).reverse

def digitLimit : Nat := 4300

def readDigits? (value : Nat) (afterDigit : Bool) : Text → Option Nat
  | [] => if afterDigit then some value else none
  | '_' :: rest => if afterDigit then readDigits? value false rest else none
  | c :: rest =>
      match digitValue? c with
      | some d => readDigits? (10 * value + d) true rest
      | none => none

def readMagnitude? (t : Text) : Option Nat :=
  if digitLimit < (t.filter (· != '_')).length then none else readDigits? 0 false t

def readInteger? (t : Text) : Option Int :=
  match trimMargin t with
  | '-' :: rest => (readMagnitude? rest).map fun n => -(n : Int)
  | '+' :: rest => (readMagnitude? rest).map Int.ofNat
  | rest => (readMagnitude? rest).map Int.ofNat

end Restatement.Text
