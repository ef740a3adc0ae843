import CovertVault.Text.Blank
import CovertVault.Text.Digit

namespace CovertVault.Number
open Text

/-- The most digits that a whole number is read from. -/
def digitLimit : Nat := 4300

/-- Digits with single underscores between them; each underscore has a digit on both sides. -/
def groupedDigits? (isDigit : Char → Bool) : List Char → Option (List Char)
  | [] => none
  | [c] => if isDigit c then some [c] else none
  | c :: '_' :: r => if isDigit c then (groupedDigits? isDigit r).map (c :: ·) else none
  | c :: r => if isDigit c then (groupedDigits? isDigit r).map (c :: ·) else none

/-- Whether a minus stands in front, and what follows a sign. -/
def splitSign : List Char → Bool × List Char
  | '+' :: r => (false, r)
  | '-' :: r => (true, r)
  | r => (false, r)

def signed (negative : Bool) (n : Nat) : Int := if negative then -n else n

/-- A whole number in the decimal digits of any script, with blanks around it. -/
def looseInt? (s : List Char) : Option Int := do
  let (negative, r) := splitSign (trim isBlank s)
  let ds ← groupedDigits? isDecimal r
  if digitLimit < ds.length then none else return signed negative (decimalValue ds)

end CovertVault.Number
