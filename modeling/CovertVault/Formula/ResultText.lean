import CovertVault.Formula.Evaluation

namespace CovertVault.Formula
open Number

/-- Shown in place of a result that is not finite. -/
def errorText : List Char := ['E', 'r', 'r', 'o', 'r']

/-- Drops zeros at the end, and a point that is then bare. -/
def stripZeros (s : List Char) : List Char :=
  match s.reverse.dropWhile (· = '0') with
  | '.' :: r => r.reverse
  | r => r.reverse

def exactText (d : ExactFloat) : List Char :=
  let whole := d.num / d.den
  if d.isWhole ∧ whole < 1000000000000000 then signText (d.negative && whole ≠ 0) ++ natText whole
  else
    let text := stripZeros (fixedText 10 d)
    if 15 < text.length then scientificText 6 d else text

/-- A result as it is shown: a whole number below `10 ^ 15` plainly, another with up to ten
decimals, and in scientific form what would take more than fifteen characters. -/
def formatNumber (v : Float) : List Char :=
  match ExactFloat.ofFloat? v with
  | none => errorText
  | some d => exactText d

def evaluateAndFormat (s : List Char) : Except EvalError (List Char) :=
  (evaluate s).map formatNumber

end CovertVault.Formula
