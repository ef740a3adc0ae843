import CovertVault.Number.Decimal
import CovertVault.Text.Quoted

namespace CovertVault.Formula

inductive EvalError where
  /-- Something announces a number at this position, but none stands there. -/
  | malformedNumber (position : Nat)
  | unexpected (c : Char) (position : Nat)
  | overflow
  | divisionByZero
  | missingOperand
  | unbalanced
  | danglingOperand
deriving Repr, DecidableEq

def EvalError.message : EvalError → String
  | .malformedNumber i => "Malformed number at position " ++ String.ofList (Number.natText i)
  | .unexpected c i =>
    "Unexpected character " ++ Text.quote [c] ++ " at position " ++ String.ofList (Number.natText i)
  | .overflow => "Numeric overflow"
  | .divisionByZero => "Division by zero"
  | .missingOperand => "Malformed expression: missing operand"
  | .unbalanced => "Malformed expression: unbalanced parentheses"
  | .danglingOperand => "Malformed expression: dangling operand"

end CovertVault.Formula
