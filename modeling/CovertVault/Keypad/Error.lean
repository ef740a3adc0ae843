import CovertVault.Keypad.Token

namespace CovertVault.Keypad
open Formula

/-- How a function key is named: by a text, or as the function itself. -/
inductive FunctionKey where
  | named (text : List Char)
  | direct (fn : UnaryFn)
deriving Repr, DecidableEq

inductive PressError where
  | notDigit (text : List Char)
  | unknownOperator (text : List Char)
  | unknownFunction (key : FunctionKey)
  /-- The operand is not a complete number. -/
  | invalidNumber
  /-- The function has no finite value there. -/
  | invalidInput
  | eval (e : EvalError)
deriving Repr, DecidableEq

def UnaryFn.label : UnaryFn → String
  | .sqrt => "SQRT"
  | .square => "SQUARE"
  | .percent => "PERCENT"
  | .negate => "NEGATE"

def FunctionKey.quoted : FunctionKey → String
  | .named t => Text.quote t
  | .direct fn => "<UnaryFunction." ++ fn.label ++ ": " ++ Text.quote [fn.symbol] ++ ">"

def PressError.message : PressError → String
  | .notDigit t => "not a digit: " ++ Text.quote t
  | .unknownOperator t => "unknown operator: " ++ Text.quote t
  | .unknownFunction k => "unknown function: " ++ k.quoted
  | .invalidNumber => "Invalid number"
  | .invalidInput => "Invalid input"
  | .eval e => e.message

/-- The digit that a one-character text names. -/
def digitKey? : List Char → Option Char
  | [d] => if Text.isAsciiDigit d then some d else none
  | _ => none

def operatorKey? : List Char → Option BinOp
  | ['+'] => some .add
  | ['-'] | ['−'] => some .sub
  | ['×'] | ['*'] => some .mul
  | ['÷'] | ['/'] => some .div
  | _ => none

/-- The function that a key names. Negation has a key of its own, the sign flip. -/
def FunctionKey.fn? : FunctionKey → Option UnaryFn
  | .direct .negate => none
  | .direct fn => some fn
  | .named t =>
    if t = "sqrt".toList ∨ t = ['√'] then some .sqrt
    else if t = "square".toList ∨ t = ['²'] ∨ t = ['x', '²'] then some .square
    else if t = "percent".toList ∨ t = ['%'] then some .percent
    else none

end CovertVault.Keypad
