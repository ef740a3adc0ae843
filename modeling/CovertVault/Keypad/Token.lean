import CovertVault.Formula.ResultText

namespace CovertVault.Keypad
open Formula

inductive UnaryFn where
  | sqrt | square | percent
  /-- Sign flip on top of an operand under a function. -/
  | negate
deriving Repr, DecidableEq

def UnaryFn.symbol : UnaryFn → Char
  | .sqrt => '√'
  | .square => '²'
  | .percent => '%'
  | .negate => '±'

/-- A number as typed, perhaps a bare sign or ending in a point, or one that a function has
replaced: `source` is kept to be shown, `computed` is the value from then on. -/
inductive Operand where
  | literal (text : List Char)
  | applied (fn : UnaryFn) (source : Operand) (computed : List Char)
deriving Repr, DecidableEq

/-- A part of the expression under construction. -/
inductive Token where
  | operand (o : Operand)
  | operator (o : BinOp)
  | opening
  | closing
deriving Repr, DecidableEq

namespace Operand

/-- The text that counts: the typed one, or the computed one. -/
def value : Operand → List Char
  | .literal t => t
  | .applied _ _ computed => computed

/-- With each computed value behind an arrow. -/
def marked : Operand → List Char
  | .literal t => t
  | .applied .sqrt o c => '√' :: o.marked ++ '→' :: c
  | .applied .negate o c => '-' :: o.marked ++ '→' :: c
  | .applied fn o c => o.marked ++ fn.symbol :: '→' :: c

/-- Without computed values. A second minus gets parentheses. -/
def shown : Operand → List Char
  | .literal t => t
  | .applied .sqrt o _ => '√' :: o.shown
  | .applied .negate o _ =>
    if o.shown.head? = some '-' then '-' :: '(' :: o.shown ++ [')'] else '-' :: o.shown
  | .applied fn o _ => o.shown ++ [fn.symbol]

/-- The minus of a number that has no digits yet. -/
def isBareSign : Operand → Bool
  | .literal t => t = ['-']
  | .applied .. => false

end Operand

def opSymbol : BinOp → Char
  | .add => '+'
  | .sub => '-'
  | .mul => '×'
  | .div => '÷'

def opAscii : BinOp → Char
  | .add => '+'
  | .sub => '-'
  | .mul => '*'
  | .div => '/'

namespace Token

def marked : Token → List Char
  | .operand o => o.marked
  | .operator o => [opSymbol o]
  | .opening => ['(']
  | .closing => [')']

def shown : Token → List Char
  | .operand o => o.shown
  | t => t.marked

def evaluable : Token → List Char
  | .operand o => o.value
  | .operator o => [opAscii o]
  | t => t.marked

/-- What the token adds to the number of open parentheses. -/
def depth : Token → Int
  | .opening => 1
  | .closing => -1
  | _ => 0

end Token

/-- Tokens one after another, each written the same way. -/
def render (write : Token → List Char) (tokens : List Token) : List Char := tokens.flatMap write

end CovertVault.Keypad
