import CovertVault.Formula.Lexeme

namespace CovertVault.Formula

def checked (v : Float) : Except EvalError Float :=
  if v.isFinite then .ok v else .error .overflow

namespace BinOp

/-- How tightly an operator binds. -/
def level : BinOp → Nat
  | .add | .sub => 1
  | .mul | .div => 2

def apply (o : BinOp) (left right : Float) : Except EvalError Float :=
  match o with
  | .add => checked (left + right)
  | .sub => checked (left - right)
  | .mul => checked (left * right)
  | .div => if right == 0.0 then .error .divisionByZero else checked (left / right)

end BinOp

/-- What waits for its right side: an open parenthesis, or an operator. -/
inductive Pending where
  | group
  | op (o : BinOp)
deriving Repr, DecidableEq

/-- Replaces the two topmost numbers by the operator's result. -/
def applyTop (o : BinOp) : List Float → Except EvalError (List Float)
  | right :: left :: rest => (o.apply left right).map (· :: rest)
  | _ => .error .missingOperand

/-- Both stacks, their tops first. -/
structure Machine where
  numbers : List Float
  pending : List Pending

/-- Applies pending operators that satisfy a condition, up to a parenthesis or the first that
does not. -/
def reduceWhile (p : BinOp → Bool) (numbers : List Float) :
    List Pending → Except EvalError Machine
  | .op o :: rest =>
    if p o then do reduceWhile p (← applyTop o numbers) rest else .ok ⟨numbers, .op o :: rest⟩
  | pending => .ok ⟨numbers, pending⟩

/-- Applies all that is pending; a parenthesis among it was never closed. -/
def reduceAll (numbers : List Float) : List Pending → Except EvalError (List Float)
  | [] => .ok numbers
  | .op o :: rest => do reduceAll (← applyTop o numbers) rest
  | .group :: _ => .error (if numbers.length < 2 then .missingOperand else .unbalanced)

namespace Machine

/-- One lexeme. A negated group is minus one times the group: both go on the stacks as they are,
so that an operator pending before them takes the product and not the minus one. -/
def step (m : Machine) : Lexeme → Except EvalError Machine
  | .number t => do return ⟨(← checked (literalValue t)) :: m.numbers, m.pending⟩
  | .negation => .ok ⟨-1.0 :: m.numbers, .op .mul :: m.pending⟩
  | .opening => .ok ⟨m.numbers, .group :: m.pending⟩
  | .closing => do
    let ⟨numbers, pending⟩ ← reduceWhile (fun _ => true) m.numbers m.pending
    match pending with
    | [] => .error .unbalanced
    | _ :: rest => .ok ⟨numbers, rest⟩
  | .op o => do
    let ⟨numbers, pending⟩ ← reduceWhile (fun o' => o.level ≤ o'.level) m.numbers m.pending
    .ok ⟨numbers, .op o :: pending⟩
  | .bad e => .error e

def finish (m : Machine) : Except EvalError Float := do
  match ← reduceAll m.numbers m.pending with
  | [] => .ok 0.0
  | [v] => .ok v
  | _ => .error .danglingOperand

end Machine

/-- The value of an expression; that of an empty one is zero. -/
def evaluate (s : List Char) : Except EvalError Float := do
  ((← (lex s).foldlM Machine.step ⟨[], []⟩)).finish

end CovertVault.Formula
