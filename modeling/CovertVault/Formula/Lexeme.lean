import CovertVault.Formula.Error
import CovertVault.Formula.Literal

namespace CovertVault.Formula
open Text

inductive BinOp where
  | add | sub | mul | div
deriving Repr, DecidableEq

def BinOp.ofChar? : Char → Option BinOp
  | '+' => some .add
  | '-' => some .sub
  | '*' => some .mul
  | '/' => some .div
  | _ => none

inductive Lexeme where
  /-- A literal, with its minus when that is unary. -/
  | number (text : List Char)
  /-- A unary minus right before a parenthesis. -/
  | negation
  | op (o : BinOp)
  | opening
  | closing
  | bad (e : EvalError)
deriving Repr, DecidableEq

/-- Lexemes of the text from a position on. A minus is unary at the start and right behind an
operator or an opening parenthesis, blanks left aside; `unary` says that this is such a place. -/
def lexFrom (position : Nat) (unary : Bool) : List Char → List Lexeme
  | [] => []
  | c :: r =>
    if c = ' ' then lexFrom (position + 1) unary r
    else if c = '-' ∧ unary ∧ r.head? = some '(' then .negation :: lexFrom (position + 1) true r
    else if isAnyDigit c ∨ c = '.' ∨ c = '-' ∧ unary then
      match h : scanLiteral (c :: r) with
      | none => [.bad (.malformedNumber position)]
      | some (t, rest) =>
        have := length_scanLiteral h
        .number t :: lexFrom (position + t.length) false rest
    else if c = '(' then .opening :: lexFrom (position + 1) true r
    else if c = ')' then .closing :: lexFrom (position + 1) false r
    else match BinOp.ofChar? c with
      | some o => .op o :: lexFrom (position + 1) true r
      | none => [.bad (.unexpected c position)]
  termination_by s => s.length
  decreasing_by all_goals simp only [List.length_cons] at *; omega

/-- The lexemes of an expression. -/
def lex (s : List Char) : List Lexeme := lexFrom 0 true s

end CovertVault.Formula
