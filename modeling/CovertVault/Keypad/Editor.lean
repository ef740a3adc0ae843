import CovertVault.Keypad.Error

namespace CovertVault.Keypad
open Formula

/-- The expression under construction. -/
structure Editor where
  /-- The tokens, newest first. -/
  trail : List Token
  /-- The result of the last equals, which seeds a chained operator or function. -/
  carry : Option (List Char)
  /-- Set by equals, cleared by the next edit. -/
  afterEquals : Bool
deriving Repr, DecidableEq

/-- What equals gives: the expression as it was shown, with its parentheses closed, and the
result. -/
structure Evaluation where
  expression : List Char
  closedExpression : List Char
  result : List Char
deriving Repr, DecidableEq

namespace Editor

def empty : Editor := ⟨[], none, false⟩

def tokens (e : Editor) : List Token := e.trail.reverse
def markedText (e : Editor) : List Char := render Token.marked e.tokens
def shownText (e : Editor) : List Char := render Token.shown e.tokens
def evaluableText (e : Editor) : List Char := render Token.evaluable e.tokens

/-- How many groups tokens open and leave open. -/
def depthOf : List Token → Int
  | [] => 0
  | t :: r => t.depth + depthOf r

def openCount (e : Editor) : Int := depthOf e.trail

/-- The number being typed, or the result while it is shown. -/
def currentOperand (e : Editor) : List Char :=
  if e.afterEquals then e.carry.getD []
  else match e.trail with
    | .operand o :: _ => o.value
    | _ => []

def hasPoint (e : Editor) : Bool := e.currentOperand.contains '.'

/-- Begins a new expression behind a shown result, with the result as its first operand if asked
to. -/
def leaveEquals (seed : Bool) (e : Editor) : Editor :=
  if e.afterEquals then
    match seed, e.carry with
    | true, some (c :: cs) => ⟨[.operand (.literal (c :: cs))], none, false⟩
    | _, _ => empty
  else e

/-- The operand that a function or a sign flip acts on. -/
def target? (e : Editor) : Option Operand :=
  if e.afterEquals then
    match e.carry with
    | some (c :: cs) => some (.literal (c :: cs))
    | _ => none
  else match e.trail with
    | .operand o :: _ => if o.isBareSign then none else some o
    | _ => none

/-- An operand under a function or a closed group right before a new operand is a factor. -/
def impliedProduct : List Token → List Token
  | .operand (.applied fn o c) :: r => .operator .mul :: .operand (.applied fn o c) :: r
  | .closing :: r => .operator .mul :: .closing :: r
  | trail => trail

def withTrail (e : Editor) (trail : List Token) : Editor := { e with trail := trail }

/-- A new operand behind the tokens. -/
def begin (e : Editor) (text : List Char) : Editor :=
  e.withTrail (.operand (.literal text) :: impliedProduct e.trail)

def isLoneZero (text : List Char) : Bool := text = ['0'] ∨ text = ['-', '0']

/-- A digit behind the operand being typed; it takes the place of a lone zero. -/
def putDigit (d : Char) (e : Editor) : Bool × Editor :=
  match e.trail with
  | .operand (.literal t) :: r =>
    if isLoneZero t then
      if d = '0' then (false, e)
      else (true, e.withTrail (.operand (.literal (t.dropLast ++ [d])) :: r))
    else (true, e.withTrail (.operand (.literal (t ++ [d])) :: r))
  | _ => (true, e.begin [d])

def digit (key : List Char) (e : Editor) : Except PressError (Bool × Editor) :=
  match digitKey? key with
  | none => .error (.notDigit key)
  | some d => .ok ((e.leaveEquals false).putDigit d)

/-- Two zeros at once; nothing on a lone zero. -/
def doubleZero (e : Editor) : Bool × Editor :=
  let e := e.leaveEquals false
  match e.trail with
  | .operand (.literal t) :: r =>
    if isLoneZero t then (false, e)
    else (true, e.withTrail (.operand (.literal (t ++ ['0', '0'])) :: r))
  | _ => (true, e.begin ['0', '0'])

/-- A minus where no left side stands is the sign of the next operand. Other operators need a
left side, and one takes the place of another. -/
def putOperator (o : BinOp) (e : Editor) : Bool × Editor :=
  match e.trail with
  | [] | .opening :: _ =>
    if o = .sub then (true, e.withTrail (.operand (.literal ['-']) :: e.trail)) else (false, e)
  | .operator o' :: r => if o' = o then (false, e) else (true, e.withTrail (.operator o :: r))
  | .operand x :: _ =>
    if x.isBareSign then (false, e) else (true, e.withTrail (.operator o :: e.trail))
  | .closing :: _ => (true, e.withTrail (.operator o :: e.trail))

def operator (key : List Char) (e : Editor) : Except PressError (Bool × Editor) :=
  match operatorKey? key with
  | none => .error (.unknownOperator key)
  | some o => .ok ((e.leaveEquals true).putOperator o)

/-- One point in an operand; a zero goes before a leading one. -/
def dot (e : Editor) : Bool × Editor :=
  let e := e.leaveEquals false
  match e.trail with
  | .operand (.literal t) :: r =>
    if t.contains '.' then (false, e)
    else
      let point := if t = ['-'] then ['0', '.'] else ['.']
      (true, e.withTrail (.operand (.literal (t ++ point)) :: r))
  | _ => (true, e.begin ['0', '.'])

/-- The value of a function other than negation. -/
def functionValue (fn : UnaryFn) (v : Float) : Except PressError Float :=
  match fn with
  | .sqrt => if v < 0.0 then .error .invalidInput else .ok v.sqrt
  | .square => .ok (v * v)
  | _ => .ok (v / 100.0)

/-- The text of a function's value at the number that a text writes. -/
def computedText (fn : UnaryFn) (source : List Char) : Except PressError (List Char) := do
  if !isLiteral source then throw .invalidNumber
  let text := formatNumber (← functionValue fn (literalValue source))
  if text = errorText then throw .invalidInput
  return text

/-- Puts an operand in the place of the newest token. -/
def replaceLast (o : Operand) (e : Editor) : Editor := e.withTrail (.operand o :: e.trail.tail)

/-- Puts the current operand under a function; nothing when there is none. -/
def applyFunction (key : FunctionKey) (e : Editor) : Except PressError (Bool × Editor) :=
  match key.fn? with
  | none => .error (.unknownFunction key)
  | some fn =>
    match e.target? with
    | none => .ok (false, e)
    | some o => do
      let computed ← computedText fn o.value
      return (true, (e.leaveEquals true).replaceLast (.applied fn o computed))

/-- A text with its leading minus taken away, or with one put before it. -/
def toggleSign : List Char → List Char
  | '-' :: t => t
  | t => '-' :: t

/-- A typed operand gets or loses its minus; one under a function is wrapped in a negation, which a
second flip takes off. -/
def flipped : Operand → Operand
  | .literal t => .literal (toggleSign t)
  | .applied .negate o _ => o
  | .applied fn o c => .applied .negate (.applied fn o c) (toggleSign c)

def signFlip (e : Editor) : Bool × Editor :=
  match e.target? with
  | none => (false, e)
  | some o => (true, (e.leaveEquals true).replaceLast (flipped o))

/-- Takes away the newest character, operator, parenthesis or function, and says which. A shown
result is left alone. -/
def backspace (e : Editor) : Option (List Char) × Editor :=
  if e.afterEquals then (none, e)
  else match e.trail with
    | [] => (none, e)
    | .operand (.literal t) :: r =>
      let rest := if t.dropLast = [] then r else .operand (.literal t.dropLast) :: r
      (t.getLast?.map ([·]), e.withTrail rest)
    | .operand (.applied fn o _) :: r => (some [fn.symbol], e.withTrail (.operand o :: r))
    | t :: r => (some t.marked, e.withTrail r)

/-- An operand right before a parenthesis is a factor, a bare sign negates the group. -/
def openParen (e : Editor) : Editor :=
  let e := e.leaveEquals false
  match e.trail with
  | .operand x :: _ =>
    if x.isBareSign then e.withTrail (.opening :: e.trail)
    else e.withTrail (.opening :: .operator .mul :: e.trail)
  | .closing :: _ => e.withTrail (.opening :: .operator .mul :: e.trail)
  | _ => e.withTrail (.opening :: e.trail)

/-- Closes a group that is open and ends in a complete operand. -/
def closeParen (e : Editor) : Bool × Editor :=
  if e.afterEquals ∨ e.openCount ≤ 0 then (false, e)
  else match e.trail with
    | .operator _ :: _ | .opening :: _ => (false, e)
    | .operand x :: _ =>
      if x.isBareSign then (false, e) else (true, e.withTrail (.closing :: e.trail))
    | _ => (true, e.withTrail (.closing :: e.trail))

/-- The tokens with every open group closed. -/
def closedTokens (e : Editor) : List Token :=
  e.tokens ++ List.replicate e.openCount.toNat .closing

/-- Evaluates the expression; nothing when there is none. -/
def equals (e : Editor) : Except PressError (Option Evaluation × Editor) :=
  if e.afterEquals ∨ e.trail = [] then .ok (none, e)
  else match evaluate (render Token.evaluable e.closedTokens) with
    | .error err => .error (.eval err)
    | .ok v =>
      let result := formatNumber v
      .ok (some ⟨e.shownText, render Token.shown e.closedTokens, result⟩, ⟨[], some result, true⟩)

end Editor

end CovertVault.Keypad
