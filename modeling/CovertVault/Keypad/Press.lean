import CovertVault.Keypad.Editor

namespace CovertVault.Keypad

inductive Key where
  | digit (text : List Char)
  | doubleZero
  | operator (text : List Char)
  | dot
  | function (key : FunctionKey)
  | signFlip
  | backspace
  | openParen
  | closeParen
  | clear
  | equals
deriving Repr, DecidableEq

/-- What a key press reports. -/
inductive Reply where
  /-- Whether anything changed. -/
  | changed (b : Bool)
  | removed (text : Option (List Char))
  | cleared
  | evaluated (e : Option Evaluation)
deriving Repr, DecidableEq

namespace Editor

/-- The report of a key press and the editor after it. -/
def press? (e : Editor) : Key → Except PressError (Reply × Editor)
  | .digit k => (e.digit k).map fun (b, e) => (.changed b, e)
  | .doubleZero => let (b, e) := e.doubleZero; .ok (.changed b, e)
  | .operator k => (e.operator k).map fun (b, e) => (.changed b, e)
  | .dot => let (b, e) := e.dot; .ok (.changed b, e)
  | .function k => (e.applyFunction k).map fun (b, e) => (.changed b, e)
  | .signFlip => let (b, e) := e.signFlip; .ok (.changed b, e)
  | .backspace => let (t, e) := e.backspace; .ok (.removed t, e)
  | .openParen => .ok (.changed true, e.openParen)
  | .closeParen => let (b, e) := e.closeParen; .ok (.changed b, e)
  | .clear => .ok (.cleared, empty)
  | .equals => e.equals.map fun (v, e) => (.evaluated v, e)

/-- A key press as an answer together with the editor left behind: the old one after a failure. -/
def press (e : Editor) (k : Key) : Except PressError Reply × Editor :=
  match e.press? k with
  | .ok (r, e') => (.ok r, e')
  | .error err => (.error err, e)

/-- The editor after a sequence of key presses on an empty one. -/
def run (keys : List Key) : Editor := keys.foldl (fun e k => (e.press k).2) empty

end Editor

end CovertVault.Keypad
