import CovertVault.Keypad.Press
import CovertVault.Pin.Guard
import CovertVault.Remote.Command
import CovertVault.Store.History

namespace CovertVault.Calculator
open Keypad

/-- The calculator screen: the editor, the guard that watches for the PIN, and the two lines shown.
-/
structure Session where
  editor : Editor
  guard : Pin.Guard
  /-- The expression whose result is shown; empty while one is being typed. -/
  expressionLine : List Char
  mainDisplay : List Char
deriving Repr, DecidableEq

inductive Error where
  | key (e : PressError)
  | guard (e : Pin.GuardError)
  | store (e : Store.Error)
deriving Repr, DecidableEq

def Error.message : Error → String
  | .key e => e.message
  | .guard e => e.message
  | .store e => e.message

/-- What a key press reports. -/
inductive Reply where
  /-- The PIN, when a digit has completed it. -/
  | unlocked (pin : Option String)
  | changed (b : Bool)
  | removed (text : Option (List Char))
  | cleared
  /-- The calculation that equals has stored. -/
  | recorded (h : Option HistoryRecord)
deriving Repr, DecidableEq

/-- What the remote copy is told after a key press. -/
def Reply.commands : Reply → List Remote.Command
  | .recorded (some h) => [.backupHistory h]
  | _ => []

namespace Session

/-- A new session, for a stored digest. -/
def ofDigest (digest : Option String) : Session := ⟨.empty, ⟨digest, []⟩, [], ['0']⟩

def withEditor (s : Session) (e : Editor) : Session := { s with editor := e }
def withGuard (s : Session) (g : Pin.Guard) : Session := { s with guard := g }

/-- Ends the attempt that the guard follows. -/
def endAttempt (s : Session) : Session := s.withGuard s.guard.reset

/-- Shows the expression under construction. A result stays shown until the next edit. -/
def refresh (s : Session) : Session :=
  if s.editor.afterEquals then s
  else
    let shown := s.editor.shownText
    { s with expressionLine := [], mainDisplay := if shown = [] then ['0'] else shown }

/-- The screen of a calculator just switched on. -/
def clear (s : Session) : Session :=
  ⟨.empty, s.guard.reset, [], ['0']⟩

/-- Hands digits to the guard, up to one that completes the PIN. That clears the screen. -/
def feed : List Char → Session → Except Error Reply × Session
  | [], s => (.ok (.unlocked none), s.refresh)
  | d :: ds, s =>
    match s.guard.feed d with
    | (.error e, g) => (.error (.guard e), s.withGuard g)
    | (.ok (some pin), g) => (.ok (.unlocked (some pin)), (s.withGuard g).clear)
    | (.ok none, g) => feed ds (s.withGuard g)

/-- A digit that the editor leaves out does not reach the guard. -/
def pressDigit (key : List Char) (s : Session) : Except Error Reply × Session :=
  match s.editor.digit key with
  | .error e => (.error (.key e), s)
  | .ok (acted, e) => (s.withEditor e).feed (if acted then key else [])

def pressDoubleZero (s : Session) : Except Error Reply × Session :=
  let (acted, e) := s.editor.doubleZero
  (s.withEditor e).feed (if acted then ['0', '0'] else [])

/-- Whether a removed text was typed as part of a number. -/
def isNumberPart (removed : List Char) : Bool :=
  removed = ['.'] ∨ removed ≠ [] ∧ removed.all Text.isAnyDigit

def pressBackspace (s : Session) : Except Error Reply × Session :=
  let (removed, e) := s.editor.backspace
  let g := if removed.any isNumberPart then s.guard.dropLast else s.guard.reset
  (.ok (.removed removed), ((s.withEditor e).withGuard g).refresh)

/-- Any key that types no digit and takes none back. The attempt ends even if the key fails. -/
def pressOther (key : Key) (s : Session) : Except Error Reply × Session :=
  let s := s.endAttempt
  match s.editor.press? key with
  | .error e => (.error (.key e), s)
  | .ok (reply, e) =>
    let reply := match reply with
      | .changed b => Reply.changed b
      | .removed t => .removed t
      | .cleared | .evaluated _ => .cleared
    (.ok reply, (s.withEditor e).refresh)

/-- Evaluates and stores the calculation. The result is shown even if it cannot be stored. -/
def pressEquals (now : Time.Present) (s : Session) (store : Store) :
    Except Error Reply × Session × Store :=
  let s := s.endAttempt
  match s.editor.equals with
  | .error e => (.error (.key e), s, store)
  | .ok (none, _) => (.ok (.recorded none), s, store)
  | .ok (some v, e) =>
    let s : Session :=
      { s with editor := e, expressionLine := v.expression, mainDisplay := v.result }
    let expression := String.ofList v.expression
    let result := String.ofList v.result
    match now with
    | .error err => (.error (.store (.time err)), s, store)
    | .ok time =>
      match store.appendHistory expression result (some time) now with
      | .error err => (.error (.store err), s, store)
      | .ok (id, store) => (.ok (.recorded (some ⟨id, expression, result, time⟩)), s, store)

/-- A key press at a time. -/
def press (now : Time.Present) (key : Key) (s : Session) (store : Store) :
    Except Error Reply × Session × Store :=
  let typed (r : Except Error Reply × Session) := (r.1, r.2, store)
  match key with
  | .digit text => typed (s.pressDigit text)
  | .doubleZero => typed s.pressDoubleZero
  | .backspace => typed s.pressBackspace
  | .equals => s.pressEquals now store
  | key => typed (s.pressOther key)

/-- Takes over a digest that was stored since. -/
def refreshSecret (store : Store) (s : Session) : Except Store.Error Unit × Session :=
  match store.pinDigest with
  | .error e => (.error e, s)
  | .ok digest => (.ok (), s.withGuard { s.guard with storedDigest := digest })

/-- Back from the vault or from setting a PIN. -/
def resume (store : Store) (s : Session) : Except Store.Error Unit × Session :=
  s.endAttempt.refreshSecret store

end Session

end CovertVault.Calculator
