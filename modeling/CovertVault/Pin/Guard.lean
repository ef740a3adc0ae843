import CovertVault.Pin.Basic

namespace CovertVault.Pin

/-- Watches typed digits for the PIN. Five digits in a row are one attempt; a miss leaves no trace
but an empty buffer. -/
structure Guard where
  storedDigest : Option String
  /-- Digits of the attempt under way, oldest first. -/
  buffer : List Char
deriving Repr, DecidableEq

inductive GuardError where
  | notDigit (text : List Char)
  | digest (e : DigestError)
deriving Repr, DecidableEq

def GuardError.message : GuardError → String
  | .notDigit t => "not a digit: " ++ Text.quote t
  | .digest e => e.message

namespace Guard

def pending (g : Guard) : Nat := g.buffer.length

def reset (g : Guard) : Guard := { g with buffer := [] }

/-- Takes back the last digit. -/
def dropLast (g : Guard) : Guard := { g with buffer := g.buffer.dropLast }

/-- One more digit; the PIN when it completes one that matches the stored digest. A complete
attempt empties the buffer whatever comes of it. -/
def feed (g : Guard) (d : Char) : Except GuardError (Option String) × Guard :=
  let attempt := g.buffer ++ [d]
  if attempt.length < pinLength then (.ok none, { g with buffer := attempt })
  else
    let pin := String.ofList attempt
    match verify (some pin) g.storedDigest with
    | .error e => (.error (.digest e), g.reset)
    | .ok b => (.ok (if b then some pin else none), g.reset)

/-- A digit given as a text. -/
def onDigit (g : Guard) (key : List Char) : Except GuardError (Option String) × Guard :=
  match key with
  | [d] => if Text.isAsciiDigit d then g.feed d else (.error (.notDigit key), g)
  | _ => (.error (.notDigit key), g)

end Guard

end CovertVault.Pin
