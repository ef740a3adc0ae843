import CovertVault.Remote.Request
import CovertVault.Time.Reading

namespace CovertVault.Remote

inductive Error where
  /-- The limiter gave no slot in time. -/
  | limited
  | exhausted
  | unreadable
  | status (code : Int) (body : List Char)
  | malformedHistory
  | failed (f : Fault)
  /-- A time in the answer that cannot be read. -/
  | time (e : Time.StampError)
  | clock (e : Number.RangeError)
deriving Repr, DecidableEq

namespace Error

/-- How much of the body of an answer goes into a message. -/
def shownBody : Nat := 200

def message : Error → String
  | .limited => "Local rate limiter prevented request"
  | .exhausted => "Failed mirror request after retries"
  | .unreadable => "Failed to parse JSON from mirror"
  | .status code body =>
    "HTTP " ++ String.ofList (Number.intText code ++ " from mirror: ".toList ++ body.take shownBody)
  | .malformedHistory => "Malformed calculation_history payload"
  | .failed f => f.message
  | .time e => e.message
  | .clock e => e.message

/-- Failures that callers with nothing at stake pass over: those of the service and of the way to
it. An address, a connection or a clock that cannot be used and a time that cannot be read are not
among them. -/
def ignorable : Error → Bool
  | .failed (.transport _) | .failed (.decoding _) | .failed (.redirects _) => true
  | .failed _ | .time _ | .clock _ => false
  | _ => true

end Error

end CovertVault.Remote
