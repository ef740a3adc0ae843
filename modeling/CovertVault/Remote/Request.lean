import CovertVault.Bytes
import CovertVault.Json.Basic
import CovertVault.Number.Decimal
import CovertVault.Remote.Address
import CovertVault.Remote.Limiter
import CovertVault.Remote.Origin

namespace CovertVault.Remote

inductive Method where
  | get | put | delete
deriving Repr, DecidableEq

/-- A request for a node of a user's tree. -/
structure Request where
  method : Method
  user : String
  /-- Keys on the way to the node; none for the whole tree. -/
  node : List String
  token : Option String
  body : Option Json
deriving Repr

def Request.url (q : Request) : String :=
  "/users/" ++ String.intercalate "/" (q.user :: q.node) ++ ".json"

/-- What keeps a request from being answered. -/
inductive Fault where
  /-- The connection failed or broke off. -/
  | transport (text : String)
  | decoding (text : String)
  | redirects (text : String)
  | invalidUrl (text : String)
  | address (e : AddressError)
  | host (e : HostError)
  /-- The connection was closed before. -/
  | closed
  /-- An answer is of no use as it cannot be said where it came from. -/
  | origin (e : OriginError)
deriving Repr, DecidableEq

def Fault.message : Fault → String
  | .transport text | .decoding text | .redirects text | .invalidUrl text => text
  | .address e => e.message
  | .host e => e.message
  | .closed => "Cannot send a request, as the client has been closed."
  | .origin e => e.message

/-- What comes of a request that is sent. -/
inductive Outcome where
  | response (status : Int) (body : Bytes)
  | fault (f : Fault)
deriving Repr, DecidableEq

/-- The way to the service over one connection: a clock and the sending of requests. -/
structure Link (ω T : Type) extends Clock ω T where
  /-- Milliseconds since the start of 1970, as far as the clock can show them. -/
  millis : ω → Except Number.RangeError Int
  send : Request → ω → Outcome × ω

end CovertVault.Remote
