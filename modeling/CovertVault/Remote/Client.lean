import CovertVault.Json.Reader
import CovertVault.Remote.Address
import CovertVault.Remote.Command
import CovertVault.Remote.HistoryNode

namespace CovertVault.Remote

/-- A client of the remote service, which keeps one tree per user. -/
structure Client (T : Type) where
  user : String
  /-- Sent along with every request. -/
  token : Option String
  limiter : Limiter T
deriving Repr, DecidableEq

inductive ClientError where
  | noAddress
  | noUser
  | address (e : AddressError)
  | limiter (e : LimiterError)
deriving Repr, DecidableEq

def ClientError.message : ClientError → String
  | .noAddress => "base_url is required"
  | .noUser => "user_id is required"
  | .address e => e.message
  | .limiter e => e.message

/-- An address without slashes at its end. -/
def trimAddress (address : String) : String :=
  String.ofList (address.toList.reverse.dropWhile (· = '/')).reverse

/-- What an outcome settles; nothing when the request is worth another try. -/
def Outcome.verdict? : Outcome → Option (Except Error Json)
  | .fault (.transport _) => none
  | .fault f => some (.error (.failed f))
  | .response status body =>
    if status = 200 then
      if body = [] then some (.ok .null)
      else match Json.ofBody? body with
        | some v => some (.ok v)
        | none => some (.error .unreadable)
    else if [429, 500, 502, 503, 504].contains status then none
    else some (.error (.status status (Text.decodeUtf8Replacing body)))

namespace Client
variable {ω T : Type} [TimeScale T]

def defaultRate : Int := 10

/-- A client that sends at most `maxPerSecond` calls in a second. An empty token is none. Whether
the address is one does not matter when the connection is given. -/
def make (address user : String) (token : Option String) (maxPerSecond : Int) (given : Bool) :
    Except ClientError (Client T) := do
  if address = "" then throw .noAddress
  if user = "" then throw .noUser
  if !given then discard ((Address.ofService (trimAddress address).toList).mapError .address)
  let limiter ← (Limiter.make maxPerSecond (TimeScale.ofMillis 1000)).mapError .limiter
  return ⟨user, token.filter (· ≠ ""), limiter⟩

/-- Pauses behind the tries, in milliseconds; there are as many tries. -/
def pauses : List Int := [500, 1000, 2000, 4000]

/-- Tries a request once for each pause that is left, and sleeps after each failure. -/
def tryAll (link : Link ω T) (q : Request) : List Int → ω → Except Error Json × ω
  | [], w => (.error .exhausted, w)
  | pause :: rest, w =>
    let (outcome, w) := link.send q w
    match outcome.verdict? with
    | some r => (r, w)
    | none => tryAll link q rest (link.sleep (TimeScale.ofMillis pause) w)

/-- How long a call waits for a slot, in milliseconds. -/
def slotTimeout : Int := 5000

/-- Bounds the naps of one such wait. -/
def slotNaps : Nat := 10000000

def request (c : Client T) (method : Method) (node : List String) (body : Option Json) : Request :=
  ⟨method, c.user, node, c.token, body⟩

/-- Has a request answered, once the limiter grants a slot. What it says depends on the time. -/
def ask (link : Link ω T) (method : Method) (node : List String) (body : Int → Option Json)
    (c : Client T) (w : ω) : Except Error Json × Client T × ω :=
  match link.millis w with
  | .error e => (.error (.clock e), c, w)
  | .ok now =>
    match Limiter.acquire link.toClock (some (TimeScale.ofMillis slotTimeout)) slotNaps
        TimeScale.zero c.limiter w with
    | (.granted, l, w) =>
      let (r, w) := tryAll link (c.request method node (body now)) pauses w
      (r, { c with limiter := l }, w)
    | (_, l, w) => (.error .limited, { c with limiter := l }, w)

/-- Carries out a change. -/
def send (link : Link ω T) (k : Command) (c : Client T) (w : ω) :
    Except Error Unit × Client T × ω :=
  let (r, s) := c.ask link k.method k.node k.body w
  (r.map fun _ => (), s)

def fetchHistory (link : Link ω T) (c : Client T) (w : ω) :
    Except Error (List RawRecord) × Client T × ω :=
  let (r, s) := c.ask link .get ["calculation_history"] (fun _ => none) w
  (r.bind readHistory, s)

end Client

end CovertVault.Remote
