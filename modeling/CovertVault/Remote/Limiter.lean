import CovertVault.Remote.TimeScale

namespace CovertVault.Remote
open TimeScale

/-- A sliding window: at most `maxCalls` grants lie in any stretch of one window. -/
structure Limiter (T : Type) where
  maxCalls : Nat
  window : T
  /-- Times of the grants that may still count, oldest first. -/
  stamps : List T
deriving Repr, DecidableEq

inductive LimiterError where
  | noCalls
  | noWindow
deriving Repr, DecidableEq

def LimiterError.message : LimiterError → String
  | .noCalls => "max_calls must be > 0"
  | .noWindow => "per_seconds must be > 0"

/-- Why a wait for a slot ended. A `tired` caller could not sleep once more. -/
inductive Acquired where
  | granted
  | refused
  | tired
deriving Repr, DecidableEq

/-- The surroundings of a waiting caller: a clock, and sleeping, which may move it. -/
structure Clock (ω T : Type) where
  now : ω → T
  sleep : T → ω → ω

namespace Limiter
variable {ω T : Type} [TimeScale T]

def make (maxCalls : Int) (window : T) : Except LimiterError (Limiter T) :=
  if maxCalls ≤ 0 then .error .noCalls
  else if le window zero then .error .noWindow
  else .ok ⟨maxCalls.toNat, window, []⟩

/-- Forgets grants that are a window old. -/
def expire (l : Limiter T) (now : T) : Limiter T :=
  { l with stamps := l.stamps.dropWhile fun s => le s (now - l.window) }

/-- Time until a slot frees, zero when one is free. -/
def delay (l : Limiter T) (now : T) : T :=
  if l.stamps.length < l.maxCalls then zero
  else match l.stamps with
    | [] => zero
    | s :: _ => maximum zero (s + l.window - now)

def grant (l : Limiter T) (now : T) : Limiter T := { l with stamps := l.stamps ++ [now] }

/-- Takes a slot if one is free, and says whether it did. -/
def tryAcquire (l : Limiter T) (now : T) : Bool × Limiter T :=
  let l := l.expire now
  if lt zero (l.delay now) then (false, l) else (true, l.grant now)

/-- Waits for a slot in naps of at most one second, giving up when the whole wait would pass the
timeout. `naps` bounds the number of naps, `waited` is the time slept so far. -/
def acquire (c : Clock ω T) (timeout : Option T) (naps : Nat) (waited : T) (l : Limiter T) (w : ω) :
    Acquired × Limiter T × ω :=
  let now := c.now w
  let l := l.expire now
  let delay := l.delay now
  if !lt zero delay then (.granted, l.grant now, w)
  else if timeout.any fun t => lt t (waited + delay) then (.refused, l, w)
  else match naps with
    | 0 => (.tired, l, w)
    | naps + 1 =>
      let nap := minimum delay (ofMillis 1000)
      acquire c timeout naps (waited + nap) l (c.sleep nap w)

def refusedMessage : String := "rate limit exceeded; no slot available"
def tiredMessage : String := "too many sleeps"

end Limiter

end CovertVault.Remote
