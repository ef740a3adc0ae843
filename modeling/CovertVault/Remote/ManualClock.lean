import CovertVault.Remote.Limiter

namespace CovertVault.Remote

/-- A clock that moves when told to: by the slept time, or not at all while it is frozen. -/
structure ManualClock (T : Type) where
  reading : T
  frozen : Bool
  /-- Lengths of the naps taken, newest first. -/
  naps : List T
deriving Repr, DecidableEq

namespace ManualClock
variable {T : Type} [TimeScale T]

def advance (span : T) (c : ManualClock T) : ManualClock T := { c with reading := c.reading + span }

def sleep (seconds : T) (c : ManualClock T) : ManualClock T :=
  let c := if c.frozen then c else c.advance seconds
  { c with naps := seconds :: c.naps }

def clock : Clock (ManualClock T) T := ⟨reading, sleep⟩

end ManualClock

end CovertVault.Remote
