import CovertVault.Number.Binary64

namespace CovertVault.Remote

/-- What rate limiting needs of clock readings and lengths of time, in seconds. Binary64 seconds are
what runs; other scales compute without rounding. -/
class TimeScale (T : Type) extends Add T, Sub T where
  ofMillis : Int → T
  lt : T → T → Bool
  le : T → T → Bool

namespace TimeScale
variable {T : Type} [TimeScale T]

def zero : T := ofMillis 0

/-- The later or longer of two, the first when they cannot be told apart. -/
def maximum (a b : T) : T := if lt a b then b else a

/-- The earlier or shorter of two, the first when they cannot be told apart. -/
def minimum (a b : T) : T := if lt b a then b else a

end TimeScale

instance : TimeScale Float where
  ofMillis ms := Number.nearest (ms < 0) ms.natAbs 1000
  lt a b := a < b
  le a b := a ≤ b

instance : TimeScale Rat where
  ofMillis ms := ms / 1000
  lt a b := a < b
  le a b := a ≤ b

end CovertVault.Remote
