import CovertVault.Number.Binary64
import CovertVault.Time.Calendar

namespace CovertVault.Time
open Number

inductive StampError where
  /-- A whole number beyond the range of binary64. -/
  | tooLarge
  | notANumber
  /-- The seconds take more than 64 bits. -/
  | outOfRange
  /-- The year takes more than 32 bits. -/
  | yearTooLarge
  | year (n : Int)
deriving Repr, DecidableEq

def StampError.message : StampError → String
  | .tooLarge => RangeError.tooLarge.message
  | .notANumber => "Invalid value NaN (not a number)"
  | .outOfRange => "timestamp out of range for platform time_t"
  | .yearTooLarge => "[Errno 75] Value too large for defined data type"
  | .year n => "year " ++ String.ofList (intText n) ++ " is out of range"

/-- Years are counted from here, in 32 bits. -/
def firstYear : Int := 1900

/-- The time stamp of whole seconds since the start of 1970. A year without one is named as a
number of 32 bits. -/
def stampOfSeconds (seconds : Int) : Except StampError String :=
  let t := dateTime seconds
  if t.year - firstYear < -0x80000000 ∨ 0x80000000 ≤ t.year - firstYear then
    .error .yearTooLarge
  else if t.year < 1 ∨ 9999 < t.year then .error (.year (t.year.bmod 0x100000000))
  else .ok t.text

/-- The present as a time stamp. -/
abbrev Present := Except StampError String

/-- The present by a clock that counts milliseconds. -/
def presentOfMillis (ms : Int) : Present :=
  let seconds := ms / 1000
  if seconds < -0x8000000000000000 ∨ 0x8000000000000000 ≤ seconds then .error .outOfRange
  else stampOfSeconds seconds

end CovertVault.Time
