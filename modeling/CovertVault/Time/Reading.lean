import CovertVault.Json.Basic
import CovertVault.Time.Stamp

namespace CovertVault.Time
open Number

/-- Microseconds of the part behind the point: a binary64 product, rounded half to even. -/
def microseconds (d : ExactFloat) : Nat :=
  match ExactFloat.ofFloat? (nearest false (d.num % d.den * 1000000) d.den) with
  | some p => roundHalfEven p.num p.den
  | none => 0

/-- Seconds rounded to microseconds and then down to whole seconds. -/
def wholeSeconds (d : ExactFloat) : Int :=
  let whole : Int := d.num / d.den
  let micros := microseconds d
  if d.negative then if micros = 0 then -whole else -whole - 1
  else whole + micros / 1000000

/-- The time stamp of whole seconds that were read. The day before must have one too. -/
def stampOfRead (seconds : Int) : Except StampError String :=
  let dayBefore := dateTime (seconds - secondsPerDay)
  if seconds < -0x8000000000000000 ∨ 0x8000000000000000 < seconds then .error .outOfRange
  else do
    let stamp ← stampOfSeconds seconds
    if dayBefore.year < 1 then throw (.year dayBefore.year)
    return stamp

/-- The time stamp of a number of milliseconds. -/
def stampOfFloat (millis : Float) : Except StampError String :=
  let seconds := millis / 1000.0
  match ExactFloat.ofFloat? seconds with
  | some d => stampOfRead (wholeSeconds d)
  | none => if seconds.isNaN then .error .notANumber else .error .outOfRange

/-- The time stamp that a value gives; empty for values that are neither text nor number. -/
def stampOfJson : Json → Except StampError (List Text.Point)
  | .str s => .ok (Text.points s)
  | .broken s => .ok s
  | .int n =>
    match ofInt n with
    | .ok v => (stampOfFloat v).map Text.points
    | .error _ => .error .tooLarge
  | .decimal d => (stampOfFloat d.toFloat).map Text.points
  | .infinity _ => .error .outOfRange
  | .nan => .error .notANumber
  | _ => .ok []

end CovertVault.Time
