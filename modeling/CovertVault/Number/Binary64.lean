import CovertVault.Number.Round

namespace CovertVault.Number

/-- The bit in front of the fraction; in a bit pattern, the first one of the exponent field. -/
def leadingBit : Nat := 0x10000000000000

def signBit : Nat := 0x8000000000000000

/-- The value `mantissa · 2 ^ exponent`, or its negative. Zero keeps its sign. -/
structure ExactFloat where
  negative : Bool
  mantissa : Nat
  exponent : Int
deriving Repr, DecidableEq

namespace ExactFloat

/-- The magnitude is `num / den`, and `den` is a power of two. -/
def num (d : ExactFloat) : Nat := d.mantissa * Nat.pow 2 d.exponent.toNat
def den (d : ExactFloat) : Nat := Nat.pow 2 (-d.exponent).toNat

def isWhole (d : ExactFloat) : Bool := d.num % d.den = 0

/-- The fields of a finite number's bit pattern: sign, eleven bits of exponent, fraction. The
least exponent field means a number without the leading bit; the greatest is not finite. -/
def ofFloat? (v : Float) : Option ExactFloat :=
  let bits := v.toBits.toNat
  let field : Nat := bits / leadingBit % 0x800
  let fraction : Nat := bits % leadingBit
  let negative := signBit ≤ bits
  if field = 2047 then none
  else if field = 0 then some ⟨negative, fraction, -1074⟩
  else some ⟨negative, leadingBit + fraction, (field : Int) - 1075⟩

end ExactFloat

/-- The power of two of the last significand bit that a positive ratio keeps: its value has
53 bits, fewer only below the normal range. -/
def lastBit (num den : Nat) : Int :=
  let k : Int := num.log2 - den.log2
  let k := if den * Nat.pow 2 k.toNat ≤ num * Nat.pow 2 (-k).toNat then k else k - 1
  max (k - 52) (-1074)

def infinityBits : Nat := 2047 * leadingBit

/-- Bit pattern of the binary64 nearest to a ratio. A significand that rounds up to a power of
two carries into the exponent field, and from the greatest number on to infinity. -/
def nearestBits (num den : Nat) : Nat :=
  if num = 0 then 0
  else
    let q := lastBit num den
    let m := roundHalfEven (num * Nat.pow 2 (-q).toNat) (den * Nat.pow 2 q.toNat)
    min ((q + 1074).toNat * leadingBit + m) infinityBits

def floatOfBits (negative : Bool) (magnitude : Nat) : Float :=
  Float.ofBits (UInt64.ofNat (if negative then signBit + magnitude else magnitude))

/-- The binary64 nearest to `num / den`, ties to even, infinite beyond the range. -/
def nearest (negative : Bool) (num den : Nat) : Float :=
  floatOfBits negative (nearestBits num den)

/-- The whole part of a number; zero for one that is not finite. -/
def truncate (v : Float) : Int :=
  match ExactFloat.ofFloat? v with
  | some d => if d.negative then -(d.num / d.den : Nat) else (d.num / d.den : Nat)
  | none => 0

inductive RangeError where
  /-- A whole number beyond the range of binary64. -/
  | tooLarge
deriving Repr, DecidableEq

def RangeError.message : RangeError → String
  | .tooLarge => "int too large to convert to float"

/-- The binary64 nearest to a whole number. -/
def ofInt (n : Int) : Except RangeError Float :=
  let v := nearest (n < 0) n.natAbs 1
  if v.isFinite then .ok v else .error .tooLarge

end CovertVault.Number
