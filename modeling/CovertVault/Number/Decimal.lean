import CovertVault.Number.Binary64

namespace CovertVault.Number

/-- The value `digits · 10 ^ exponent`, or its negative. -/
structure Decimal where
  negative : Bool
  digits : Nat
  exponent : Int
deriving Repr, DecidableEq

/-- The nearest binary64. Exponents so far out that the digits cannot matter are settled first:
beyond `10 ^ 400` all is infinite, below `10 ^ -330` all is zero. -/
def Decimal.toFloat (d : Decimal) : Float :=
  if d.digits = 0 then floatOfBits d.negative 0
  else if 400 < d.exponent then floatOfBits d.negative infinityBits
  else if d.digits.log2 + 991 ≤ 3 * -d.exponent then floatOfBits d.negative 0
  else nearest d.negative (d.digits * Nat.pow 10 d.exponent.toNat)
    (Nat.pow 10 (-d.exponent).toNat)

def natText (n : Nat) : List Char := Nat.toDigits 10 n

def intText (n : Int) : List Char :=
  if n < 0 then '-' :: natText n.natAbs else natText n.natAbs

/-- Decimal digits, with zeros in front up to a width. -/
def paddedText (width n : Nat) : List Char :=
  let ds := natText n
  List.replicate (width - ds.length) '0' ++ ds

def signText (negative : Bool) : List Char := if negative then ['-'] else []

/-- A number of hundredths, thousandths, … written with a point. -/
def pointText (places n : Nat) : List Char :=
  natText (n / Nat.pow 10 places) ++ '.' :: paddedText places (n % Nat.pow 10 places)

/-- The value rounded to a number of decimals, all of them written. -/
def fixedText (places : Nat) (d : ExactFloat) : List Char :=
  signText d.negative ++ pointText places (roundHalfEven (d.num * Nat.pow 10 places) d.den)

/-- The power of ten of the leading digit of a value that is at least one. -/
def ExactFloat.magnitude (d : ExactFloat) : Nat := (natText (d.num / d.den)).length - 1

/-- Significand in units of its last place and power of ten, for a value that is at least one
and `places + 1` digits; rounding may carry into a new leading digit. -/
def scientificParts (places : Nat) (d : ExactFloat) : Nat × Nat :=
  let e := d.magnitude
  let m := roundHalfEven (d.num * Nat.pow 10 places) (d.den * Nat.pow 10 e)
  if m = Nat.pow 10 (places + 1) then (Nat.pow 10 places, e + 1) else (m, e)

/-- A value that is at least one as one digit, a number of decimals and a power of ten. -/
def scientificText (places : Nat) (d : ExactFloat) : List Char :=
  let (m, e) := scientificParts places d
  signText d.negative ++ pointText places m ++ 'E' :: '+' :: paddedText 2 e

end CovertVault.Number
