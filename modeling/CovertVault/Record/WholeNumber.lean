import CovertVault.Number.Grouped

namespace CovertVault.Record
open Number Text

/-- Drops a point and the zeros behind it. -/
def dropZeroDecimals (s : List Char) : List Char :=
  match s.dropWhile (· ≠ '.') with
  | '.' :: z :: zs => if (z :: zs).all (· = '0') then s.takeWhile (· ≠ '.') else s
  | _ => s

/-- Drops a zero in front, with the zeros and underscores that follow it. Something must be left. -/
def dropLeadingZeros : List Char → List Char
  | '0' :: s =>
    match s.dropWhile fun c => c = '0' || c = '_' with
    | [] => [s.getLast?.getD '0']
    | r => r
  | s => s

/-- A number without superfluous zeros in front. -/
def plainNat? (s : List Char) : Option Nat := do
  let ds ← groupedDigits? isAsciiDigit s
  if digitLimit < ds.length ∨ ds.head? = some '0' ∧ ds ≠ ['0'] then none
  else return decimalValue ds

/-- A number that may have its minus behind leading zeros, and an underscore behind the minus. -/
def zeroLedInt? (s : List Char) : Option Int :=
  match dropLeadingZeros s with
  | '-' :: '_' :: r => (plainNat? r).map (signed true)
  | '-' :: r => (plainNat? r).map (signed true)
  | r => (plainNat? r).map (signed false)

/-- A whole number written in a string. -/
def intOfText? (s : List Char) : Option Int :=
  match trim isBlank s with
  | '+' :: '-' :: _ => none
  | '+' :: r => zeroLedInt? (dropZeroDecimals r)
  | '-' :: r => (plainNat? (dropLeadingZeros (dropZeroDecimals r))).map (signed true)
  | r => zeroLedInt? (dropZeroDecimals r)

end CovertVault.Record
