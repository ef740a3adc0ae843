import CovertVault.Text.HiddenTable
import CovertVault.Text.Point
import CovertVault.Text.Range

namespace CovertVault.Text

def hexDigit (n : Nat) : Char :=
  if n < 10 then Char.ofNat ('0'.toNat + n) else Char.ofNat ('a'.toNat + n - 10)

/-- The value of a hexadecimal digit in either case. -/
def hexValue? (c : Char) : Option Nat :=
  if '0' ≤ c ∧ c ≤ '9' then some (c.toNat - '0'.toNat)
  else if 'a' ≤ c ∧ c ≤ 'f' then some (c.toNat - 'a'.toNat + 10)
  else if 'A' ≤ c ∧ c ≤ 'F' then some (c.toNat - 'A'.toNat + 10)
  else none

/-- The lowest `width` hexadecimal digits of a number, in lower case. -/
def hex : Nat → Nat → List Char
  | 0, _ => []
  | width + 1, n => hexDigit (n / Nat.pow 16 width % 16) :: hex width n

/-- A character by its code: two, four or eight digits, the fewest that hold it. -/
def escapeCode (c : Char) : List Char :=
  if c.toNat < 0x100 then '\\' :: 'x' :: hex 2 c.toNat
  else if c.toNat < 0x10000 then '\\' :: 'u' :: hex 4 c.toNat
  else '\\' :: 'U' :: hex 8 c.toNat

def escapeChar (mark : Char) (c : Char) : List Char :=
  if c = mark || c = '\\' then ['\\', c]
  else if c = '\n' then ['\\', 'n']
  else if c = '\r' then ['\\', 'r']
  else if c = '\t' then ['\\', 't']
  else if inRanges hiddenRanges c then escapeCode c
  else [c]

/-- The apostrophe marks both ends, unless the text holds one and no double quote. -/
def quoteMark (s : List Char) : Char :=
  if s.contains '\'' && !s.contains '"' then '"' else '\''

def quote (s : List Char) : String :=
  String.ofList (quoteMark s :: s.flatMap (escapeChar (quoteMark s)) ++ [quoteMark s])

/-- Half of a pair is spelled out as well. -/
def escapePoint (mark : Char) : Point → List Char
  | .char c => escapeChar mark c
  | .half n => '\\' :: 'u' :: hex 4 n

/-- The quoted form of a text that need not be one of characters. -/
def quotePoints (s : List Point) : String :=
  let mark := quoteMark (s.filterMap Point.char?)
  String.ofList (mark :: s.flatMap (escapePoint mark) ++ [mark])

end CovertVault.Text
