import CovertVault.Text.Digit
import CovertVault.Text.Pieces
import CovertVault.Text.Quoted

namespace CovertVault.Remote.Host
open Text

/-- Whether a text is four runs of digits with points between them. -/
def isNumbered (s : List Char) : Bool :=
  let ps := pieces '.' s
  ps.length = 4 && ps.all fun p => p ≠ [] && p.all isAsciiDigit

/-- A byte in decimal digits, without a superfluous zero in front. -/
def isByte (s : List Char) : Bool :=
  s ≠ [] && s.length ≤ 3 && s.all isAsciiDigit && (s.head? ≠ some '0' || s = ['0'])
    && decimalValue s < 256

/-- Four bytes with points between them. -/
def isFourBytes (s : List Char) : Bool :=
  let ps := pieces '.' s
  ps.length = 4 && ps.all isByte

/-- Up to four hexadecimal digits. -/
def isGroup (s : List Char) : Bool := s ≠ [] && s.length ≤ 4 && s.all fun c => (hexValue? c).isSome

/-- The groups that the parts between colons make. Four bytes at the end make two. -/
def groups? (parts : List (List Char)) : Option (List (List Char)) :=
  match parts.getLast? with
  | some last =>
    if last.contains '.' then
      if isFourBytes last then some (parts.dropLast ++ [['0'], ['0']]) else none
    else some parts
  | none => none

/-- Eight groups, or fewer around one double colon. -/
def isEightGroups (parts : List (List Char)) : Bool :=
  match groups? parts with
  | none => false
  | some ps =>
    let inner := ps.tail.dropLast
    let gaps := (inner.filter (· = [])).length
    let filled := ps.filter (· ≠ [])
    let outerOk :=
      (ps.head? ≠ some [] || inner.head? = some []) &&
        (ps.getLast? ≠ some [] || inner.getLast? = some [])
    3 ≤ parts.length && ps.length ≤ 9 && filled.all isGroup &&
      (gaps = 0 && ps.length = 8 && filled.length = 8
        || gaps = 1 && filled.length ≤ 7 && outerOk)

/-- A numbered host in brackets, with or without a zone behind it. -/
def isBracketed (s : List Char) : Bool :=
  let address := s.takeWhile (· ≠ '%')
  let zoneOk := match s.dropWhile (· ≠ '%') with
    | [] => true
    | _ :: zone => zone ≠ [] && !zone.contains '%'
  zoneOk && isEightGroups (pieces ':' address)

end CovertVault.Remote.Host
