import CovertVault.Number.Decimal
import CovertVault.Text.DirectionTable
import CovertVault.Text.Point
import CovertVault.Text.Quoted

namespace CovertVault.Text

inductive Direction where
  | left
  | right
  | arabic
  | arabicNumber
  | number
  | mark
  | neutral
deriving Repr, DecidableEq

/-- The direction of a character; none for one that is not known yet. -/
def direction? (n : Nat) : Option Direction :=
  if covers unassignedRanges n then none
  else some <|
    if covers rightRanges n then .right
    else if covers arabicRanges n then .arabic
    else if covers arabicNumberRanges n then .arabicNumber
    else if covers numberRanges n then .number
    else if covers upperMarkRanges n then .mark
    else if covers neutralRanges n then .neutral
    else .left

inductive DirectionError where
  | unknown (label : List Nat) (position : Nat)
  /-- A label with letters from right to left starts with something else than a letter. -/
  | start (label : List Nat)
  | inRight (position : Nat)
  | inLeft (position : Nat)
  | mixedNumbers
  | ending
deriving Repr, DecidableEq

def DirectionError.message : DirectionError → String
  | .unknown label position =>
    "Unknown directionality in label " ++ quotePoints (label.map .ofCode) ++ " at position "
      ++ String.ofList (Number.natText position)
  | .start label =>
    "First codepoint in label " ++ quotePoints (label.map .ofCode)
      ++ " must be directionality L, R or AL"
  | .inRight position =>
    "Invalid direction for codepoint at position " ++ String.ofList (Number.natText position)
      ++ " in a right-to-left label"
  | .inLeft position =>
    "Invalid direction for codepoint at position " ++ String.ofList (Number.natText position)
      ++ " in a left-to-right label"
  | .mixedNumbers => "Can not mix numeral types in a right-to-left label"
  | .ending => "Label ends with illegal codepoint directionality"

namespace Direction

def isRight (d : Direction) : Bool := d = .right || d = .arabic
def isNumber (d : Direction) : Bool := d = .number || d = .arabicNumber

/-- From right to left, no letter may run the other way, and numbers are of one kind. -/
def checkRight (position : Nat) (seen : Option Direction) :
    List Direction → Except DirectionError Unit
  | [] => .ok ()
  | d :: r =>
    if d = .left then .error (.inRight position)
    else if d.isNumber then
      if seen.any (· ≠ d) then .error .mixedNumbers else checkRight (position + 1) (some d) r
    else checkRight (position + 1) seen r

/-- From left to right, no letter or number may run the other way. -/
def checkLeft (position : Nat) : List Direction → Except DirectionError Unit
  | [] => .ok ()
  | d :: r =>
    if d.isRight ∨ d = .arabicNumber then .error (.inLeft position)
    else checkLeft (position + 1) r

/-- What a label ends with, marks left aside. -/
def last? (ds : List Direction) : Option Direction := (ds.reverse.dropWhile (· = .mark)).head?

/-- Whether directions go together, in the label that is named if they do not. -/
def check (label : List Nat) (ds : List Direction) : Except DirectionError Unit :=
  if !ds.any fun d => d.isRight || d = .arabicNumber then .ok ()
  else match ds.head? with
    | some .left => do
      checkLeft 1 ds
      if !(last? ds).any fun d => d = .left || d = .number then throw .ending
    | some .right | some .arabic => do
      checkRight 1 none ds
      if !(last? ds).any fun d => d.isRight || d.isNumber then throw .ending
    | _ => .error (.start label)

end Direction

/-- The directions of the characters of a label. -/
def directions (label : List Nat) : Except DirectionError (List Direction) :=
  label.zipIdx.mapM fun (n, i) =>
    match direction? n with
    | some d => .ok d
    | none => .error (.unknown label (i + 1))

def checkDirection (label : List Nat) : Except DirectionError Unit := do
  Direction.check label (← directions label)

end CovertVault.Text
