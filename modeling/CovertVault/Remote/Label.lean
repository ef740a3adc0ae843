import CovertVault.Text.Bootstring
import CovertVault.Text.Direction
import CovertVault.Text.JoiningTable
import CovertVault.Text.NameTable
import CovertVault.Text.Normal
import CovertVault.Text.Script

namespace CovertVault.Remote
open Text

inductive LabelError where
  /-- The whole name is too long, or a label is once it is written in ASCII. -/
  | longName
  | longLabel
  | empty
  /-- A label in ASCII that stands for no other. -/
  | noContent
  | endsInHyphen
  | undecodable
  | notNormal
  | innerHyphens
  | outerHyphen
  | startsWithMark
  /-- A character that may not stand where it stands, or nowhere. -/
  | joiner (code position : Nat) (label : List Nat)
  | context (code position : Nat) (label : List Nat)
  | character (code position : Nat) (label : List Nat)
  | direction (e : DirectionError)
deriving Repr, DecidableEq

namespace LabelError

/-- A code point in at least four hexadecimal digits. -/
def codeText (n : Nat) : String :=
  let width := if n < 0x10000 then 4 else if n < 0x100000 then 5 else 6
  "U+" ++ String.ofList ((hex width n).map Char.toUpper)

def message : LabelError → String
  | .longName => "Domain too long"
  | .longLabel => "Label too long"
  | .empty => "Empty Label"
  | .noContent => "Malformed A-label, no Punycode eligible content found"
  | .endsInHyphen => "A-label must not end with a hyphen"
  | .undecodable => "Invalid A-label"
  | .notNormal => "Label must be in Normalization Form C"
  | .innerHyphens => "Label has disallowed hyphens in 3rd and 4th position"
  | .outerHyphen => "Label must not start or end with a hyphen"
  | .startsWithMark => "Label begins with an illegal combining character"
  | .joiner code position label =>
    "Unknown codepoint adjacent to joiner " ++ codeText code ++ " at position "
      ++ String.ofList (Number.natText position) ++ " in " ++ quotePoints (label.map .ofCode)
  | .context code position label =>
    "Codepoint " ++ codeText code ++ " not allowed at position "
      ++ String.ofList (Number.natText position) ++ " in " ++ quotePoints (label.map .ofCode)
  | .character code position label =>
    "Codepoint " ++ codeText code ++ " at position " ++ String.ofList (Number.natText position)
      ++ " of " ++ quotePoints (label.map .ofCode) ++ " not allowed"
  | .direction e => e.message

end LabelError

namespace Label

/-- Whether a character may stand anywhere in a label. -/
def isFree (n : Nat) : Bool :=
  nameRuns.any fun (first, last, step) => first ≤ n && n ≤ last && (n - first) % step = 0

def isJoiner (n : Nat) : Bool := n = 0x200c || n = 0x200d

/-- The class of the marks that join what stands behind them to the letter before. -/
def joiningClass : Nat := 9

def isJoiningMark (n : Nat) : Bool := markClass n = joiningClass

/-- Whether the nearest letter, with what joining passes over between, joins to this side. -/
def joins (ranges : List (Nat × Nat)) (side : List Nat) : Bool :=
  (side.dropWhile (covers transparentRanges)).head?.any fun n =>
    covers dualJoiningRanges n || covers ranges n

/-- A joiner stands behind a mark that joins; the one that keeps letters apart may also stand
between letters that would join. The nearest character comes first in both directions. -/
def joinerFits (before : List Nat) (n : Nat) (after : List Nat) : Bool :=
  before.head?.any isJoiningMark ||
    n = 0x200c && !before.head?.any (covers unassignedRanges) &&
      joins leftJoiningRanges before && joins rightJoiningRanges after

/-- Whether a character is one of ten digits in a row. -/
def isDigitFrom (first n : Nat) : Bool := first ≤ n && n < first + 10

/-- Characters that depend on their neighbours; none for any other. -/
def fits? (before : List Nat) (n : Nat) (after : List Nat) : Option Bool :=
  let without (first : Nat) : Bool := !(before ++ after).any (isDigitFrom first)
  if n = 0xb7 then some (before.head? = some 'l'.toNat && after.head? = some 'l'.toNat)
  else if n = 0x375 then some (after.head?.any (covers greekRanges))
  else if n = 0x5f3 ∨ n = 0x5f4 then some (before.head?.any (covers hebrewRanges))
  else if n = 0x30fb then some ((before ++ after).any (covers japaneseRanges))
  else if isDigitFrom 0x660 n then some (without 0x6f0)
  else if isDigitFrom 0x6f0 n then some (without 0x660)
  else none

def checkCharacters (label before : List Nat) : List Nat → Except LabelError Unit
  | [] => .ok ()
  | n :: after =>
    let position := before.length + 1
    if isFree n then checkCharacters label (n :: before) after
    else if isJoiner n then
      if joinerFits before n after then checkCharacters label (n :: before) after
      else .error (.joiner n position label)
    else match fits? before n after with
      | some true => checkCharacters label (n :: before) after
      | some false => .error (.context n position label)
      | none => .error (.character n position label)

def hyphen : Nat := '-'.toNat

def check (label : List Nat) : Except LabelError Unit := do
  if label = [] then throw .empty
  if !isNormal label then throw .notNormal
  if (label.drop 2).take 2 = [hyphen, hyphen] then throw .innerHyphens
  if label.head? = some hyphen ∨ label.getLast? = some hyphen then throw .outerHyphen
  if label.head?.any isMark then throw .startsWithMark
  checkCharacters label [] label
  (checkDirection label).mapError .direction

/-- Begins a label in ASCII that stands for another. -/
def mark : List Char := "xn--".toList

/-- A label in ASCII, in lower case. -/
def checkAscii (label : List Char) : Except LabelError Unit :=
  if label.take mark.length = mark then do
    let content := label.drop mark.length
    if content = [] then throw .noContent
    if content.getLast? = some '-' then throw .endsInHyphen
    match Bootstring.decode? content with
    | none => throw .undecodable
    | some label => check label
  else check (label.map Char.toNat)

def maxLength : Nat := 63

def isAscii (s : List Char) : Bool := s.all fun c => c.toNat < 0x80

/-- A label as it is written in ASCII. -/
def toAscii (label : List Char) : Except LabelError (List Char) := do
  let written ← if isAscii label then do
      checkAscii label
      pure label
    else do
      let codes := label.map Char.toNat
      check codes
      pure (mark ++ Bootstring.encode codes)
  if maxLength < written.length then throw .longLabel
  return written

end Label

end CovertVault.Remote
