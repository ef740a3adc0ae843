import CovertVault.Text.MarkTable
import CovertVault.Text.NormalTable
import CovertVault.Text.Range

namespace CovertVault.Text

def isMark (n : Nat) : Bool := covers markRanges n

/-- The class of a mark; zero for anything else. -/
def markClass (n : Nat) : Nat :=
  match markClasses.find? fun (first, last, _) => first ≤ n && n ≤ last with
  | some (_, _, k) => k
  | none => 0

/-- The first of the syllables that are made of lead, vowel and tail, and how many there are for
one lead and for one vowel behind it. -/
def firstSyllable : Nat := 0xac00
def perLead : Nat := 588
def perVowel : Nat := 28
def firstLead : Nat := 0x1100
def firstVowel : Nat := 0x1161

/-- One less than the first tail. -/
def noTail : Nat := 0x11a7

def leads : Nat := 19
def vowels : Nat := 21

def isSyllable (n : Nat) : Bool := firstSyllable ≤ n && n < firstSyllable + leads * perLead

/-- The last character of those that one is made of, and what is before it. -/
def split? (n : Nat) : Option (Nat × Nat) :=
  if isSyllable n then
    let i := n - firstSyllable
    if i % perVowel = 0 then some (firstLead + i / perLead, firstVowel + i % perLead / perVowel)
    else some (n - i % perVowel, noTail + i % perVowel)
  else joinedPairs.findSome? fun (mark, pairs) =>
    (pairs.find? fun (_, whole) => whole = n).map fun (part, _) => (part, mark)

/-- The character that two make together. -/
def join? (part mark : Nat) : Option Nat :=
  if firstLead ≤ part ∧ part < firstLead + leads ∧ firstVowel ≤ mark ∧
      mark < firstVowel + vowels then
    some (firstSyllable + (part - firstLead) * perLead + (mark - firstVowel) * perVowel)
  else if isSyllable part ∧ (part - firstSyllable) % perVowel = 0 ∧ noTail < mark ∧
      mark < noTail + perVowel then
    some (part + (mark - noTail))
  else (joinedPairs.lookup mark).bind (·.lookup part)

/-- Characters are split no more than this often. -/
def maxDepth : Nat := 3

/-- The characters that one is made of. -/
def spelled : Nat → Nat → List Nat
  | 0, n => [n]
  | depth + 1, n =>
    match split? n with
    | some (part, mark) => spelled depth part ++ [mark]
    | none => [n]

/-- Puts a mark behind the marks of lower classes; nothing passes a letter. -/
def insertMark (n : Nat) : List Nat → List Nat
  | [] => [n]
  | m :: r =>
    if 0 < markClass m ∧ markClass m < markClass n then m :: insertMark n r else n :: m :: r

/-- Joins a letter with what follows it. `held` are the marks between that stay, nearest first. A
mark of their class or a lower one is kept from the letter, and so is a letter. -/
def joinAll (letter : Nat) (held : List Nat) : List Nat → List Nat
  | [] => letter :: held.reverse
  | n :: r =>
    let free : Bool := match held with
      | [] => true
      | m :: _ => markClass m < markClass n
    match if free then join? letter n else none with
    | some whole => joinAll whole held r
    | none =>
      if markClass n = 0 then letter :: held.reverse ++ joinAll n [] r
      else joinAll letter (n :: held) r

/-- The normal form of a text without characters that always have another spelling. -/
def normalize (s : List Nat) : List Nat :=
  match (s.flatMap (spelled maxDepth)).foldr insertMark [] with
  | [] => []
  | n :: r => joinAll n [] r

def isNormal (s : List Nat) : Bool := !s.any (covers respelledRanges) && normalize s = s

end CovertVault.Text
