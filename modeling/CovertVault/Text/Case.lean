import CovertVault.Text.CaseTable
import CovertVault.Text.Range

namespace CovertVault.Text

/-- The image of a code point under the run that holds it, the point itself when none does. -/
def mapRuns (runs : List (Nat × Nat × Nat × Nat)) (n : Nat) : Nat :=
  match runs.find? fun (a, b, step, _) => a ≤ n && n ≤ b && (n - a) % step = 0 with
  | some (a, _, _, image) => image + (n - a)
  | none => n

def isCaseIgnorable (c : Char) : Bool := inRanges caseIgnorableRanges c
def isCased (c : Char) : Bool := inRanges casedRanges c

/-- Whether the next character that matters, going outwards from a sigma, is a cased one. -/
def meetsCased (s : List Char) : Bool :=
  match s.dropWhile isCaseIgnorable with
  | [] => false
  | c :: _ => isCased c

/-- Lower case of one character, given what stands before it (nearest first) and after it. -/
def lowerChar (before : List Char) (c : Char) (after : List Char) : List Char :=
  if c = 'Σ' then [if meetsCased before && !meetsCased after then 'ς' else 'σ']
  else if c = 'İ' then ['i', '\u0307']
  else [Char.ofNat (mapRuns lowerRuns c.toNat)]

def lowerFrom (before : List Char) : List Char → List Char
  | [] => []
  | c :: after => lowerChar before c after ++ lowerFrom (c :: before) after

def lower (s : List Char) : List Char := lowerFrom [] s

def upperChar (c : Char) : List Char :=
  match upperLong.lookup c.toNat with
  | some image => image.map Char.ofNat
  | none => [Char.ofNat (mapRuns upperRuns c.toNat)]

def upper (s : List Char) : List Char := s.flatMap upperChar

end CovertVault.Text
