namespace CovertVault.Text

/-- A code point of a text from outside. -/
inductive Point where
  | char (c : Char)
  /-- Half of a surrogate pair that stands alone. -/
  | half (code : Nat)
deriving Repr, DecidableEq

/-- Stands for what cannot be read. -/
def replacement : Char := '\uFFFD'

namespace Point

def code : Point → Nat
  | .char c => c.toNat
  | .half n => n

def ofCode (n : Nat) : Point := if h : n.isValidChar then .char (Char.ofNatAux n h) else .half n

def char? : Point → Option Char
  | .char c => some c
  | .half _ => none

def charOrReplacement : Point → Char
  | .char c => c
  | .half _ => replacement

end Point

def points (s : String) : List Point := s.toList.map .char

/-- The text that points make, unless one of them is half of a pair. -/
def ofPoints? (s : List Point) : Option String := (s.mapM Point.char?).map String.ofList

/-- Texts in the order of their code points. -/
def pointsLe (a b : List Point) : Bool :=
  !(b.map Point.code).lex (a.map Point.code) fun m n => m < n

end CovertVault.Text
