import CovertVault.Number.Decimal
import CovertVault.Text.Point
import CovertVault.Text.Quoted

namespace CovertVault.Text

inductive Charset where
  | ascii
  | utf8
deriving Repr, DecidableEq

namespace Charset

def name : Charset → String
  | .ascii => "ascii"
  | .utf8 => "utf-8"

/-- Every character can be encoded in UTF-8, half of a pair in nothing. -/
def holds : Charset → Point → Bool
  | .ascii, p => p.code < 128
  | .utf8, .char _ => true
  | .utf8, .half _ => false

def lack : Charset → String
  | .ascii => "ordinal not in range(128)"
  | .utf8 => "surrogates not allowed"

end Charset

/-- Points that a charset does not hold, from a position on. -/
structure Unencodable where
  charset : Charset
  bad : List Point
  start : Nat
deriving Repr, DecidableEq

/-- A point by its code. -/
def Point.escape : Point → List Char
  | .char c => escapeCode c
  | .half n => '\\' :: 'u' :: hex 4 n

def Unencodable.message (e : Unencodable) : String :=
  let number (n : Nat) := String.ofList (Number.natText n)
  let place := match e.bad with
    | [p] => "character '" ++ String.ofList p.escape ++ "' in position " ++ number e.start
    | _ => "characters in position " ++ number e.start ++ "-" ++ number (e.start + e.bad.length - 1)
  "'" ++ e.charset.name ++ "' codec can't encode " ++ place ++ ": " ++ e.charset.lack

/-- The first stretch of a text that a charset does not hold. -/
def Charset.unencodable? (c : Charset) (s : List Point) : Option Unencodable :=
  let r := s.dropWhile c.holds
  if r = [] then none else some ⟨c, r.takeWhile fun p => !c.holds p, s.length - r.length⟩

/-- The text of points that can be encoded. -/
def encodable (s : List Point) : Except Unencodable String :=
  match Charset.utf8.unencodable? s with
  | some e => .error e
  | none => .ok (String.ofList (s.map Point.charOrReplacement))

end CovertVault.Text
