import CovertVault.Bytes

namespace CovertVault.Base64

/-- The last two digits of an alphabet; the others are common to all. -/
structure Alphabet where
  digit62 : Char
  digit63 : Char
deriving Repr, DecidableEq

def standard : Alphabet := ⟨'+', '/'⟩
def urlSafe : Alphabet := ⟨'-', '_'⟩

/-- The character of a digit below 64. -/
def digit (a : Alphabet) (n : Nat) : Char :=
  if n < 26 then Char.ofNat ('A'.toNat + n)
  else if n < 52 then Char.ofNat ('a'.toNat + (n - 26))
  else if n < 62 then Char.ofNat ('0'.toNat + (n - 52))
  else if n = 62 then a.digit62
  else a.digit63

/-- Three bytes as four characters, fewer bytes with padding in the place of what is missing. -/
def encode (a : Alphabet) : Bytes → List Char
  | [] => []
  | [x] => [digit a (x.toNat / 4), digit a (x.toNat % 4 * 16), '=', '=']
  | [x, y] =>
    [digit a (x.toNat / 4), digit a (x.toNat % 4 * 16 + y.toNat / 16),
      digit a (y.toNat % 16 * 4), '=']
  | x :: y :: z :: r =>
    digit a (x.toNat / 4) :: digit a (x.toNat % 4 * 16 + y.toNat / 16) ::
      digit a (y.toNat % 16 * 4 + z.toNat / 64) :: digit a (z.toNat % 64) :: encode a r

def encodeString (a : Alphabet) (bs : Bytes) : String := String.ofList (encode a bs)

/-- The digit that a byte writes in the standard alphabet. -/
def value? (b : UInt8) : Option Nat :=
  let n := b.toNat
  if 65 ≤ n ∧ n ≤ 90 then some (n - 65)
  else if 97 ≤ n ∧ n ≤ 122 then some (n - 97 + 26)
  else if 48 ≤ n ∧ n ≤ 57 then some (n - 48 + 52)
  else if n = 43 then some 62
  else if n = 47 then some 63
  else none

def padding : UInt8 := 61

/-- Reads on with `place` digits of a group behind it, of which the bits in `left` are still to be
used, and `pads` padding characters since the last digit. -/
def decodeFrom (place left pads : Nat) : Bytes → Option Bytes
  | [] => if place = 0 then some [] else none
  | b :: r =>
    if b = padding then
      if 2 ≤ place ∧ 4 ≤ place + (pads + 1) then some [] else decodeFrom place left (pads + 1) r
    else match value? b with
      | none => decodeFrom place left pads r
      | some v =>
        match place with
        | 0 => decodeFrom 1 v 0 r
        | 1 => (decodeFrom 2 (v % 16) 0 r).map (UInt8.ofNat (left * 4 + v / 16) :: ·)
        | 2 => (decodeFrom 3 (v % 4) 0 r).map (UInt8.ofNat (left * 16 + v / 4) :: ·)
        | _ => (decodeFrom 0 0 0 r).map (UInt8.ofNat (left * 64 + v) :: ·)

/-- Reads the standard alphabet. Only a group left open is an error. -/
def decode? (text : Bytes) : Option Bytes := decodeFrom 0 0 0 text

/-- Brings the digits of the url-safe alphabet into the standard one. -/
def toStandard (b : UInt8) : UInt8 := if b = 45 then 43 else if b = 95 then 47 else b

/-- Reads both alphabets. -/
def decodeUrlSafe? (text : Bytes) : Option Bytes := decode? (text.map toStandard)

/-- Reads a text, which must be ASCII. -/
def decodeAscii? (s : List Char) : Option Bytes :=
  if s.all (fun c => c.toNat < 128) then decode? (Bytes.utf8 s) else none

end CovertVault.Base64
