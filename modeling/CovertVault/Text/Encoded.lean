import CovertVault.Text.Utf8

namespace CovertVault.Text

/-- Groups of bytes as numbers, the most significant byte first unless `little` is set. None when
bytes are left over. -/
def words16? (little : Bool) : Bytes → Option (List Nat)
  | [] => some []
  | a :: b :: r =>
    (words16? little r).map ((if little then Bytes.toNat [b, a] else Bytes.toNat [a, b]) :: ·)
  | _ => none

def words32? (little : Bool) : Bytes → Option (List Nat)
  | [] => some []
  | a :: b :: c :: d :: r =>
    (words32? little r).map
      ((if little then Bytes.toNat [d, c, b, a] else Bytes.toNat [a, b, c, d]) :: ·)
  | _ => none

def isHighSurrogate (n : Nat) : Bool := 0xD800 ≤ n && n < 0xDC00
def isLowSurrogate (n : Nat) : Bool := 0xDC00 ≤ n && n < 0xE000

/-- The code point that a pair of surrogates stands for. -/
def joinSurrogates (high low : Nat) : Nat := 0x10000 + (high - 0xD800) * 0x400 + (low - 0xDC00)

/-- Code points of 16-bit units; lone surrogates stay. -/
def utf16Codes : List Nat → List Nat
  | [] => []
  | [a] => [a]
  | a :: b :: r =>
    if isHighSurrogate a && isLowSurrogate b then joinSurrogates a b :: utf16Codes r
    else a :: utf16Codes (b :: r)

def decodeUtf16? (little : Bool) (bs : Bytes) : Option (List Point) :=
  (words16? little bs).map fun ws => (utf16Codes ws).map Point.ofCode

def decodeUtf32? (little : Bool) (bs : Bytes) : Option (List Point) := do
  let ws ← words32? little bs
  if ws.all (· < 0x110000) then some (ws.map Point.ofCode) else none

/-- Surrogates in encoded form are let through, each by itself. -/
def decodeLoneUtf8? (bs : Bytes) : Option (List Point) :=
  (utf8Points true bs).mapM id

/-- The text of bytes in the encoding that they reveal; UTF-8 when nothing speaks against it. -/
def decodeRevealed? : Bytes → Option (List Point)
  | 0x00 :: 0x00 :: 0xFE :: 0xFF :: r => decodeUtf32? false r
  | 0xFF :: 0xFE :: 0x00 :: 0x00 :: r => decodeUtf32? true r
  | 0xFE :: 0xFF :: r => decodeUtf16? false r
  | 0xFF :: 0xFE :: r => decodeUtf16? true r
  | 0xEF :: 0xBB :: 0xBF :: r => decodeLoneUtf8? r
  | a :: b :: c :: d :: r =>
    let bs := a :: b :: c :: d :: r
    if a = 0 then if b = 0 then decodeUtf32? false bs else decodeUtf16? false bs
    else if b = 0 then if c = 0 ∧ d = 0 then decodeUtf32? true bs else decodeUtf16? true bs
    else decodeLoneUtf8? bs
  | [a, b] =>
    if a = 0 then decodeUtf16? false [a, b]
    else if b = 0 then decodeUtf16? true [a, b]
    else decodeLoneUtf8? [a, b]
  | bs => decodeLoneUtf8? bs

end CovertVault.Text
