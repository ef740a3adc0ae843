import CovertVault.Text.Quoted

namespace CovertVault

abbrev Bytes := List UInt8

namespace Bytes

def utf8 (s : List Char) : Bytes := s.flatMap String.utf8EncodeChar

def ofString (s : String) : Bytes := utf8 s.toList

/-- Two lower-case hexadecimal digits a byte. -/
def hexText (bs : Bytes) : List Char := bs.flatMap fun b => Text.hex 2 b.toNat

/-- The lowest `width` bytes of a number, most significant first. -/
def ofNat : Nat → Nat → Bytes
  | 0, _ => []
  | width + 1, n => UInt8.ofNat (n / Nat.pow 256 width) :: ofNat width n

/-- The number that bytes write, most significant first. -/
def toNat (bs : Bytes) : Nat := bs.foldl (fun n b => 256 * n + b.toNat) 0

end Bytes

end CovertVault
