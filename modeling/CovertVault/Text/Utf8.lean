import CovertVault.Bytes
import CovertVault.Text.Point

namespace CovertVault.Text

/-- Number of bytes that follow a leading byte, and the range of the first of them. Encoded
surrogates are let through when `surrogates` is set. -/
def utf8Lead (surrogates : Bool) (b : UInt8) : Option (Nat × UInt8 × UInt8) :=
  if b < 0x80 then some (0, 0, 0)
  else if b < 0xC2 then none
  else if b < 0xE0 then some (1, 0x80, 0xBF)
  else if b = 0xE0 then some (2, 0xA0, 0xBF)
  else if b = 0xED then some (2, 0x80, if surrogates then 0xBF else 0x9F)
  else if b < 0xF0 then some (2, 0x80, 0xBF)
  else if b = 0xF0 then some (3, 0x90, 0xBF)
  else if b < 0xF4 then some (3, 0x80, 0xBF)
  else if b = 0xF4 then some (3, 0x80, 0x8F)
  else none

/-- The bits that a leading byte gives to its character. -/
def leadBits (b : UInt8) (following : Nat) : Nat :=
  match following with
  | 0 => b.toNat
  | 1 => b.toNat % 0x20
  | 2 => b.toNat % 0x10
  | _ => b.toNat % 0x08

/-- Reads `n` more continuation bytes, the first of them within bounds. Gives the code point, or
nothing when the sequence breaks off, and what follows. -/
def utf8Tail (code : Nat) : Nat → UInt8 → UInt8 → Bytes → Option Nat × Bytes
  | 0, _, _, r => (some code, r)
  | _ + 1, _, _, [] => (none, [])
  | n + 1, low, high, b :: r =>
    if low ≤ b ∧ b ≤ high then utf8Tail (64 * code + b.toNat % 64) n 0x80 0xBF r
    else (none, b :: r)

theorem length_utf8Tail (code n : Nat) (low high : UInt8) (r : Bytes) :
    (utf8Tail code n low high r).2.length ≤ r.length := by
  induction r generalizing code n low high with
  | nil => cases n <;> simp [utf8Tail]
  | cons b r ih =>
    cases n with
    | zero => simp [utf8Tail]
    | succ n =>
      simp only [utf8Tail]
      split
      · exact Nat.le_succ_of_le (ih ..)
      · simp

/-- One character or one unreadable part, and what follows. -/
def utf8Head (surrogates : Bool) (b : UInt8) (r : Bytes) : Option Nat × Bytes :=
  match utf8Lead surrogates b with
  | none => (none, r)
  | some (n, low, high) => utf8Tail (leadBits b n) n low high r

/-- The code points of a UTF-8 text, with nothing in the place of each unreadable part. -/
def utf8Points (surrogates : Bool) : Bytes → List (Option Point)
  | [] => []
  | b :: r =>
    (utf8Head surrogates b r).1.map Point.ofCode :: utf8Points surrogates (utf8Head surrogates b r).2
  termination_by bs => bs.length
  decreasing_by
    unfold utf8Head
    split
    · simp
    · exact Nat.lt_succ_of_le (length_utf8Tail ..)

/-- The text of UTF-8 bytes, if all of it can be read. -/
def decodeUtf8? (bs : Bytes) : Option (List Char) :=
  (utf8Points false bs).mapM fun p => p.bind Point.char?

/-- The text of UTF-8 bytes with the unreadable parts replaced. -/
def decodeUtf8Replacing (bs : Bytes) : List Char :=
  (utf8Points false bs).map fun p => p.elim replacement Point.charOrReplacement

end CovertVault.Text
