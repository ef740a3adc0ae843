import CovertVault.Bytes

namespace CovertVault.Cipher

/-- Byte `i` of a key repeated without end; zero for the empty key. -/
def streamByte (key : Bytes) (i : Nat) : UInt8 := key.getD (i % key.length) 0

def xorStream (key data : Bytes) : Bytes := data.mapIdx fun i b => b ^^^ streamByte key i

/-- Missing data stays missing, and a missing key changes nothing. -/
def apply (data : Option Bytes) (key : Option String) : Option Bytes :=
  match key with
  | none => data
  | some k => data.map (xorStream (Bytes.ofString k))

def encrypt (data : Option Bytes) (pin : Option String) : Option Bytes := apply data pin
def decrypt (data : Option Bytes) (pin : Option String) : Option Bytes := apply data pin

/-- Takes data from one key to another. -/
def rekey (data : Option Bytes) (old new : String) : Option Bytes :=
  apply (apply data (some old)) (some new)

end CovertVault.Cipher
