import CovertVault.Cipher.Stream
import CovertVault.Digest.Sha256
import CovertVault.Text.Digit

namespace CovertVault.Pin

def pinLength : Nat := 5

/-- Exactly five ASCII digits. -/
def isValid (pin : String) : Bool :=
  pin.toList.length = pinLength && pin.toList.all Text.isAsciiDigit

/-- Hexadecimal SHA-256 of a PIN's UTF-8 bytes. -/
def digest (pin : String) : String :=
  String.ofList (Bytes.hexText (Digest.sha256 (Bytes.ofString pin)))

/-- A stored digest that is not ASCII cannot be compared with. -/
inductive DigestError where
  | notAscii
deriving Repr, DecidableEq

def DigestError.message : DigestError → String
  | .notAscii => "comparing strings with non-ASCII characters is not supported"

/-- Whether a PIN belongs to a stored digest. Nothing matches an empty or missing one. -/
def verify (pin stored : Option String) : Except DigestError Bool :=
  match pin, stored with
  | some p, some s =>
    if p = "" ∨ s = "" then .ok false
    else if s.toList.all (fun c => c.toNat < 128) then .ok (digest p = s)
    else .error .notAscii
  | _, _ => .ok false

def canaryText : Bytes := Bytes.ofString "calc-vault-canary:v1"

/-- A known text under a PIN. It is kept beside the digest to show that a PIN is the one the files
are encrypted with. -/
def canary (pin : String) : Bytes := (Cipher.apply (some canaryText) (some pin)).getD []

/-- Whether a PIN opens a canary. Vaults without one pass. -/
def checkCanary (canary : Option Bytes) (pin : String) : Bool :=
  match canary with
  | none => true
  | some c => Cipher.apply (some c) (some pin) = some canaryText

end CovertVault.Pin
