import CovertVault.Number.Decimal
import CovertVault.Pin.Basic
import CovertVault.Store.Basic
import CovertVault.Text.Unencodable

namespace CovertVault.Vault

/-- A new PIN that is not taken. -/
inductive PinError where
  | malformed
  | unconfirmed
  | alreadySet
  | noCurrent
  | unchanged
deriving Repr, DecidableEq

def PinError.message : PinError → String
  | .malformed => "PIN must be exactly 5 digits"
  | .unconfirmed => "PINs do not match"
  | .alreadySet => "A PIN is already set"
  | .noCurrent => "Please enter your current PIN"
  | .unchanged => "New PIN must be different from current PIN"

/-- A PIN that does not belong to the vault: at its door, by the digest, or by the canary. -/
inductive Mismatch where
  | door
  | digest
  | canary
deriving Repr, DecidableEq

def Mismatch.message : Mismatch → String
  | .door => "PIN does not match"
  | .digest => "Current PIN is incorrect"
  | .canary => "Current PIN does not decrypt the vault"

inductive Error where
  | store (e : Store.Error)
  | digest (e : Pin.DigestError)
  | pin (e : PinError)
  | mismatch (e : Mismatch)
  | unencodable (e : Text.Unencodable)
  | vanished (id : Int)
  | missing (id : Int)
  | unreadable (path : String)
  | unwritable (path : String)
  | nulInPath
deriving Repr, DecidableEq

def Error.message : Error → String
  | .store e => e.message
  | .digest e => e.message
  | .pin e => e.message
  | .mismatch e => e.message
  | .unencodable e => e.message
  | .vanished id => "Vault file " ++ String.ofList (Number.intText id) ++ " vanished after upload"
  | .missing id => "No vault file with id " ++ String.ofList (Number.intText id)
  | .unreadable path => "Failed to read " ++ path
  | .unwritable path => "Failed to write " ++ path
  | .nulInPath => "embedded null byte"

/-- Whether the database was looked into before. -/
def Error.isInside : Error → Bool
  | .store e => e.isInside
  | .pin .malformed | .pin .unconfirmed | .pin .noCurrent => false
  | _ => true

end CovertVault.Vault
