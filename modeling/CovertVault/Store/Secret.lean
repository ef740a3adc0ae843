import CovertVault.Store.Basic

namespace CovertVault.Store

/-- The stored digest; an empty one counts as none. -/
def pinDigest (s : Store) : Except Error (Option String) := do
  s.guard .readDigest []
  return s.db.secret.digest.filter (· ≠ "")

def canary (s : Store) : Except Error (Option Bytes) := do
  s.guard .readCanary []
  return s.db.secret.canary

/-- True until a secret is stored for the first time. -/
def isFirstRun (s : Store) : Except Error Bool := do
  s.guard .readConfig []
  return s.db.secret.firstRun

def withDatabase (s : Store) (db : Database) : Store := { s with db := db }

def setPinDigest (digest : Option String) (canary : Option Bytes) (s : Store) :
    Except Error Store := do
  s.guard .storeDigest []
  s.allow .storeDigest .config .update 1
  return s.withDatabase { s.db with secret := ⟨digest, canary, false⟩ }

end CovertVault.Store
