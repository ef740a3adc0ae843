import CovertVault.Files.Name
import CovertVault.Remote.Command
import CovertVault.Store.Files
import CovertVault.Store.History
import CovertVault.Vault.Error

namespace CovertVault.Vault

/-- A new PIN must be well formed and typed twice. -/
def checkNew (new confirm : String) : Except Error Unit :=
  if !Pin.isValid new then .error (.pin .malformed)
  else if new ≠ confirm then .error (.pin .unconfirmed)
  else .ok ()

/-- Sets the first PIN; gives its digest. -/
def setupPin (new confirm : String) (store : Store) : Except Error (String × Store) := do
  checkNew new confirm
  if !(← store.isFirstRun.mapError .store) then throw (.pin .alreadySet)
  let digest := Pin.digest new
  return (digest, ← (store.setPinDigest (some digest) (some (Pin.canary new))).mapError .store)

/-- The vault as opened with a PIN. -/
structure Session where
  pin : String
deriving Repr, DecidableEq

/-- All files with their content, in the order of the listing. -/
def records (store : Store) : Except Store.Error (List FileRecord) := do
  let listed ← store.listFiles
  return (← listed.mapM fun f => store.getFile f.id).filterMap id

/-- All that the store holds, at a time. -/
def snapshot (now : Time.Present) (store : Store) : Except Error Snapshot :=
  Except.mapError .store do
    let files ← records store
    return ⟨← store.pinDigest, files, ← store.listHistory, ← now.mapError .time⟩

namespace Session

def unlock (pin : String) (store : Store) : Except Error Session := do
  let stored ← store.pinDigest.mapError .store
  if ← (Pin.verify (some pin) stored).mapError .digest then return ⟨pin⟩
  throw (.mismatch .door)

/-- The first half of an upload. -/
def encrypt (s : Session) (data : Bytes) : Bytes :=
  (Cipher.encrypt (some data) (some s.pin)).getD []

/-- The second half of an upload: stores a ciphertext and reads the file back. -/
def keep (now : Time.Present) (name : String) (ciphertext : Bytes) (size : Int) (store : Store) :
    Except Error FileRecord × Store :=
  match store.putFile name (Files.extension name) ciphertext size now with
  | .error e => (.error (.store e), store)
  | .ok (id, store) =>
    match store.getFile id with
    | .error e => (.error (.store e), store)
    | .ok none => (.error (.vanished id), store)
    | .ok (some f) => (.ok f, store)

def upload (now : Time.Present) (name : String) (data : Bytes) (s : Session) (store : Store) :
    Except Error FileRecord × Store :=
  keep now name (s.encrypt data) data.length store

def content (id : Int) (s : Session) (store : Store) : Except Error Bytes := do
  match ← (store.fileCiphertext id).mapError .store with
  | none => throw (.missing id)
  | some c => return (Cipher.decrypt (some c) (some s.pin)).getD []

/-- The checks before a change of the PIN, in their order. -/
def checkChange (current new confirm : String) (store : Store) : Except Error Unit := do
  checkNew new confirm
  if current = "" then throw (.pin .noCurrent)
  let stored ← store.pinDigest.mapError .store
  if !(← (Pin.verify (some current) stored).mapError .digest) then throw (.mismatch .digest)
  if current = new then throw (.pin .unchanged)
  if !Pin.checkCanary (← store.canary.mapError .store) current then throw (.mismatch .canary)

/-- The texts of a change of the PIN as they were typed in, or why it fails if one of them has no
UTF-8 form. Half of a surrogate pair is no digit, no text repeats one without it, and where a digest
is stored that of the current PIN is needed. -/
def readTyped (current new confirm : List Text.Point) (store : Store) :
    Except Error (String × String × String) :=
  match Text.encodable new, Text.encodable confirm, Text.encodable current with
  | .error _, _, _ => .error (.pin .malformed)
  | .ok new, .error _, _ => .error (.pin (if Pin.isValid new then .unconfirmed else .malformed))
  | .ok new, .ok confirm, .error e => do
    checkNew new confirm
    match ← store.pinDigest.mapError .store with
    | none => throw (.mismatch .digest)
    | some _ => throw (.unencodable e)
  | .ok new, .ok confirm, .ok current => .ok (current, new, confirm)

/-- Takes one ciphertext from a PIN to another. -/
def rekeyed (current new : String) (ciphertext : Bytes) : Bytes :=
  (Cipher.rekey (some ciphertext) current new).getD []

/-- Changes the PIN and re-keys every file; gives the number of files. -/
def changePin (current new confirm : String) (s : Session) (store : Store) :
    Except Error Nat × Session × Store :=
  match checkChange current new confirm store with
  | .error e => (.error e, s, store)
  | .ok () =>
    let transform (_ : Nat) (c : Bytes) : Except Empty Bytes := .ok (rekeyed current new c)
    match store.rekeyFiles transform (some (Pin.digest new)) (some (Pin.canary new)) with
    | .ok (n, store) => (.ok n, ⟨new⟩, store)
    | .error (.store e) => (.error (.store e), s, store)

/-- What the remote copy is told after a change of the PIN. -/
def changeCommands (new : String) (store : Store) : List Remote.Command :=
  .backupDigest (some (Pin.digest new)) ::
    (match records store with
      | .ok files => files.map .backupFile
      | .error _ => [])

end Session

end CovertVault.Vault
