import CovertVault.Store.Secret

namespace CovertVault.Store

/-- Adds a file and gives its id. -/
def putFile (name ext : String) (ciphertext : Bytes) (size : Int) (now : Time.Present) (s : Store) :
    Except Error (Int × Store) := do
  s.guard .saveFile []
  let now ← now.mapError .time
  s.guard .saveFile [size]
  let id ← nextId .saveFile s.db.lastFile
  s.allow .saveFile .files .insert unnumbered
  let row : FileRecord := ⟨⟨id, name, ext, size, now⟩, ciphertext⟩
  return (id, s.withDatabase { s.db with files := s.db.files ++ [row], lastFile := id })

def findFile (s : Store) (id : Int) : Option FileRecord := s.db.files.find? (·.id = id)

def fileCiphertext (id : Int) (s : Store) : Except Error (Option Bytes) := do
  s.guard .readFile [id]
  return (s.findFile id).map (·.ciphertext)

def getFile (id : Int) (s : Store) : Except Error (Option FileRecord) :=
  if s.hidden.contains id then .ok none
  else do
    s.guard .readFile [id]
    return s.findFile id

/-- All files without their content, newest first. -/
def listFiles (s : Store) : Except Error (List FileMeta) := do
  s.guard .listFiles []
  return newestFirst (·.uploadedAt) (·.id) (s.db.files.map (·.toFileMeta))

/-- Deletes a file; nothing when there is none. -/
def deleteFile (id : Int) (s : Store) : Except Error Store := do
  s.guard .deleteFile [id]
  if s.db.files.any (·.id = id) then s.allow .deleteFile .files .delete id
  return s.withDatabase { s.db with files := s.db.files.filter (·.id ≠ id) }

/-- Ids and ciphertexts of all files, by rising id. -/
def fileCiphertexts (s : Store) : Except Error (List (Int × Bytes)) := do
  s.guard .readFiles []
  return s.db.files.map fun r => (r.id, r.ciphertext)

inductive RekeyError (ε : Type) where
  | store (e : Error)
  | transform (e : ε)

/-- Puts new ciphertexts into rows, one after another; `k` counts those before. -/
def rekeyRows {ε : Type} (s : Store) (transform : Nat → Bytes → Except ε Bytes) :
    Nat → List FileRecord → Except (RekeyError ε) (List FileRecord)
  | _, [] => .ok []
  | k, r :: rest => do
    let ciphertext ← (transform k r.ciphertext).mapError .transform
    (s.allow .rekeyFiles .files .update r.id).mapError .store
    return { r with ciphertext := ciphertext } :: (← rekeyRows s transform (k + 1) rest)

/-- Puts a new ciphertext into every file and stores the new secret, all of it or nothing; gives
the number of files. The ciphertexts come from code that leaves the store alone. -/
def rekeyFiles {ε : Type} (transform : Nat → Bytes → Except ε Bytes) (digest : Option String)
    (canary : Option Bytes) (s : Store) : Except (RekeyError ε) (Nat × Store) := do
  (s.guard .rekeyFiles []).mapError .store
  let files ← s.rekeyRows transform 0 s.db.files
  (s.allow .rekeyFiles .config .update 1).mapError .store
  let secret : Secret := ⟨digest, canary, false⟩
  return (files.length, s.withDatabase { s.db with files := files, secret := secret })

end CovertVault.Store
