import CovertVault.Bytes

namespace CovertVault

/-- A file as it is listed. The size is that of the plaintext. -/
structure FileMeta where
  id : Int
  displayName : String
  extension : String
  size : Int
  uploadedAt : String
deriving Repr, DecidableEq

structure FileRecord extends FileMeta where
  ciphertext : Bytes
deriving Repr, DecidableEq

structure HistoryRecord where
  id : Int
  expression : String
  result : String
  calculatedAt : String
deriving Repr, DecidableEq

/-- What tells two calculations apart when remote ones are merged in. -/
def HistoryRecord.mergeKey (h : HistoryRecord) : String × String × String :=
  (h.expression, h.result, h.calculatedAt)

structure Snapshot where
  pinDigest : Option String
  files : List FileRecord
  history : List HistoryRecord
  createdAt : String
deriving Repr, DecidableEq

def Snapshot.empty : Snapshot := ⟨none, [], [], ""⟩

/-- The whole numbers in a snapshot. -/
def Snapshot.numbers (s : Snapshot) : List Int :=
  s.files.flatMap (fun f => [f.id, f.size]) ++ s.history.map (·.id)

end CovertVault
