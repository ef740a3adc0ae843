import CovertVault.Base64
import CovertVault.Record.Basic
import CovertVault.Remote.Request

namespace CovertVault.Remote
open Number

/-- A change to the remote copy of the vault. Under a user's node lie the secret, the files and the
calculations, the last two by id. -/
inductive Command where
  | backupDigest (digest : Option String)
  | backupFile (f : FileRecord)
  | deleteFile (id : Int)
  | backupHistory (h : HistoryRecord)
  | deleteHistory (id : Int)
  | clearHistory
  /-- Replaces all that is there. -/
  | backupAll (digest : Option String) (files : List FileRecord) (history : List HistoryRecord)
deriving Repr, DecidableEq

def idKey (id : Int) : String := String.ofList (intText id)

def optionalText : Option String → Json
  | none => .null
  | some s => .str s

def digestNode (digest : Option String) (now : Int) : Json :=
  .obj [("pin_hash", optionalText digest), ("created_at", .int now)]

def fileNode (f : FileRecord) (uploadedAt : Json) : Json :=
  .obj [("file_name", .str f.displayName), ("original_extension", .str f.extension),
    ("file_data", .str (Base64.encodeString Base64.standard f.ciphertext)),
    ("file_size", .int f.size), ("uploaded_at", uploadedAt)]

def historyNode (h : HistoryRecord) (calculatedAt : Json) : Json :=
  .obj [("expression", .str h.expression), ("result", .str h.result),
    ("calculated_at", calculatedAt)]

/-- Nodes by id; of two with one id the later is kept, in the place of the earlier. -/
def byId {α : Type} (id : α → Int) (node : α → Json) (items : List α) : Json :=
  .obj (items.foldl (fun members a => Json.insert (idKey (id a)) (node a) members) [])

def allNode (digest : Option String) (files : List FileRecord) (history : List HistoryRecord)
    (now : Int) : Json :=
  .obj [("config", digestNode digest now),
    ("vault_files", byId (·.id) (fun f => fileNode f (.str f.uploadedAt)) files),
    ("calculation_history", byId (·.id) (fun h => historyNode h (.str h.calculatedAt)) history)]

namespace Command

def method : Command → Method
  | .deleteFile _ | .deleteHistory _ | .clearHistory => .delete
  | _ => .put

def node : Command → List String
  | .backupDigest _ => ["config"]
  | .backupFile f => ["vault_files", idKey f.id]
  | .deleteFile id => ["vault_files", idKey id]
  | .backupHistory h => ["calculation_history", idKey h.id]
  | .deleteHistory id => ["calculation_history", idKey id]
  | .clearHistory => ["calculation_history"]
  | .backupAll .. => []

/-- What is sent, at a time in milliseconds. A calculation without a time gets this one. -/
def body (now : Int) : Command → Option Json
  | .backupDigest digest => some (digestNode digest now)
  | .backupFile f => some (fileNode f (.int now))
  | .backupHistory h =>
    some (historyNode h (if h.calculatedAt = "" then .int now else .str h.calculatedAt))
  | .backupAll digest files history => some (allNode digest files history now)
  | .deleteFile _ | .deleteHistory _ | .clearHistory => none

end Command

end CovertVault.Remote
