import CovertVault.Base64
import CovertVault.Json.Reader
import CovertVault.Json.Writer
import CovertVault.Record.Basic
import CovertVault.Record.WholeNumber

namespace CovertVault
open Number Text

namespace Json

/-- The whole number that a binary64 is, within 64 bits. -/
def wholeFloat? (v : Float) : Option Int := do
  let d ← ExactFloat.ofFloat? v
  let n := d.num / d.den
  if d.isWhole ∧ n < 0x8000000000000000 then some (if d.negative then -n else n) else none

/-- A whole number in any of the spellings that records accept. -/
def int? : Json → Option Int
  | .int n => some n
  | .bool b => some (if b then 1 else 0)
  | .decimal d => wholeFloat? d.toFloat
  | .str s => Record.intOfText? s.toList
  | _ => none

def str? : Json → Option String
  | .str s => some s
  | _ => none

/-- A member read by a reader of its kind, or the default when it is missing. -/
def fieldOr? {α : Type} (members : List (String × Json)) (key : String) (default : α)
    (read : Json → Option α) : Option α :=
  match field? members key with
  | none => some default
  | some v => read v

def listOf? {α : Type} (read : Json → Option α) : Json → Option (List α)
  | .arr items => items.mapM read
  | _ => none

def ciphertext? : Json → Option Bytes
  | .str s => Base64.decodeAscii? s.toList
  | _ => none

def optionalStr? : Json → Option (Option String)
  | .null => some none
  | .str s => some (some s)
  | _ => none

end Json

open Json

namespace FileMeta

def toJson (f : FileMeta) : Json :=
  .obj [("display_name", .str f.displayName), ("id", .int f.id),
    ("original_extension", .str f.extension), ("size_bytes", .int f.size),
    ("uploaded_at", .str f.uploadedAt)]

def ofMembers? (ms : List (String × Json)) : Option FileMeta := do
  return ⟨← (← field? ms "id").int?, ← (← field? ms "display_name").str?,
    ← fieldOr? ms "original_extension" "" Json.str?, ← fieldOr? ms "size_bytes" 0 Json.int?,
    ← fieldOr? ms "uploaded_at" "" Json.str?⟩

def ofJson? : Json → Option FileMeta
  | .obj ms => ofMembers? ms
  | _ => none

end FileMeta

namespace FileRecord

def toJson (f : FileRecord) : Json :=
  .obj [("ciphertext", .str (Base64.encodeString Base64.standard f.ciphertext)),
    ("display_name", .str f.displayName), ("id", .int f.id),
    ("original_extension", .str f.extension), ("size_bytes", .int f.size),
    ("uploaded_at", .str f.uploadedAt)]

def ofJson? : Json → Option FileRecord
  | .obj ms => do return ⟨← FileMeta.ofMembers? ms, ← fieldOr? ms "ciphertext" [] Json.ciphertext?⟩
  | _ => none

end FileRecord

namespace HistoryRecord

def toJson (h : HistoryRecord) : Json :=
  .obj [("calculated_at", .str h.calculatedAt), ("expression", .str h.expression),
    ("id", .int h.id), ("result", .str h.result)]

def ofJson? : Json → Option HistoryRecord
  | .obj ms => do
    return ⟨← (← field? ms "id").int?, ← (← field? ms "expression").str?,
      ← (← field? ms "result").str?, ← fieldOr? ms "calculated_at" "" Json.str?⟩
  | _ => none

end HistoryRecord

namespace Snapshot

def toJson (s : Snapshot) : Json :=
  .obj [("created_at", .str s.createdAt), ("files", .arr (s.files.map FileRecord.toJson)),
    ("history", .arr (s.history.map HistoryRecord.toJson)),
    ("pin_hash", (s.pinDigest.map Json.str).getD .null)]

def ofJson? : Json → Option Snapshot
  | .obj ms => do
    return ⟨← fieldOr? ms "pin_hash" none Json.optionalStr?,
      ← fieldOr? ms "files" [] (Json.listOf? FileRecord.ofJson?),
      ← fieldOr? ms "history" [] (Json.listOf? HistoryRecord.ofJson?),
      ← fieldOr? ms "created_at" "" Json.str?⟩
  | _ => none

end Snapshot

/-- A record in the text of its JSON object. -/
def readRecord? {α : Type} (read : Json → Option α) (text : List Char) : Option α := do
  read (← Json.parse? Json.strict (text.map .char))

end CovertVault
