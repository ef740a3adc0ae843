import CovertVault.Number.Grouped
import CovertVault.Record.Coding
import CovertVault.Seal.Token

namespace CovertVault.Seal

inductive CorruptError where
  /-- The token does not open with the key. -/
  | sealed
  /-- The token's content is no snapshot. -/
  | payload
deriving Repr, DecidableEq

def CorruptError.message : CorruptError → String
  | .sealed => "snapshot does not open with this key"
  | .payload => "snapshot payload is not a vault snapshot"

/-- A number that has too many digits to be written. -/
inductive NumberError where
  | tooLong
deriving Repr, DecidableEq

def NumberError.message : NumberError → String
  | .tooLong => "Exceeds the limit (4300 digits) for integer string conversion; " ++
    "use sys.set_int_max_str_digits() to increase the limit"

/-- Whether a whole number has no more digits than are written and read. -/
def isShort (n : Int) : Bool := (Number.natText n.natAbs).length ≤ Number.digitLimit

/-- A snapshot's text, the same for equal snapshots. -/
def plainText (s : Snapshot) : Except NumberError (List Char) :=
  if s.numbers.all isShort then .ok s.toJson.write else .error .tooLong

def sealText (key : Key) (iv : Cipher.Aes.Block) (time : UInt64) (plain : List Char) : Bytes :=
  sealBytes key iv time (Bytes.utf8 plain)

def sealSnapshot (key : Key) (iv : Cipher.Aes.Block) (time : UInt64) (s : Snapshot) :
    Except NumberError Bytes :=
  (plainText s).map (sealText key iv time)

def readPayload? (plain : Bytes) : Option Snapshot := do
  readRecord? Snapshot.ofJson? (← Text.decodeUtf8? plain)

def openSnapshot (key : Key) (token : Bytes) : Except CorruptError Snapshot :=
  match openBytes? key token with
  | none => .error .sealed
  | some plain =>
    match readPayload? plain with
    | none => .error .payload
    | some s => .ok s

end CovertVault.Seal
