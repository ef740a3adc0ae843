import CovertVault.Base64
import CovertVault.Cipher.Chain
import CovertVault.Digest.Hmac
import CovertVault.Number.Binary64
import CovertVault.Text.Unencodable

namespace CovertVault.Seal
open Cipher.Aes (Block)

/-- One half of a key signs, the other encrypts. -/
structure Key where
  signing : Bytes
  encryption : Block
deriving Repr, DecidableEq

inductive BadKey where
  /-- Not 32 bytes in base64. -/
  | malformed
  | notAscii
  /-- A text that cannot be taken as bytes. -/
  | unencodable (e : Text.Unencodable)
deriving Repr, DecidableEq

def BadKey.message : BadKey → String
  | .malformed => "Fernet key must be 32 url-safe base64-encoded bytes."
  | .notAscii => "string argument should contain only ASCII characters"
  | .unencodable e => e.message

/-- A key from its base64 text. -/
def Key.ofBase64 (text : Bytes) : Except BadKey Key :=
  match Base64.decodeUrlSafe? text with
  | none => .error .malformed
  | some bs =>
    match Block.ofBytes? (bs.drop 16) with
    | none => .error .malformed
    | some encryption => .ok ⟨bs.take 16, encryption⟩

/-- A key from a text in ASCII. -/
def Key.ofString (s : String) : Except BadKey Key :=
  match Text.Charset.ascii.unencodable? (Text.points s) with
  | some _ => .error .notAscii
  | none => Key.ofBase64 (Bytes.ofString s)

/-- A key from the bytes of a text in ASCII. -/
def Key.ofEncoded (s : String) : Except BadKey Key :=
  match Text.Charset.ascii.unencodable? (Text.points s) with
  | some e => .error (.unencodable e)
  | none => Key.ofBase64 (Bytes.ofString s)

/-- A time that a token has no room for. -/
inductive TimeError where
  | negative
  | tooLarge
  | clock (e : Number.RangeError)
deriving Repr, DecidableEq

def TimeError.message : TimeError → String
  | .negative => "can't convert negative int to unsigned"
  | .tooLarge => "int too big to convert"
  | .clock e => e.message

/-- Seconds as a token holds them: a number of 64 bits. -/
def timeOfSeconds (seconds : Int) : Except TimeError UInt64 :=
  if seconds < 0 then .error .negative
  else if 0x10000000000000000 ≤ seconds then .error .tooLarge
  else .ok (UInt64.ofNat seconds.toNat)

def version : UInt8 := 0x80

/-- Seals a text at a time in seconds. -/
def sealBytes (key : Key) (iv : Block) (time : UInt64) (plain : Bytes) : Bytes :=
  let body := version :: Bytes.ofNat 8 time.toNat ++ iv.toBytes
    ++ Cipher.Aes.encryptBytes key.encryption iv plain
  Bytes.utf8 (Base64.encode Base64.urlSafe (body ++ Digest.hmac key.signing body))

/-- Opens a token. The time is not looked at. -/
def openBytes? (key : Key) (token : Bytes) : Option Bytes := do
  let data ← Base64.decodeUrlSafe? token
  if data.head? ≠ some version ∨ data.length < 9 then none
  let body := data.take (data.length - 32)
  if data.drop (data.length - 32) ≠ Digest.hmac key.signing body then none
  let (iv, _) ← Block.take? (data.drop 9)
  Cipher.Aes.decryptBytes? key.encryption iv (body.drop 25)

end CovertVault.Seal
