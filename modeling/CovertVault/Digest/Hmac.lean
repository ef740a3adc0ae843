import CovertVault.Digest.Sha256

namespace CovertVault.Digest

/-- The key filled up with zeros to one block; a longer key is replaced by its digest. -/
def blockKey (key : Bytes) : Bytes :=
  let key := if 64 < key.length then sha256 key else key
  key ++ List.replicate (64 - key.length) 0

/-- HMAC over SHA-256. -/
def hmac (key message : Bytes) : Bytes :=
  let key := blockKey key
  sha256 (key.map (· ^^^ 0x5c) ++ sha256 (key.map (· ^^^ 0x36) ++ message))

end CovertVault.Digest
