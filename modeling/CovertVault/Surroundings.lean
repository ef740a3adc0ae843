import CovertVault.Backup.Bucket
import CovertVault.Files.Path
import CovertVault.Remote.Request
import CovertVault.Seal.Token
import CovertVault.Store.Basic

namespace CovertVault
open Backup Files

/-- What the app finds around it: clocks, the remote service, the bucket, the disk. `ω` is the state
of all this, `T` the scale of the limiter's clock. -/
structure Surroundings (ω T : Type) extends Remote.Clock ω T where
  /-- Milliseconds since the start of 1970, as far as the clock can show them. -/
  millis : ω → Except Number.RangeError Int
  /-- Sends a request over the connection of a number. -/
  send : Nat → Remote.Request → ω → Remote.Outcome × ω
  /-- The present as a time stamp. -/
  stamp : ω → Time.Present
  /-- The present in seconds, and a block that starts the sealing of a snapshot. -/
  sealing : ω → Except Seal.TimeError (UInt64 × Cipher.Aes.Block)
  callBucket : Call → ω → Except Failure Reply × ω
  /-- A name that was never given out before. -/
  freshName : ω → String × ω
  /-- Opens a connection to an address, and closes the connection of a number. -/
  connect : String → ω → Nat × ω
  disconnect : Nat → ω → ω
  fileContent : Path → ω → Except FileError Bytes
  keepFile : Path → Bytes → ω → Except FileError ω
  openDatabase : String → ω → Option (Database × ω)
  /-- What using an open database does to the disk; whether it was changed. -/
  useDatabase : String → Bool → ω → ω
  /-- Whether the file of an open database still holds it. -/
  holdsDatabase : String → ω → Bool
  saveDatabase : String → Database → ω → ω

/-- The way to the remote service over the connection of a number. -/
def Surroundings.link {ω T : Type} (env : Surroundings ω T) (connection : Nat) : Remote.Link ω T :=
  ⟨env.toClock, env.millis, env.send connection⟩

end CovertVault
