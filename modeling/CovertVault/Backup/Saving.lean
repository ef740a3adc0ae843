import CovertVault.Backup.SnapshotStore
import CovertVault.Surroundings

namespace CovertVault.Backup.SnapshotStore

/-- Seals a snapshot and writes it: over the object that has the tag, or, without one, whatever is
there. -/
def save {ω T : Type} (s : SnapshotStore) (env : Surroundings ω T) (snapshot : Snapshot)
    (tag : Option String) (w : ω) : Except Error String × ω :=
  match Seal.plainText snapshot, env.sealing w with
  | .error e, _ => (.error (.number e), w)
  | _, .error e => (.error (.time e), w)
  | .ok plain, .ok (time, iv) =>
    let token := Seal.sealText s.key iv time plain
    match tag with
    | none => (s.write token).run env.callBucket w
    | some tag =>
      let (name, w) := env.freshName w
      (s.writeIfMatch token tag name).run env.callBucket w

end CovertVault.Backup.SnapshotStore
