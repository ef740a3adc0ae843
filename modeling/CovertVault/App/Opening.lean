import CovertVault.App.Calculator

namespace CovertVault.App
open Backup Remote

variable {ω T : Type} [TimeScale T] (env : Surroundings ω T)

/-- The client that the settings ask for, on a connection of its own. -/
def connectRemote (s : Settings) (w : ω) :
    Except Failure (Option (Client T × Nat)) × ω :=
  match s.remoteUrl, s.remoteUser with
  | some address, some user =>
    match Client.make address user s.remoteToken Client.defaultRate false with
    | .error e => (.error (.client e), w)
    | .ok client =>
      let (n, w) := env.connect (trimAddress address) w
      (.ok (some (client, n)), w)
  | _, _ => (.ok none, w)

/-- The snapshot store that the settings ask for. -/
def snapshotStore? (s : Settings) : Except Seal.BadKey (Option SnapshotStore) :=
  match s.backupBucket, s.sealingKey with
  | some bucket, some key => (SnapshotStore.make bucket s.backupKey key).map some
  | _, _ => .ok none

/-- An app over a store, with its remote calculations taken in. Those that were taken in before a
failure stay in the database. -/
def ofStore (s : Settings) (store : Store) (remote : Option (Client T × Nat))
    (snapshots : Option SnapshotStore) (w : ω) : Except Failure (App T) × ω :=
  let app : App T := ⟨store, some s.dbPath, .ofDigest none, remote, snapshots⟩
  let (r, app, w) := syncHistory env (app, w)
  match r with
  | .error e => (.error e, env.saveDatabase s.dbPath app.store.db w)
  | .ok _ =>
    match app.store.pinDigest with
    | .error e => (.error (.store e), w)
    | .ok digest => (.ok { app with calculator := .ofDigest digest }, w)

/-- The store that the settings describe. A new database stays on the disk when the store fails. -/
def openStore (s : Settings) (w : ω) : Except Store.Error Store × ω :=
  match env.openDatabase s.dbPath w with
  | none => (.error (.cannotOpen s.dbPath), w)
  | some (db, w) => (Store.ofDatabaseAt s.dbPath (env.stamp w) db, w)

/-- Opens the app that the settings describe. -/
def launch (s : Settings) (w : ω) : Except Failure (App T) × ω :=
  match openStore env s w with
  | (.error e, w) => (.error (.store e), w)
  | (.ok store, w) =>
    match connectRemote env s w with
    | (.error e, w) => (.error e, w)
    | (.ok remote, w) =>
      match snapshotStore? s with
      | .error e => (.error (.key e), w)
      | .ok snapshots => ofStore env s store remote snapshots w

/-- Closes the app. What it still does fails, apart from what the calculator alone does. -/
def close : Action ω T Unit := fun (app, w) =>
  let w := match app.remote with
    | some (_, n) => env.disconnect n w
    | none => w
  let w := match app.databasePath with
    | some path => env.saveDatabase path app.store.db w
    | none => w
  (.ok (), { app with store := app.store.close, databasePath := none }, w)

end CovertVault.App
