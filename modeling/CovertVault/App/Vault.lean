import CovertVault.App.Basic

namespace CovertVault.App
open Files Remote

variable {ω T : Type} [TimeScale T] (env : Surroundings ω T)

def unlock (pin : String) : Action ω T Vault.Session :=
  query env fun store => (Vault.Session.unlock pin store).mapError .vault

def listFiles : Action ω T (List FileMeta) :=
  query env fun store => store.listFiles.mapError .store

def content (id : Int) (v : Vault.Session) : Action ω T Bytes :=
  query env fun store => (v.content id store).mapError .vault

def upload (name : String) (data : Bytes) (v : Vault.Session) : Action ω T FileMeta :=
  fun (app, w) =>
    let keep (store : Store) : Except Failure FileRecord × Store :=
      let (r, store) := v.upload (env.stamp w) name data store
      (r.mapError .vault, store)
    andThen (onStore env keep) (fun f => tell env [.backupFile f] f.toFileMeta) (app, w)

def fileFailure (refused : Vault.Error) : FileError → Failure
  | .nul => .vault .nulInPath
  | _ => .vault refused

/-- Uploads a file of the disk under the last part of its path. -/
def uploadPath (path : Path) (v : Vault.Session) : Action ω T FileMeta := fun (app, w) =>
  match env.fileContent path w with
  | .error e => (.error (fileFailure (.unreadable path.text) e), app, w)
  | .ok data => upload env path.name data v (app, w)

/-- A store whose file holds something else by now is of no use any more. -/
def checkStore (app : App T) (w : ω) : App T :=
  if app.databasePath.all (env.holdsDatabase · w) then app
  else { app with store := app.store.close }

/-- Writes the content of a file to the disk. -/
def exportFile (id : Int) (path : Path) (v : Vault.Session) : Action ω T Path :=
  andThen (content env id v) fun data (app, w) =>
    match env.keepFile path data w with
    | .error e => (.error (fileFailure (.unwritable path.text) e), app, w)
    | .ok w => (.ok path, checkStore env app w, w)

def deleteFile (id : Int) : Action ω T Unit :=
  andThen (change env fun store => ((store.deleteFile id).map ((), ·)).mapError .store)
    fun () => tell env [.deleteFile id] ()

/-- Changes the PIN; gives the number of files, and the session under the PIN then in force. -/
def changePin (current new confirm : String) (v : Vault.Session) (s : App T × ω) :
    (Except Failure Nat × Vault.Session) × App T × ω :=
  let (r, v', store) := v.changePin current new confirm s.1.store
  let (r, s) := onStore env (fun _ => (r.mapError .vault, store)) s
  match r with
  | .error e => ((.error e, v'), s)
  | .ok n =>
    let (r, s) := tell env (Vault.Session.changeCommands new store) n s
    ((r, v'), s)

/-- Changes the PIN by texts as they were typed in. -/
def changeTyped (current new confirm : List Text.Point) (v : Vault.Session) (s : App T × ω) :
    (Except Failure Nat × Vault.Session) × App T × ω :=
  match Vault.Session.readTyped current new confirm s.1.store with
  | .ok (current, new, confirm) => changePin env current new confirm v s
  | .error e =>
    let (r, s) := onStore env (fun store => (.error (.vault e), store)) s
    ((r, v), s)

def snapshot : Action ω T Snapshot := fun (app, w) =>
  query env (fun store => (Vault.snapshot (env.stamp w) store).mapError .vault) (app, w)

/-- Hands everything to the remote copy and, sealed, to the bucket; gives the tag of the object
there. A bucket that fails is passed over. -/
def backupAll : Action ω T (Option String) :=
  andThen (snapshot env) fun all =>
    andThen (tell env [.backupAll all.pinDigest all.files all.history] ()) fun () (app, w) =>
      match app.snapshots with
      | none => (.ok none, app, w)
      | some snapshots =>
        match snapshots.save env all none w with
        | (.error (.number e), w) => (.error (.number e), app, w)
        | (.error (.time e), w) => (.error (.sealing e), app, w)
        | (r, w) => (.ok r.toOption, app, w)

end CovertVault.App
