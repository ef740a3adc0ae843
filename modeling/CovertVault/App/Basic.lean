import CovertVault.Backup.Saving
import CovertVault.Calculator.Session
import CovertVault.Remote.Copy
import CovertVault.Vault.Session

namespace CovertVault

/-- The running app. What it does it does to the local store first. The remote copy is told
afterwards, and of its failures only those that cannot be ignored come back. -/
structure App (T : Type) where
  store : Store
  /-- Where the database is to be kept; nowhere once the app is closed. -/
  databasePath : Option String
  calculator : Calculator.Session
  /-- The client of the remote service and the number of its connection. -/
  remote : Option (Remote.Client T × Nat)
  snapshots : Option Backup.SnapshotStore

namespace App

inductive Failure where
  | press (e : Calculator.Error)
  | store (e : Store.Error)
  | vault (e : Vault.Error)
  | remote (e : Remote.Error)
  | client (e : Remote.ClientError)
  | key (e : Seal.BadKey)
  | number (e : Seal.NumberError)
  | sealing (e : Seal.TimeError)
  | unencodable (e : Text.Unencodable)
deriving Repr, DecidableEq

/-- An action on the app in its surroundings. What it changes stays changed when it fails. -/
abbrev Action (ω T α : Type) := App T × ω → Except Failure α × App T × ω

variable {ω T α : Type} [Remote.TimeScale T] (env : Surroundings ω T)

/-- Goes on with what an action gives, if it succeeds. -/
def andThen {β : Type} (first : Action ω T α) (next : α → Action ω T β) : Action ω T β := fun s =>
  match first s with
  | (.error e, s) => (.error e, s)
  | (.ok a, s) => next a s

/-- Takes over the store after an operation that looked into the database, if that was open. -/
def takeStore (store : Store) : App T × ω → App T × ω := fun (app, w) =>
  let isUsed : Bool := app.store.isOpen && store.isOpen
  let w := match app.databasePath with
    | some path => if isUsed then env.useDatabase path (store.db ≠ app.store.db) w else w
    | none => w
  ({ app with store := store }, w)

/-- Whether a failure came from the inside of the database, or after a look into it. -/
def Failure.isInside : Failure → Bool
  | .store e | .press (.store e) => e.isInside
  | .vault e => e.isInside
  | .press _ => false
  | _ => true

/-- An operation on the store alone. -/
def onStore (operation : Store → Except Failure α × Store) : Action ω T α := fun (app, w) =>
  match operation app.store with
  | (.ok a, store) => (.ok a, takeStore env store (app, w))
  | (.error e, store) =>
    if e.isInside then (.error e, takeStore env store (app, w))
    else (.error e, { app with store := store }, w)

/-- Reads from the store. -/
def query (read : Store → Except Failure α) : Action ω T α :=
  onStore env fun store => (read store, store)

/-- Changes the store, which stays as it is at a failure. -/
def change (write : Store → Except Failure (α × Store)) : Action ω T α :=
  onStore env fun store =>
    match write store with
    | .ok (a, store) => (.ok a, store)
    | .error e => (.error e, store)

/-- Tells the remote copy of changes, and then gives a result. -/
def tell (changes : List Remote.Command) (result : α) : Action ω T α := fun (app, w) =>
  let (r, remote, w) := (Remote.Client.copy env.link).attemptAll changes (app.remote, w)
  ((r.map fun _ => result).mapError .remote, { app with remote := remote }, w)

/-- Does the same for each of a list of ids, up to the first failure, and counts. -/
def each (action : Int → Action ω T Unit) : List Int → Action ω T Nat
  | [], s => (.ok 0, s)
  | id :: ids, s =>
    match action id s with
    | (.error e, s) => (.error e, s)
    | (.ok (), s) =>
      let (n, s) := each action ids s
      (n.map (· + 1), s)

end App

end CovertVault
