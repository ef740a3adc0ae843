import CovertVault.App.Basic
import CovertVault.Store.Merge

namespace CovertVault.App
open Remote

variable {ω T : Type} [TimeScale T] (env : Surroundings ω T)

/-- Only equals looks into the database, and only if there is something to store. -/
def press (key : Keypad.Key) : Action ω T Calculator.Reply := fun (app, w) =>
  let (r, calculator, store) := app.calculator.press (env.stamp w) key app.store
  let app := { app with calculator := calculator }
  match r with
  | .error e =>
    let e := Failure.press e
    (.error e, if e.isInside then takeStore env store (app, w) else (app, w))
  | .ok (.recorded (some h)) =>
    let reply := Calculator.Reply.recorded (some h)
    tell env reply.commands reply (takeStore env store (app, w))
  | .ok reply => tell env reply.commands reply (app, w)

/-- Takes over the digest that is stored by now. -/
def refresh (take : Store → Calculator.Session → Except Store.Error Unit × Calculator.Session) :
    Action ω T Unit := fun (app, w) =>
  let (r, calculator) := take app.store app.calculator
  (r.mapError .store, takeStore env app.store ({ app with calculator := calculator }, w))

def refreshSecret : Action ω T Unit := refresh env fun store s => s.refreshSecret store

/-- Back to the calculator. -/
def resume : Action ω T Unit := refresh env fun store s => s.resume store

def isFirstRun : Action ω T Bool := query env fun store => store.isFirstRun.mapError .store

/-- Sets the first PIN in the store alone; gives its digest. -/
def storePin (new confirm : String) : Action ω T String :=
  change env fun store => (Vault.setupPin new confirm store).mapError .vault

def setupPin (new confirm : String) : Action ω T Unit :=
  andThen (storePin env new confirm) fun digest =>
    andThen (tell env [.backupDigest (some digest)] ()) fun () => resume env

def listHistory : Action ω T (List HistoryRecord) :=
  query env fun store => store.listHistory.mapError .store

def deleteHistory (id : Int) : Action ω T Unit :=
  andThen (change env fun store => ((store.deleteHistory id).map ((), ·)).mapError .store)
    fun () => tell env [.deleteHistory id] ()

def clearHistory : Action ω T Unit :=
  andThen (change env fun store => (store.clearHistory.map ((), ·)).mapError .store)
    fun () => tell env [.clearHistory] ()

def mergeFailure : Store.MergeError → Failure
  | .store e => .store e
  | .unencodable e => .unencodable e

/-- The calculations of the remote copy, as far as it can be asked. -/
def remoteHistory : Action ω T (List RawRecord) := fun (app, w) =>
  let (r, remote, w) := (Client.copy env.link).historyOrNone (app.remote, w)
  (r.mapError .remote, { app with remote := remote }, w)

/-- Takes in the calculations of the remote copy that the store does not hold; counts them. -/
def syncHistory : Action ω T Nat :=
  andThen (remoteHistory env) fun records (app, w) =>
    if records = [] then (.ok 0, app, w)
    else
      let merge (store : Store) : Except Failure Nat × Store :=
        let (n, store) := store.mergeRaw records (env.stamp w)
        (n.mapError mergeFailure, store)
      onStore env merge (app, w)

end CovertVault.App
