import CovertVault.Store.Location
import CovertVault.Surroundings

namespace CovertVault
open Backup Files Number Remote

inductive DiskFile where
  | bytes (content : Bytes)
  | database (db : Database)
deriving Repr, DecidableEq

structure Connection where
  address : String
  isOpen : Bool
deriving Repr, DecidableEq

/-- Surroundings played from a script: a clock that sleeping moves, a queue of the service's
answers, a bucket, a working directory, and records of what was done. -/
structure World where
  millis : Int
  /-- A frozen clock stands still while the app sleeps. -/
  frozen : Bool
  /-- What comes of the next requests. -/
  outcomes : List Outcome
  /-- Requests and naps, newest first. -/
  requests : List Request
  naps : List Float
  connections : List Connection
  bucket : Bucket
  /-- How many names were given out. -/
  names : Nat
  disk : List (String × DiskFile)

namespace World

def start (millis : Int) (frozen : Bool) (outcomes : List Outcome) : World :=
  ⟨millis, frozen, outcomes, [], [], [], .empty, 0, []⟩

/-- The world with empty records. -/
def clearRecords (w : World) : World :=
  { w with requests := [], naps := [], bucket := { w.bucket with log := [] } }

/-- The clock in seconds: whole milliseconds are rounded to binary64 first, and their quotient is
rounded once more. -/
def seconds (w : World) : Except RangeError Float := (ofInt w.millis).map (· / 1000.0)

/-- Whole milliseconds of a length of time in seconds. -/
def millisOf (seconds : Float) : Int := truncate (seconds * 1000.0)

def advance (span : Int) (w : World) : World := { w with millis := w.millis + span }

def sleep (seconds : Float) (w : World) : World :=
  let w := if w.frozen then w else w.advance (millisOf seconds)
  { w with naps := seconds :: w.naps }

/-- What the service answers when the script has run out. -/
def defaultOutcome : Outcome := .response 200 (Bytes.ofString "null")

/-- The address of a request to a service, once it can be said which host it is for. -/
def addressOf (service : String) (q : Request) : Except Fault Address := do
  let service ← (Address.ofService service.toList).mapError .address
  let a ← (service.ofRequest q.url.toList (q.token.map (·.toList))).mapError .address
  a.checkHost.mapError .host
  return a

/-- What comes of a request to an address. -/
def answer (a : Address) (w : World) : Outcome :=
  match w.outcomes.headD defaultOutcome with
  | .response status body =>
    match Origin.check a.text with
    | .error e => .fault (.origin e)
    | .ok () => .response status body
  | fault => fault

/-- Sends a request. It is recorded in any case, but takes an outcome only if its address is in
order and its connection open. -/
def send (connection : Nat) (q : Request) (w : World) : Outcome × World :=
  let w := { w with requests := q :: w.requests }
  let c := w.connections.getD connection ⟨"", false⟩
  match addressOf c.address q with
  | .error f => (.fault f, w)
  | .ok a =>
    if !c.isOpen then (.fault .closed, w)
    else (w.answer a, { w with outcomes := w.outcomes.tail })

def stamp (w : World) : Time.Present := Time.presentOfMillis w.millis

/-- Sealing starts from a block of zeros. -/
def sealing (w : World) : Except Seal.TimeError (UInt64 × Cipher.Aes.Block) := do
  let column : Cipher.Aes.Column := ⟨0, 0, 0, 0⟩
  let seconds ← w.seconds.mapError .clock
  return (← Seal.timeOfSeconds (truncate seconds), ⟨column, column, column, column⟩)

def callBucket (c : Call) (w : World) : Except Failure Reply × World :=
  let (r, b) := w.bucket.answer c
  (r, { w with bucket := b })

/-- Names count upwards in 32 hexadecimal digits. -/
def freshName (w : World) : String × World :=
  (String.ofList (Text.hex 32 (w.names + 1)), { w with names := w.names + 1 })

def connect (address : String) (w : World) : Nat × World :=
  (w.connections.length, { w with connections := w.connections ++ [⟨address, true⟩] })

def disconnect (number : Nat) (w : World) : World :=
  { w with connections := w.connections.modify number fun c => { c with isOpen := false } }

def find? (w : World) (name : String) : Option DiskFile := w.disk.lookup name

def isFile (w : World) (name : String) : Bool := (w.find? name).isSome

def putFile (name : String) (f : DiskFile) (w : World) : World :=
  { w with disk := (name, f) :: w.disk.filter (·.1 ≠ name) }

def removeFile (name : String) (w : World) : World :=
  { w with disk := w.disk.filter (·.1 ≠ name) }

/-- Only files right in the working directory can be read and written. -/
def fileContent (p : Path) (w : World) : Except FileError Bytes := do
  match w.find? (← p.plainName w.isFile) with
  | some (.bytes content) => return content
  | _ => throw .missing

def keepFile (p : Path) (content : Bytes) (w : World) : Except FileError World := do
  return w.putFile (← p.plainName w.isFile) (.bytes content)

def location? (path : String) (w : World) : Option Store.Location :=
  Store.Location.find? w.isFile path

/-- Beside its file a database writes down what it is about to change. -/
def journalOf (name : String) : String := name ++ "-journal"

/-- A file in the place of the journal goes when the database is changed. One that does not begin
with a zero goes even when the database is read, as if it were left over from a change, but only
where the database locks its file. -/
def useDatabase (path : String) (changed : Bool) (w : World) : World :=
  match w.location? path with
  | some (.file name locked) =>
    match w.find? (journalOf name) with
    | some (.bytes content) =>
      if changed || locked && content.head?.any (· ≠ 0) then w.removeFile (journalOf name) else w
    | _ => w
  | _ => w

/-- A database that is kept on disk, or a new one. A file of less than two bytes is as good as
none; any other file is no database. -/
def openDatabase (path : String) (w : World) : Option (Database × World) := do
  match ← w.location? path with
  | .unkept => return (.empty, w)
  | .file name _ =>
    match w.find? name with
    | some (.database db) => return (db, w.useDatabase path false)
    | some (.bytes (_ :: _ :: _)) => none
    | _ => return (.empty, (w.putFile name (.database .empty)).useDatabase path true)

def holdsDatabase (path : String) (w : World) : Bool :=
  match w.location? path with
  | some (.file name _) =>
    match w.find? name with
    | some (.database _) => true
    | _ => false
  | _ => true

/-- Keeps a database, unless another file has taken its place. -/
def saveDatabase (path : String) (db : Database) (w : World) : World :=
  match w.location? path with
  | some (.file name _) =>
    match w.find? name with
    | some (.database _) => w.putFile name (.database db)
    | _ => w
  | _ => w

def surroundings : Surroundings World Float where
  now w := w.seconds.toOption.getD 0.0
  sleep := sleep
  millis w := w.seconds.map millisOf
  send := send
  stamp := stamp
  sealing := sealing
  callBucket := callBucket
  freshName := freshName
  connect := connect
  disconnect := disconnect
  fileContent := fileContent
  keepFile := keepFile
  openDatabase := openDatabase
  useDatabase := useDatabase
  holdsDatabase := holdsDatabase
  saveDatabase := saveDatabase

end World

end CovertVault
