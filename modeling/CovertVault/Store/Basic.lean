import CovertVault.Record.Basic
import CovertVault.Time.Stamp

namespace CovertVault

/-- The stored secret: digest of the PIN and canary, and whether none was ever set. -/
structure Secret where
  digest : Option String
  canary : Option Bytes
  firstRun : Bool
deriving Repr, DecidableEq

namespace Store

inductive Table where
  | config | files | history
deriving Repr, DecidableEq

inductive Event where
  | insert | update | delete
deriving Repr, DecidableEq

/-- A write that the database refuses: to one row of a table, or to any. -/
structure Fault where
  table : Table
  event : Event
  id : Option Int
deriving Repr, DecidableEq

end Store

/-- Rows in the order of their ids, and the last id that each table has given out. -/
structure Database where
  secret : Secret
  files : List FileRecord
  lastFile : Int
  history : List HistoryRecord
  lastHistory : Int
  faults : List Store.Fault
deriving Repr, DecidableEq

namespace Database

def empty : Database := ⟨⟨none, none, true⟩, [], 0, [], 0, []⟩

def refuses (db : Database) (table : Store.Table) (event : Store.Event) (id : Int) : Bool :=
  db.faults.any fun f => f.table = table ∧ f.event = event ∧ f.id.all (· = id)

end Database

namespace Store

/-- What was being done when the database failed. -/
inductive Task where
  | readDigest | readCanary | storeDigest | readConfig
  | saveFile | readFile | listFiles | deleteFile | readFiles | rekeyFiles
  | saveCalculation | listHistory | deleteCalculation | clearHistory
deriving Repr, DecidableEq

def Task.phrase : Task → String
  | .readDigest => "read PIN hash"
  | .readCanary => "read PIN canary"
  | .storeDigest => "store PIN hash"
  | .readConfig => "read config"
  | .saveFile => "save vault file"
  | .readFile => "read vault file"
  | .listFiles => "list vault files"
  | .deleteFile => "delete vault file"
  | .readFiles => "read vault files"
  | .rekeyFiles => "re-encrypt vault files"
  | .saveCalculation => "save calculation"
  | .listHistory => "list history"
  | .deleteCalculation => "delete calculation"
  | .clearHistory => "clear history"

inductive Error where
  | failed (task : Task)
  | cannotOpen (path : String)
  /-- A number that does not fit a column of 64 bits. -/
  | integerTooLarge
  /-- A present without a time stamp. -/
  | time (e : Time.StampError)
deriving Repr, DecidableEq

def Error.message : Error → String
  | .failed task => "Failed to " ++ task.phrase
  | .cannotOpen path => "Failed to open vault database at " ++ path
  | .integerTooLarge => "Python int too large to convert to SQLite INTEGER"
  | .time e => e.message

/-- Whether the database was looked into before. -/
def Error.isInside : Error → Bool
  | .failed _ | .cannotOpen _ => true
  | .integerTooLarge | .time _ => false

/-- The id under which a row is met that has none of its own before it is in its table. -/
def unnumbered : Int := -1

/-- Whether a number has at most 64 bits with its sign. -/
def fitsColumn (n : Int) : Bool := -0x8000000000000000 ≤ n && n < 0x8000000000000000

end Store

/-- A database in use. -/
structure Store where
  db : Database
  isOpen : Bool
  /-- Files that a reader no longer finds although they are listed. -/
  hidden : List Int
deriving Repr, DecidableEq

namespace Store

def ofDatabase (db : Database) : Store := ⟨db, true, []⟩

/-- A new store. -/
def empty : Store := ofDatabase .empty

/-- The store over the database at a path. Opening puts the row of the secret into its table with
the time of the day, whether it is there or not. -/
def ofDatabaseAt (path : String) (now : Time.Present) (db : Database) : Except Error Store := do
  discard (now.mapError .time)
  if db.refuses .config .insert 1 then throw (.cannotOpen path)
  return ofDatabase db

def close (s : Store) : Store := { s with isOpen := false }

/-- Every operation needs an open store, and ids that fit their column. -/
def guard (s : Store) (task : Task) (numbers : List Int) : Except Error Unit :=
  if !s.isOpen then .error (.failed task)
  else if numbers.all fitsColumn then .ok ()
  else .error .integerTooLarge

/-- The id of a new row, behind the last one given out. A table whose ids are used up takes no
more rows. -/
def nextId (task : Task) (last : Int) : Except Error Int :=
  if fitsColumn (last + 1) then .ok (last + 1) else .error (.failed task)

/-- A write to one row. -/
def allow (s : Store) (task : Task) (table : Table) (event : Event) (id : Int) :
    Except Error Unit :=
  if s.db.refuses table event id then .error (.failed task) else .ok ()

/-- Listings go from the newest row to the oldest, rows of one time by falling id. -/
def newestFirst {α : Type} (time : α → String) (id : α → Int) (rows : List α) : List α :=
  rows.mergeSort fun a b => time b < time a ∨ time a = time b ∧ id b ≤ id a

end Store

end CovertVault
