import CovertVault.Backup.Program
import CovertVault.Seal.Snapshot
import CovertVault.Settings

namespace CovertVault.Backup

/-- One sealed snapshot in a bucket. -/
structure SnapshotStore where
  place : Place
  key : Seal.Key
deriving Repr, DecidableEq

inductive Error where
  | failed (f : Failure)
  /-- The object at a location no longer has the tag. -/
  | changed (location tag : String)
  | corrupt (e : Seal.CorruptError)
  | number (e : Seal.NumberError)
  | time (e : Seal.TimeError)
deriving Repr, DecidableEq

def Error.message : Error → String
  | .failed f => f.message
  | .changed location tag => location ++ " changed since ETag " ++ tag
  | .corrupt e => e.message
  | .number e => e.message
  | .time e => e.message

inductive SetupError where
  | notConfigured
  | key (e : Seal.BadKey)
deriving Repr, DecidableEq

def SetupError.message : SetupError → String
  | .notConfigured => "Snapshot backup is not configured"
  | .key e => e.message

def Failure.isMissing (f : Failure) : Bool :=
  f.code? = some missingCode ∨ f.code? = some "404"

def Failure.isPrecondition (f : Failure) : Bool :=
  f.code? = some preconditionCode ∨ f.code? = some "412"

/-- A tag as a text, also when none is told. -/
def shownTag (tag : Option String) : String := tag.getD "None"

namespace SnapshotStore

def make (bucket key : String) (keyText : String) : Except Seal.BadKey SnapshotStore :=
  (Seal.Key.ofEncoded keyText).map fun k => ⟨⟨bucket, key⟩, k⟩

def ofSettings (s : Settings) : Except SetupError SnapshotStore :=
  match s.backupBucket, s.sealingKey with
  | some bucket, some key => (make bucket s.backupKey key).mapError .key
  | _, _ => .error .notConfigured

def location (s : SnapshotStore) : String := "s3://" ++ s.place.bucket ++ "/" ++ s.place.key

/-- The snapshot and its tag; an empty one without a tag when there is no object yet. -/
def read (s : SnapshotStore) : Program Error (Snapshot × Option String) :=
  .call (.get s.place) fun
    | .error f =>
      .done (if f.isMissing then .ok (Snapshot.empty, none) else .error (.failed f))
    | .ok reply =>
      .done (((Seal.openSnapshot s.key reply.body).map (·, reply.tag)).mapError .corrupt)

/-- Writes a token whatever is there, and gives its tag. -/
def write (s : SnapshotStore) (token : Bytes) : Program Error String :=
  .call (.put s.place token) fun
    | .error f => .done (.error (.failed f))
    | .ok reply => .done (.ok (shownTag reply.tag))

/-- The staging place of a name that is used once. -/
def staging (s : SnapshotStore) (name : String) : Place :=
  { s.place with key := s.place.key ++ ".staging-" ++ name }

/-- What a conditional write ends in, by the results of its copy and of its cleaning up. A refusal
to clean up does not matter. -/
def settle (s : SnapshotStore) (tag : String) (copied deleted : Except Failure Reply) :
    Except Error String :=
  match deleted, copied with
  | .error (.unreachable address), _ => .error (.failed (.unreachable address))
  | _, .ok reply => .ok (shownTag reply.tag)
  | _, .error f =>
    if f.isPrecondition then .error (.changed s.location tag) else .error (.failed f)

/-- Writes a token over the object that has the tag. -/
def writeIfMatch (s : SnapshotStore) (token : Bytes) (tag name : String) : Program Error String :=
  .call (.put (s.staging name) token) fun
    | .error f => .done (.error (.failed f))
    | .ok _ =>
      .call (.copy s.place (s.staging name) tag) fun copied =>
        .call (.delete (s.staging name)) fun deleted => .done (s.settle tag copied deleted)

end SnapshotStore

end CovertVault.Backup
