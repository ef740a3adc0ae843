import CovertVault.Bytes
import CovertVault.Number.Decimal

namespace CovertVault.Backup

structure Place where
  bucket : String
  key : String
deriving Repr, DecidableEq

structure Object where
  body : Bytes
  tag : String
deriving Repr, DecidableEq

inductive Operation where
  | get | put | copy | delete
deriving Repr, DecidableEq

def Operation.name : Operation → String
  | .get => "GetObject"
  | .put => "PutObject"
  | .copy => "CopyObject"
  | .delete => "DeleteObject"

inductive Failure where
  /-- The bucket refuses an operation, mostly with a code. -/
  | refused (operation : Operation) (code : Option String)
  | unreachable (address : String)
deriving Repr, DecidableEq

def Failure.message : Failure → String
  | .refused op code =>
    "An error occurred (" ++ code.getD "Unknown" ++ ") when calling the " ++ op.name
      ++ " operation: Unknown"
  | .unreachable address => "Could not connect to the endpoint URL: \"" ++ address ++ "\""

def Failure.code? : Failure → Option String
  | .refused _ code => code
  | .unreachable _ => none

def missingCode : String := "NoSuchKey"
def preconditionCode : String := "PreconditionFailed"

inductive Call where
  | get (place : Place)
  | put (place : Place) (body : Bytes)
  /-- Copies the source over the target while that has the tag. -/
  | copy (target source : Place) (tag : String)
  | delete (place : Place)
deriving Repr, DecidableEq

def Call.operation : Call → Operation
  | .get _ => .get
  | .put .. => .put
  | .copy .. => .copy
  | .delete _ => .delete

/-- What kind of content is put, and that a copy keeps the source's. -/
def contentType : String := "application/octet-stream"
def copyDirective : String := "COPY"

/-- The answer to a call: the content that was asked for, the tag as far as it is told. -/
structure Reply where
  body : Bytes
  tag : Option String
deriving Repr, DecidableEq

/-- A bucket of objects. Every object that is put or copied gets a tag of its own, and a copy can be
made to depend on the tag of the object it replaces. -/
structure Bucket where
  objects : List (Place × Object)
  /-- How many tags were given out. -/
  issued : Nat
  /-- Whether a put and a copy tell the new tag. -/
  tellsPut : Bool
  tellsCopy : Bool
  /-- What the next calls of an operation meet, in this order: a failure, or nothing. -/
  faults : List (Operation × Option Failure)
  /-- Calls, newest first. -/
  log : List Call
deriving Repr, DecidableEq

namespace Bucket

def empty : Bucket := ⟨[], 0, true, true, [], []⟩

def find? (b : Bucket) (p : Place) : Option Object := b.objects.lookup p

def nextTag (b : Bucket) : String :=
  "\"e" ++ String.ofList (Number.natText (b.issued + 1)) ++ "\""

def without (b : Bucket) (p : Place) : List (Place × Object) := b.objects.filter (·.1 ≠ p)

/-- Puts an object in the place of what is there. -/
def store (p : Place) (body : Bytes) (b : Bucket) : Bucket :=
  { b with objects := (p, ⟨body, b.nextTag⟩) :: b.without p, issued := b.issued + 1 }

def refuse (op : Operation) (code : String) : Except Failure Reply :=
  .error (.refused op (some code))

/-- The answer to a call that meets no fault. -/
def serve (b : Bucket) : Call → Except Failure Reply × Bucket
  | .get p =>
    match b.find? p with
    | some o => (.ok ⟨o.body, some o.tag⟩, b)
    | none => (refuse .get missingCode, b)
  | .put p body => (.ok ⟨[], if b.tellsPut then some b.nextTag else none⟩, b.store p body)
  | .copy target source tag =>
    if (b.find? target).map (·.tag) ≠ some tag then (refuse .copy preconditionCode, b)
    else match b.find? source with
      | none => (refuse .copy missingCode, b)
      | some o =>
        (.ok ⟨[], if b.tellsCopy then some b.nextTag else none⟩, b.store target o.body)
  | .delete p => (.ok ⟨[], none⟩, { b with objects := b.without p })

/-- The next fault of an operation, and the others. -/
def takeFault (op : Operation) :
    List (Operation × Option Failure) → Option Failure × List (Operation × Option Failure)
  | [] => (none, [])
  | (op', f) :: rest =>
    if op' = op then (f, rest)
    else
      let (found, rest) := takeFault op rest
      (found, (op', f) :: rest)

/-- The answer to a call. It is logged before it meets a fault. -/
def answer (c : Call) (b : Bucket) : Except Failure Reply × Bucket :=
  let (fault, faults) := takeFault c.operation b.faults
  let b := { b with faults := faults, log := c :: b.log }
  match fault with
  | some f => (.error f, b)
  | none => b.serve c

def isBefore (a b : Place) : Bool := a.bucket < b.bucket ∨ a.bucket = b.bucket ∧ a.key ≤ b.key

/-- All objects by bucket and key, with their tags. -/
def listing (b : Bucket) : List (Place × String) :=
  (b.objects.mergeSort fun x y => isBefore x.1 y.1).map fun (p, o) => (p, o.tag)

end Bucket

end CovertVault.Backup
