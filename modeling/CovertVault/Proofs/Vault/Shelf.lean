import CovertVault.App.Calculator
import CovertVault.App.Vault
import Mathlib.Algebra.Group.Int.Defs

namespace CovertVault.Vault

inductive Call where
  | setupPin (new confirm : String)
  | unlock (pin : String)
  | upload (name : String) (data : Bytes)
  | read (id : Int)
  | list
  | delete (id : Int)
  | deleteAll (ids : List Int)
  | changePin (current new confirm : String)
deriving Repr, DecidableEq

/-- The texts that a call uses as PINs. -/
def Call.pins : Call → List String
  | .setupPin new _ => [new]
  | .unlock pin => [pin]
  | .changePin current new _ => [current, new]
  | _ => []

/-- Whether a call needs a session. -/
def Call.isInside : Call → Bool
  | .setupPin .. | .unlock _ => false
  | _ => true

inductive Reply where
  | done
  | uploaded (f : FileMeta)
  | content (data : Bytes)
  | listed (files : List FileMeta)
  | count (n : Nat)
  /-- No PIN has opened the vault yet. -/
  | locked
  | failed (e : App.Failure)
deriving Repr, DecidableEq

def Reply.of {α : Type} (answer : α → Reply) : Except App.Failure α → Reply
  | .ok a => answer a
  | .error e => .failed e

variable {ω T : Type} [Remote.TimeScale T] (env : Surroundings ω T)

/-- What a call answers, and the session, the app and the surroundings after it. -/
def perform : Call → Option Session → App T × ω → Reply × Option Session × App T × ω
  | .setupPin new confirm, v, s =>
    let (r, s) := App.setupPin env new confirm s
    (.of (fun _ => .done) r, v, s)
  | .unlock pin, v, s =>
    match App.unlock env pin s with
    | (.ok opened, s) => (.done, some opened, s)
    | (.error e, s) => (.failed e, v, s)
  | _, none, s => (.locked, none, s)
  | .upload name data, some v, s =>
    let (r, s) := App.upload env name data v s
    (.of .uploaded r, some v, s)
  | .read id, some v, s =>
    let (r, s) := App.content env id v s
    (.of .content r, some v, s)
  | .list, some v, s =>
    let (r, s) := App.listFiles env s
    (.of .listed r, some v, s)
  | .delete id, some v, s =>
    let (r, s) := App.deleteFile env id s
    (.of (fun _ => .done) r, some v, s)
  | .deleteAll ids, some v, s =>
    let (r, s) := App.each (App.deleteFile env) ids s
    (.of .count r, some v, s)
  | .changePin current new confirm, some v, s =>
    let ((r, v), s) := App.changePin env current new confirm v s
    (.of .count r, some v, s)

structure Entry where
  name : String
  extension : String
  data : Bytes
deriving Repr, DecidableEq

structure Shelf where
  /-- The PIN in force. -/
  pin : Option String
  /-- Whether a PIN has opened the vault. -/
  isOpen : Bool
  entries : Int → Option Entry
  /-- The last id given out. -/
  last : Int

namespace Shelf

def empty : Shelf := ⟨none, false, fun _ => none, 0⟩

def put (σ : Shelf) (id : Int) (x : Entry) : Shelf :=
  { σ with entries := fun i => if i = id then some x else σ.entries i, last := id }

def erase (σ : Shelf) (ids : List Int) : Shelf :=
  { σ with entries := fun i => if i ∈ ids then none else σ.entries i }

/-- The answer to a change, unless a failure of the remote copy comes in its place. -/
def Told (r answer : Reply) : Prop := r = answer ∨ ∃ e, r = .failed (.remote e)

/-- A listing shows every file once, with its name, its extension and the length of its content. -/
structure Lists (σ : Shelf) (files : List FileMeta) : Prop where
  once : (files.map (·.id)).Nodup
  all : ∀ id, (∃ f ∈ files, f.id = id) ↔ (σ.entries id).isSome
  right : ∀ f ∈ files, ∃ x, σ.entries f.id = some x ∧ f.displayName = x.name ∧
    f.extension = x.extension ∧ f.size = x.data.length

/-- Why an upload is refused: the clock has no stamp, the content is too long for its length to be
kept, or all ids are used up. -/
inductive Refuses (σ : Shelf) (data : Bytes) : Store.Error → Prop
  | noTime (e : Time.StampError) : Refuses σ data (.time e)
  | tooLong : 2 ^ 63 ≤ (data.length : Int) → Refuses σ data .integerTooLarge
  | usedUp : σ.last = 2 ^ 63 - 1 → Refuses σ data (.failed .saveFile)

/-- Ids that a call may look for. -/
def InColumn (id : Int) : Prop := -2 ^ 63 ≤ id ∧ id < 2 ^ 63

/-- One call: what it may answer, and the shelf after it. Ids that do not fit 64 bits are refused
before anything is looked for. -/
inductive Step (σ : Shelf) : Call → Reply → Shelf → Prop
  | setupPin {new : String} {r : Reply} : σ.pin = none → Pin.isValid new = true → Told r .done →
      Step σ (.setupPin new new) r { σ with pin := some new }
  | setupRefused {new confirm : String} (e : PinError) :
      σ.pin.isSome ∨ Pin.isValid new = false ∨ new ≠ confirm →
      Step σ (.setupPin new confirm) (.failed (.vault (.pin e))) σ
  | unlock {pin : String} : σ.pin = some pin → Step σ (.unlock pin) .done { σ with isOpen := true }
  | unlockRefused {pin : String} : σ.pin ≠ some pin →
      Step σ (.unlock pin) (.failed (.vault (.mismatch .door))) σ
  | locked {c : Call} : c.isInside = true → σ.isOpen = false → Step σ c .locked σ
  | upload {name : String} {data : Bytes} {f : FileMeta} {r : Reply} : σ.isOpen = true →
      σ.last < f.id → f.displayName = name → f.extension = Files.extension name →
      f.size = data.length → Told r (.uploaded f) →
      Step σ (.upload name data) r (σ.put f.id ⟨name, Files.extension name, data⟩)
  | uploadRefused {name : String} {data : Bytes} {e : Store.Error} : σ.isOpen = true →
      Refuses σ data e → Step σ (.upload name data) (.failed (.vault (.store e))) σ
  | read {id : Int} {x : Entry} : σ.isOpen = true → σ.entries id = some x →
      Step σ (.read id) (.content x.data) σ
  | readMissing {id : Int} : σ.isOpen = true → σ.entries id = none → -2 ^ 63 ≤ id →
      id < 2 ^ 63 → Step σ (.read id) (.failed (.vault (.missing id))) σ
  | readTooLarge {id : Int} : σ.isOpen = true → σ.entries id = none →
      id < -2 ^ 63 ∨ 2 ^ 63 ≤ id → Step σ (.read id) (.failed (.vault (.store .integerTooLarge))) σ
  | list {files : List FileMeta} : σ.isOpen = true → σ.Lists files →
      Step σ .list (.listed files) σ
  | delete {id : Int} {r : Reply} : σ.isOpen = true → InColumn id → Told r .done →
      Step σ (.delete id) r (σ.erase [id])
  | deleteTooLarge {id : Int} : σ.isOpen = true → id < -2 ^ 63 ∨ 2 ^ 63 ≤ id →
      Step σ (.delete id) (.failed (.store .integerTooLarge)) σ
  | deleteAll {ids : List Int} : σ.isOpen = true → (∀ id ∈ ids, InColumn id) →
      Step σ (.deleteAll ids) (.count ids.length) (σ.erase ids)
  | deleteStopped {front rest : List Int} {id : Int} : σ.isOpen = true →
      (∀ i ∈ front, InColumn i) → id < -2 ^ 63 ∨ 2 ^ 63 ≤ id →
      Step σ (.deleteAll (front ++ id :: rest)) (.failed (.store .integerTooLarge)) (σ.erase front)
  | deleteUntold {front rest : List Int} (e : Remote.Error) : σ.isOpen = true → front ≠ [] →
      (∀ i ∈ front, InColumn i) →
      Step σ (.deleteAll (front ++ rest)) (.failed (.remote e)) (σ.erase front)
  | changePin {current new : String} {n : Nat} {r : Reply} : σ.isOpen = true →
      σ.pin = some current → Pin.isValid new = true → current ≠ new → Told r (.count n) →
      Step σ (.changePin current new new) r { σ with pin := some new }
  | changeRefused {current new confirm : String} {e : Error} : σ.isOpen = true →
      (∃ p, e = .pin p) ∨ (∃ m, e = .mismatch m) →
      σ.pin ≠ some current ∨ Pin.isValid new = false ∨ new ≠ confirm ∨ current = new →
      Step σ (.changePin current new confirm) (.failed (.vault e)) σ

/-- Calls with their answers that lead from one shelf to another. -/
inductive Run : Shelf → List (Call × Reply) → Shelf → Prop
  | nil {σ : Shelf} : Run σ [] σ
  | cons {σ τ υ : Shelf} {c : Call} {r : Reply} {t : List (Call × Reply)} :
      Step σ c r τ → Run τ t υ → Run σ ((c, r) :: t) υ

end Shelf

end CovertVault.Vault
