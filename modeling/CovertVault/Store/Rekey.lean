import CovertVault.Store.Files
import CovertVault.Text.Unencodable

namespace CovertVault.Store

variable {ε : Type}

/-- A transaction under way: the store as its statements have left it, and the database that a
rollback goes back to. -/
structure Transaction where
  current : Store
  kept : Database
deriving Repr, DecidableEq

/-- What code that runs between statements fails with: an error of the database, which counts as
one of the statements', or an error of its own. -/
inductive Raised (ε : Type) where
  | database
  | other (e : ε)
deriving Repr, DecidableEq

/-- Why a transaction fails: for what it runs, or for a digest without a UTF-8 form. -/
inductive RekeyFailure (ε : Type) where
  | store (e : Error)
  | transform (e : ε)
  | unencodable (e : Text.Unencodable)

def Raised.escaped : Raised ε → RekeyFailure ε
  | .database => .store (.failed .rekeyFiles)
  | .other e => .transform e

/-- Code that is called in a transaction for the new ciphertext of a file, with the number of the
calls before. It may work on the store itself. -/
abbrev Rewriter (ε : Type) := Nat → Bytes → Transaction → Except (Raised ε) Bytes × Transaction

/-- Code that leaves the store alone. -/
def Rewriter.apart (transform : Nat → Bytes → Except (Raised ε) Bytes) : Rewriter ε :=
  fun k ciphertext t => (transform k ciphertext, t)

theorem Rewriter.apart_apply (transform : Nat → Bytes → Except (Raised ε) Bytes) (k : Nat)
    (ciphertext : Bytes) (t : Transaction) :
    apart transform k ciphertext t = (transform k ciphertext, t) := rfl

namespace Transaction

def begin (s : Store) : Transaction := ⟨s, s.db⟩

def rollback (t : Transaction) : Store := t.current.withDatabase t.kept

/-- An operation of the store within a transaction, which the lock lets in. It is a transaction of
its own on the same connection: its success commits what was written before it as well, and its
failure takes that back. -/
def call {α : Type} (operation : Store → Except Error (α × Store)) (t : Transaction) :
    Except Error α × Transaction :=
  match operation t.current with
  | .ok (a, s) => (.ok a, begin s)
  | .error e => (.error e, begin t.rollback)

/-- A new ciphertext in the row with an id; nothing when there is none by now. -/
def updateFile (id : Int) (ciphertext : Bytes) (t : Transaction) : Except Error Transaction := do
  let s := t.current
  s.guard .rekeyFiles []
  if s.db.files.any (·.id = id) then s.allow .rekeyFiles .files .update id
  let files := s.db.files.map fun r => if r.id = id then { r with ciphertext := ciphertext } else r
  return { t with current := s.withDatabase { s.db with files := files } }

def updateSecret (digest : Option (List Text.Point)) (canary : Option Bytes) (t : Transaction) :
    Except (RekeyFailure ε) Transaction := do
  let s := t.current
  (s.guard .rekeyFiles []).mapError .store
  let digest ← (digest.mapM Text.encodable).mapError .unencodable
  (s.allow .rekeyFiles .config .update 1).mapError .store
  return { t with current := s.withDatabase { s.db with secret := ⟨digest, canary, false⟩ } }

/-- Rewrites the files that were selected, one after another; `k` counts the calls before. -/
def rewrite (rewriter : Rewriter ε) :
    Nat → List FileRecord → Transaction → Except (RekeyFailure ε) Unit × Transaction
  | _, [], t => (.ok (), t)
  | k, r :: rest, t =>
    match rewriter k r.ciphertext t with
    | (.error e, t) => (.error e.escaped, t)
    | (.ok ciphertext, t) =>
      match t.updateFile r.id ciphertext with
      | .error e => (.error (.store e), t)
      | .ok t => rewrite rewriter (k + 1) rest t

/-- What comes out of a transaction that has failed. The rollback fails in its turn when the store
was closed on the way. -/
def failure (e : RekeyFailure ε) (t : Transaction) : RekeyFailure ε :=
  if t.current.isOpen then e else .store (.failed .rekeyFiles)

end Transaction

open Transaction

/-- Rewrites every file and stores the new secret, in one transaction; gives the number of files. -/
def rekey (rewriter : Rewriter ε) (digest : Option (List Text.Point)) (canary : Option Bytes)
    (s : Store) : Except (RekeyFailure ε) Nat × Store :=
  match s.guard .rekeyFiles [] with
  | .error e => (.error (.store e), s)
  | .ok () =>
    match rewrite rewriter 0 s.db.files (begin s) with
    | (.error e, t) => (.error (t.failure e), t.rollback)
    | (.ok (), t) =>
      match t.updateSecret digest canary with
      | .error e => (.error (t.failure e), t.rollback)
      | .ok t => (.ok s.db.files.length, t.current)

end CovertVault.Store
