import CovertVault.Backup.Saving
import CovertVault.Proofs.Backup.Service
import CovertVault.Proofs.Seal.Opening

namespace CovertVault.Backup

/-- A snapshot to be written, and what it is sealed with. -/
structure Draft where
  snapshot : Snapshot
  time : UInt64
  iv : Cipher.Aes.Block
deriving DecidableEq

namespace SnapshotStore

def tokenOf (s : SnapshotStore) (d : Draft) : Except Seal.NumberError Bytes :=
  Seal.sealSnapshot s.key d.iv d.time d.snapshot

/-- A program that needs the token of a draft. -/
def sealing (s : SnapshotStore) (d : Draft) (write : Bytes → Program Error String) :
    Program Error String :=
  match s.tokenOf d with
  | .error e => .done (.error (.number e))
  | .ok token => write token

theorem sealing_of_error {s : SnapshotStore} {d : Draft} {e : Seal.NumberError}
    (h : s.tokenOf d = .error e) (write : Bytes → Program Error String) :
    s.sealing d write = .done (.error (.number e)) := by
  unfold sealing
  rw [h]

theorem sealing_of_ok {s : SnapshotStore} {d : Draft} {token : Bytes} (h : s.tokenOf d = .ok token)
    (write : Bytes → Program Error String) : s.sealing d write = write token := by
  unfold sealing
  rw [h]

/-- Writes a snapshot whatever is there. -/
def storing (s : SnapshotStore) (d : Draft) : Program Error String := s.sealing d s.write

/-- Writes a snapshot over the object that has the tag. -/
def replacing (s : SnapshotStore) (d : Draft) (tag name : String) : Program Error String :=
  s.sealing d fun token => s.writeIfMatch token tag name

section Saving
variable {ω T : Type} {env : Surroundings ω T} {w : ω} {time : UInt64} {iv : Cipher.Aes.Block}

theorem save_eq_storing (h : env.sealing w = .ok (time, iv)) (s : SnapshotStore)
    (snapshot : Snapshot) :
    s.save env snapshot none w = (s.storing ⟨snapshot, time, iv⟩).run env.callBucket w := by
  unfold save storing sealing tokenOf Seal.sealSnapshot
  rw [h]
  cases Seal.plainText snapshot <;> rfl

theorem save_eq_replacing (h : env.sealing w = .ok (time, iv)) (s : SnapshotStore)
    {snapshot : Snapshot} {plain : List Char} (hp : Seal.plainText snapshot = .ok plain)
    (tag : String) :
    s.save env snapshot (some tag) w =
      (s.replacing ⟨snapshot, time, iv⟩ tag (env.freshName w).1).run env.callBucket
        (env.freshName w).2 := by
  unfold save replacing sealing tokenOf Seal.sealSnapshot
  rw [h, hp]
  rfl

end Saving

end SnapshotStore

/-- What is done with the snapshot, by one of those who share it. -/
inductive Job where
  | read
  | write (d : Draft)
  | replace (d : Draft) (tag name : String)

namespace Job
variable (s : SnapshotStore)

/-- The call that a job waits for, after some answers. -/
def next? : Job → List Exchange → Option Call
  | .read, es => (s.read.resume es).awaits?
  | .write d, es => ((s.storing d).resume es).awaits?
  | .replace d tag name, es => ((s.replacing d tag name).resume es).awaits?

def Follows : Job → List Exchange → Prop
  | .read, es => s.read.Follows es
  | .write d, es => (s.storing d).Follows es
  | .replace d tag name, es => (s.replacing d tag name).Follows es

variable {s}

theorem Follows.snoc {j : Job} {es : List Exchange} (h : j.Follows s es) {c : Call}
    (hc : j.next? s es = some c) (reply : Except Failure Reply) :
    j.Follows s (es ++ [⟨c, reply⟩]) := by
  cases j with
  | read | write | replace => exact Program.Follows.snoc h hc reply

end Job

theorem openSnapshot_tokenOf {s : SnapshotStore} {d : Draft} {token : Bytes}
    (h : s.tokenOf d = .ok token) : Seal.openSnapshot s.key token = .ok d.snapshot := by
  unfold SnapshotStore.tokenOf at h
  rw [Seal.sealSnapshot_eq] at h
  split at h
  · next hn =>
    cases h
    exact Seal.openSnapshot_sealText s.key d.iv d.time hn
  · cases h

/-- As long as the cleaning up is answered, a conditional write ends as its copy did. -/
theorem settle_of_answered (s : SnapshotStore) (tag : String) (copied : Except Failure Reply)
    {deleted : Except Failure Reply} (h : ∀ address, deleted ≠ .error (.unreachable address)) :
    s.settle tag copied deleted =
      match copied with
      | .ok reply => .ok (shownTag reply.tag)
      | .error f =>
        if f.isPrecondition then .error (.changed s.location tag) else .error (.failed f) := by
  match deleted, h with
  | .error (.unreachable address), h => exact absurd rfl (h address)
  | .error (.refused op code), _ => cases copied <;> rfl
  | .ok reply, _ => cases copied <;> rfl

theorem settle_eq_ok {s : SnapshotStore} {tag told : String} {copied deleted : Except Failure Reply}
    (h : s.settle tag copied deleted = .ok told) : ∃ reply, copied = .ok reply := by
  cases copied with
  | ok reply => exact ⟨reply, rfl⟩
  | error f =>
    match deleted, h with
    | .error (.unreachable address), h => cases h
    | .error (.refused op code), h | .ok reply, h =>
      unfold SnapshotStore.settle at h
      dsimp only at h
      split at h <;> cases h

section Course
variable {s : SnapshotStore} {d : Draft} {tag name : String} {es : List Exchange}

theorem follows_read (h : s.read.Follows es) :
    es = [] ∨ ∃ reply, es = [⟨.get s.place, reply⟩] := by
  match es, h with
  | [], _ => exact .inl rfl
  | [⟨_, reply⟩], h =>
    obtain ⟨rfl, -⟩ := h
    exact .inr ⟨reply, rfl⟩
  | ⟨_, .error f⟩ :: _ :: _, h => exact h.2.elim
  | ⟨_, .ok r⟩ :: _ :: _, h => exact h.2.elim

theorem follows_storing (h : (s.storing d).Follows es) :
    es = [] ∨ ∃ token reply, s.tokenOf d = .ok token ∧ es = [⟨.put s.place token, reply⟩] := by
  unfold SnapshotStore.storing at h
  cases hs : s.tokenOf d with
  | error e =>
    rw [SnapshotStore.sealing_of_error hs] at h
    cases es with
    | nil => exact .inl rfl
    | cons => exact h.elim
  | ok token =>
    rw [SnapshotStore.sealing_of_ok hs] at h
    match es, h with
    | [], _ => exact .inl rfl
    | [⟨_, reply⟩], h =>
      obtain ⟨rfl, -⟩ := h
      exact .inr ⟨token, reply, rfl, rfl⟩
    | ⟨_, .error f⟩ :: _ :: _, h => exact h.2.elim
    | ⟨_, .ok r⟩ :: _ :: _, h => exact h.2.elim

/-- How far a conditional write has come: it has put its token into its staging place, has tried to
copy it, and has cleaned up. -/
inductive Replacing (s : SnapshotStore) (tag name : String) (token : Bytes) : List Exchange → Prop
  | staged (reply : Except Failure Reply) :
      Replacing s tag name token [⟨.put (s.staging name) token, reply⟩]
  | copied (stored : Reply) (reply : Except Failure Reply) :
      Replacing s tag name token
        [⟨.put (s.staging name) token, .ok stored⟩, ⟨.copy s.place (s.staging name) tag, reply⟩]
  | cleaned (stored : Reply) (copied reply : Except Failure Reply) :
      Replacing s tag name token
        [⟨.put (s.staging name) token, .ok stored⟩, ⟨.copy s.place (s.staging name) tag, copied⟩,
          ⟨.delete (s.staging name), reply⟩]

theorem follows_replacing (h : (s.replacing d tag name).Follows es) :
    es = [] ∨ ∃ token, s.tokenOf d = .ok token ∧ Replacing s tag name token es := by
  unfold SnapshotStore.replacing at h
  cases hs : s.tokenOf d with
  | error e =>
    rw [SnapshotStore.sealing_of_error hs] at h
    cases es with
    | nil => exact .inl rfl
    | cons => exact h.elim
  | ok token =>
    rw [SnapshotStore.sealing_of_ok hs] at h
    match es, h with
    | [], _ => exact .inl rfl
    | [⟨_, reply⟩], h =>
      obtain ⟨rfl, -⟩ := h
      exact .inr ⟨token, rfl, .staged reply⟩
    | ⟨_, .error f⟩ :: _ :: _, h => exact h.2.elim
    | [⟨_, .ok stored⟩, ⟨_, reply⟩], h =>
      obtain ⟨rfl, rfl, -⟩ := h
      exact .inr ⟨token, rfl, .copied stored reply⟩
    | [⟨_, .ok stored⟩, ⟨_, copied⟩, ⟨_, reply⟩], h =>
      obtain ⟨rfl, rfl, rfl, -⟩ := h
      exact .inr ⟨token, rfl, .cleaned stored copied reply⟩
    | ⟨_, .ok _⟩ :: ⟨_, _⟩ :: ⟨_, _⟩ :: _ :: _, h => exact h.2.2.2.elim

/-- A conditional write that is at its end. -/
theorem result_replacing (hf : (s.replacing d tag name).Follows es) {r : Except Error String}
    (hr : ((s.replacing d tag name).resume es).result? = some r) :
    (∃ e, s.tokenOf d = .error e ∧ es = [] ∧ r = .error (.number e)) ∨
    (∃ token f, es = [⟨.put (s.staging name) token, .error f⟩] ∧ r = .error (.failed f)) ∨
    ∃ token stored copied deleted,
      es = [⟨.put (s.staging name) token, .ok stored⟩,
        ⟨.copy s.place (s.staging name) tag, copied⟩, ⟨.delete (s.staging name), deleted⟩] ∧
      r = s.settle tag copied deleted := by
  have hes := follows_replacing hf
  unfold SnapshotStore.replacing at hr
  cases ht : s.tokenOf d with
  | error e =>
    rw [SnapshotStore.sealing_of_error ht] at hr
    obtain rfl | ⟨_, hok, -⟩ := hes
    · cases hr
      exact .inl ⟨e, rfl, rfl, rfl⟩
    · rw [ht] at hok
      cases hok
  | ok token =>
    rw [SnapshotStore.sealing_of_ok ht] at hr
    obtain rfl | ⟨token', -, hes⟩ := hes
    · cases hr
    · cases hes with
      | staged reply =>
        cases reply with
        | error f =>
          cases hr
          exact .inr (.inl ⟨token', f, rfl, rfl⟩)
        | ok stored => cases hr
      | copied => cases hr
      | cleaned stored copied reply =>
        cases hr
        exact .inr (.inr ⟨token', stored, copied, reply, rfl, rfl⟩)

end Course

/-- The call that a job makes next, and how far it has come. -/
inductive Next (s : SnapshotStore) : Job → List Exchange → Call → Prop
  | get : Next s .read [] (.get s.place)
  | put {d : Draft} {token : Bytes} : s.tokenOf d = .ok token →
      Next s (.write d) [] (.put s.place token)
  | stage {d : Draft} {tag name : String} {token : Bytes} : s.tokenOf d = .ok token →
      Next s (.replace d tag name) [] (.put (s.staging name) token)
  | copy {d : Draft} {tag name : String} {token : Bytes} {stored : Reply} :
      s.tokenOf d = .ok token →
      Next s (.replace d tag name) [⟨.put (s.staging name) token, .ok stored⟩]
        (.copy s.place (s.staging name) tag)
  | clean {d : Draft} {tag name : String} {token : Bytes} {stored : Reply}
      {copied : Except Failure Reply} : s.tokenOf d = .ok token →
      Next s (.replace d tag name)
        [⟨.put (s.staging name) token, .ok stored⟩, ⟨.copy s.place (s.staging name) tag, copied⟩]
        (.delete (s.staging name))

theorem next_of_follows {j : Job} {es : List Exchange} {c : Call} (hf : j.Follows s es)
    (hc : j.next? s es = some c) : Next s j es c := by
  cases j with
  | read =>
    obtain rfl | ⟨reply, rfl⟩ := follows_read hf
    · cases hc
      exact .get
    · cases reply <;> cases hc
  | write d =>
    have hes := follows_storing hf
    change ((s.sealing d s.write).resume es).awaits? = some c at hc
    cases ht : s.tokenOf d with
    | error e =>
      rw [SnapshotStore.sealing_of_error ht] at hc
      cases es <;> cases hc
    | ok token =>
      rw [SnapshotStore.sealing_of_ok ht] at hc
      obtain rfl | ⟨_, reply, -, rfl⟩ := hes
      · cases hc
        exact .put ht
      · cases reply <;> cases hc
  | replace d tag name =>
    have hes := follows_replacing hf
    change ((s.sealing d fun token => s.writeIfMatch token tag name).resume es).awaits? = some c
      at hc
    cases ht : s.tokenOf d with
    | error e =>
      rw [SnapshotStore.sealing_of_error ht] at hc
      cases es <;> cases hc
    | ok token =>
      rw [SnapshotStore.sealing_of_ok ht] at hc
      rw [ht] at hes
      -- What has been answered so far tells how far the job has come.
      obtain rfl | ⟨_, hok, hes⟩ := hes
      · cases hc
        exact .stage ht
      · cases hok
        cases hes with
        | staged reply =>
          cases reply with
          | error f => cases hc
          | ok stored =>
            cases hc
            exact .copy ht
        | copied stored reply =>
          cases hc
          exact .clean ht
        | cleaned => cases hc

end CovertVault.Backup
