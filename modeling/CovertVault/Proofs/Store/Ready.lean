import CovertVault.Proofs.Outcome
import CovertVault.Store.Files
import CovertVault.Store.History

namespace CovertVault.Store

structure Ready (s : Store) : Prop where
  isOpen : s.isOpen = true
  faults : s.db.faults = []
  hidden : s.hidden = []

theorem ready_empty : Ready empty := ⟨rfl, rfl, rfl⟩

variable {s : Store}

theorem Ready.withDatabase (h : s.Ready) {db : Database} (hf : db.faults = s.db.faults) :
    (s.withDatabase db).Ready :=
  ⟨h.isOpen, hf.trans h.faults, h.hidden⟩

theorem guard_open (ho : s.isOpen = true) (task : Task) (numbers : List Int) :
    s.guard task numbers =
      if numbers.all fitsColumn then .ok () else .error .integerTooLarge := by
  simp [Store.guard, ho]

theorem guard_nil (ho : s.isOpen = true) (task : Task) : s.guard task [] = .ok () :=
  guard_open ho task []

theorem guard_closed (hc : s.isOpen = false) (task : Task) (numbers : List Int) :
    s.guard task numbers = .error (.failed task) := by
  simp [Store.guard, hc]

theorem allow_eq (s : Store) (task : Task) (table : Table) (event : Event) (id : Int) :
    s.allow task table event id =
      if s.db.refuses table event id then .error (.failed task) else .ok () := rfl

theorem Ready.guard (h : s.Ready) (task : Task) (numbers : List Int) :
    s.guard task numbers =
      if numbers.all fitsColumn then .ok () else .error .integerTooLarge :=
  guard_open h.isOpen task numbers

theorem Ready.guard_nil (h : s.Ready) (task : Task) : s.guard task [] = .ok () :=
  Store.guard_nil h.isOpen task

theorem Ready.allow (h : s.Ready) (task : Task) (table : Table) (event : Event) (id : Int) :
    s.allow task table event id = .ok () := by
  simp [Store.allow, Database.refuses, h.faults]

theorem Ready.pinDigest (h : s.Ready) : s.pinDigest = .ok (s.db.secret.digest.filter (· ≠ "")) := by
  unfold Store.pinDigest
  rw [h.guard_nil]
  rfl

theorem Ready.canary (h : s.Ready) : s.canary = .ok s.db.secret.canary := by
  unfold Store.canary
  rw [h.guard_nil]
  rfl

theorem Ready.isFirstRun (h : s.Ready) : s.isFirstRun = .ok s.db.secret.firstRun := by
  unfold Store.isFirstRun
  rw [h.guard_nil]
  rfl

theorem Ready.setPinDigest (h : s.Ready) (digest : Option String) (canary : Option Bytes) :
    s.setPinDigest digest canary =
      .ok (s.withDatabase { s.db with secret := ⟨digest, canary, false⟩ }) := by
  unfold Store.setPinDigest
  rw [h.guard_nil, h.allow]
  rfl

/-- The store with one more file. -/
def addFile (s : Store) (row : FileRecord) : Store :=
  s.withDatabase { s.db with files := s.db.files ++ [row], lastFile := row.id }

theorem Ready.putFile (h : s.Ready) (name ext : String) (ciphertext : Bytes) (size : Int)
    (now : Time.Present) :
    (∃ e, now = .error e ∧ s.putFile name ext ciphertext size now = .error (.time e)) ∨
      (fitsColumn size = false ∧
        s.putFile name ext ciphertext size now = .error .integerTooLarge) ∨
      (fitsColumn (s.db.lastFile + 1) = false ∧
        s.putFile name ext ciphertext size now = .error (.failed .saveFile)) ∨
      ∃ time, fitsColumn (s.db.lastFile + 1) = true ∧
        s.putFile name ext ciphertext size now = .ok (s.db.lastFile + 1,
          s.addFile ⟨⟨s.db.lastFile + 1, name, ext, size, time⟩, ciphertext⟩) := by
  unfold Store.putFile
  rw [h.guard_nil, h.guard, h.allow]
  cases now with
  | error e => exact .inl ⟨e, rfl, rfl⟩
  | ok time =>
    right
    by_cases hs : fitsColumn size = true
    · right
      by_cases hi : fitsColumn (s.db.lastFile + 1) = true
      · refine .inr ⟨time, hi, ?_⟩
        simp only [List.all_cons, List.all_nil, hs, nextId, hi, Bool.and_self, if_true]
        rfl
      · refine .inl ⟨by simpa using hi, ?_⟩
        simp only [List.all_cons, List.all_nil, hs, nextId, hi, Bool.and_self, if_true]
        rfl
    · refine .inl ⟨by simpa using hs, ?_⟩
      simp only [List.all_cons, List.all_nil, hs]
      rfl

theorem fileCiphertext_open (ho : s.isOpen = true) (id : Int) :
    s.fileCiphertext id =
      if fitsColumn id then .ok ((s.findFile id).map (·.ciphertext))
      else .error .integerTooLarge := by
  unfold Store.fileCiphertext
  rw [guard_open ho]
  by_cases hi : fitsColumn id = true <;> simp [hi]

theorem getFile_open (ho : s.isOpen = true) (hh : s.hidden = []) (id : Int) :
    s.getFile id = if fitsColumn id then .ok (s.findFile id) else .error .integerTooLarge := by
  unfold Store.getFile
  rw [guard_open ho, hh]
  by_cases hi : fitsColumn id = true <;> simp [hi]

theorem Ready.getFile (h : s.Ready) (id : Int) :
    s.getFile id = if fitsColumn id then .ok (s.findFile id) else .error .integerTooLarge :=
  getFile_open h.isOpen h.hidden id

theorem listFiles_open (ho : s.isOpen = true) :
    s.listFiles = .ok (newestFirst (·.uploadedAt) (·.id) (s.db.files.map (·.toFileMeta))) := by
  unfold Store.listFiles
  rw [guard_open ho]
  rfl

theorem listHistory_open (ho : s.isOpen = true) :
    s.listHistory = .ok (newestFirst (·.calculatedAt) (·.id) s.db.history) := by
  unfold Store.listHistory
  rw [guard_open ho]
  rfl

theorem newestFirst_perm {α : Type} (time : α → String) (id : α → Int) (rows : List α) :
    (newestFirst time id rows).Perm rows :=
  List.mergeSort_perm _ _

/-- The store without a file. -/
def removeFile (s : Store) (id : Int) : Store :=
  s.withDatabase { s.db with files := s.db.files.filter (·.id ≠ id) }

theorem Ready.deleteFile (h : s.Ready) (id : Int) :
    s.deleteFile id =
      if fitsColumn id then .ok (s.removeFile id) else .error .integerTooLarge := by
  unfold Store.deleteFile
  rw [h.guard, h.allow]
  by_cases hi : fitsColumn id = true
  · simp only [List.all_cons, List.all_nil, hi, Bool.and_self, if_true]
    split <;> rfl
  · simp only [List.all_cons, List.all_nil, hi]
    rfl

/-- The store with all ciphertexts changed under a new secret. -/
def withSecret (s : Store) (secret : Secret) (transform : Bytes → Bytes) : Store :=
  s.withDatabase { s.db with
    files := s.db.files.map fun r => { r with ciphertext := transform r.ciphertext }
    secret := secret }

theorem Ready.rekeyRows (h : s.Ready) (transform : Bytes → Bytes) (k : Nat)
    (rows : List FileRecord) :
    s.rekeyRows (fun _ c => (.ok (transform c) : Except Empty Bytes)) k rows =
      .ok (rows.map fun r => { r with ciphertext := transform r.ciphertext }) := by
  induction rows generalizing k with
  | nil => rfl
  | cons r rows ih =>
    unfold Store.rekeyRows
    rw [h.allow, ih]
    rfl

theorem Ready.rekeyFiles (h : s.Ready) (transform : Bytes → Bytes) (digest : Option String)
    (canary : Option Bytes) :
    s.rekeyFiles (fun _ c => (.ok (transform c) : Except Empty Bytes)) digest canary =
      .ok (s.db.files.length, s.withSecret ⟨digest, canary, false⟩ transform) := by
  unfold Store.rekeyFiles
  rw [h.guard_nil, h.rekeyRows, h.allow]
  simp only [mapError_ok, bind, Except.bind, pure, Except.pure, List.length_map]
  rfl

end CovertVault.Store
