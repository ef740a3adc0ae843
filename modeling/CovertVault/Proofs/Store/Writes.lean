import CovertVault.Proofs.Store.Ready

namespace CovertVault.Store

variable {s t : Store}

theorem nextId_ok {task : Task} {last id : Int} (h : nextId task last = .ok id) :
    id = last + 1 ∧ fitsColumn id = true := by
  unfold nextId at h
  split at h
  · next hf =>
    cases h
    exact ⟨rfl, hf⟩
  · cases h

theorem putFile_ok {name ext : String} {ciphertext : Bytes} {size id : Int} {now : Time.Present}
    (h : s.putFile name ext ciphertext size now = .ok (id, t)) :
    ∃ time, now = .ok time ∧ (id = s.db.lastFile + 1 ∧ fitsColumn id = true) ∧
      t = s.addFile ⟨⟨id, name, ext, size, time⟩, ciphertext⟩ := by
  unfold putFile at h
  obtain ⟨-, -, h⟩ := bind_eq_ok h
  obtain ⟨time, ht, h⟩ := bind_eq_ok h
  obtain ⟨-, -, h⟩ := bind_eq_ok h
  obtain ⟨n, hn, h⟩ := bind_eq_ok h
  obtain ⟨-, -, h⟩ := bind_eq_ok h
  cases h
  exact ⟨time, mapError_eq_ok ht, nextId_ok hn, rfl⟩

theorem deleteFile_ok {id : Int} (h : s.deleteFile id = .ok t) : t = s.removeFile id := by
  unfold deleteFile at h
  obtain ⟨-, -, h⟩ := bind_eq_ok h
  dsimp only at h
  split at h
  · obtain ⟨-, -, h⟩ := bind_eq_ok h
    exact (Except.ok.inj h).symm
  · exact (Except.ok.inj h).symm

theorem setPinDigest_ok {digest : Option String} {canary : Option Bytes}
    (h : s.setPinDigest digest canary = .ok t) :
    t = s.withDatabase { s.db with secret := ⟨digest, canary, false⟩ } := by
  unfold setPinDigest at h
  obtain ⟨-, -, h⟩ := bind_eq_ok h
  obtain ⟨-, -, h⟩ := bind_eq_ok h
  exact (Except.ok.inj h).symm

theorem rekeyRows_ok {transform : Bytes → Bytes} {k : Nat} {rows rows' : List FileRecord}
    (h : s.rekeyRows (fun _ c => (.ok (transform c) : Except Empty Bytes)) k rows = .ok rows') :
    rows' = rows.map fun r => { r with ciphertext := transform r.ciphertext } := by
  induction rows generalizing k rows' with
  | nil =>
    cases h
    rfl
  | cons r rows ih =>
    unfold rekeyRows at h
    obtain ⟨c, hc, h⟩ := bind_eq_ok h
    obtain ⟨-, -, h⟩ := bind_eq_ok h
    obtain ⟨rest, hr, h⟩ := bind_eq_ok h
    cases hc
    cases h
    rw [ih hr, List.map_cons]

theorem rekeyFiles_ok {transform : Bytes → Bytes} {digest : Option String} {canary : Option Bytes}
    {n : Nat}
    (h : s.rekeyFiles (fun _ c => (.ok (transform c) : Except Empty Bytes)) digest canary =
      .ok (n, t)) :
    n = s.db.files.length ∧ t = s.withSecret ⟨digest, canary, false⟩ transform := by
  unfold rekeyFiles at h
  obtain ⟨-, -, h⟩ := bind_eq_ok h
  obtain ⟨rows, hr, h⟩ := bind_eq_ok h
  obtain ⟨-, -, h⟩ := bind_eq_ok h
  cases h
  rw [rekeyRows_ok hr, List.length_map]
  exact ⟨rfl, rfl⟩

/-- Whatever becomes of the ciphertexts, the files are listed as before. -/
theorem rekeyRows_metas {ε : Type} {transform : Nat → Bytes → Except ε Bytes} {k : Nat}
    {rows rows' : List FileRecord} (h : s.rekeyRows transform k rows = .ok rows') :
    rows'.map (·.toFileMeta) = rows.map (·.toFileMeta) := by
  induction rows generalizing k rows' with
  | nil =>
    cases h
    rfl
  | cons r rows ih =>
    unfold rekeyRows at h
    obtain ⟨c, -, h⟩ := bind_eq_ok h
    obtain ⟨-, -, h⟩ := bind_eq_ok h
    obtain ⟨rest, hr, h⟩ := bind_eq_ok h
    cases h
    rw [List.map_cons, List.map_cons, ih hr]

theorem rekeyFiles_metas {ε : Type} {transform : Nat → Bytes → Except ε Bytes}
    {digest : Option String} {canary : Option Bytes} {n : Nat}
    (h : s.rekeyFiles transform digest canary = .ok (n, t)) :
    ∃ files, files.map (·.toFileMeta) = s.db.files.map (·.toFileMeta) ∧
      t = s.withDatabase { s.db with files := files, secret := ⟨digest, canary, false⟩ } := by
  unfold rekeyFiles at h
  obtain ⟨-, -, h⟩ := bind_eq_ok h
  obtain ⟨rows, hr, h⟩ := bind_eq_ok h
  obtain ⟨-, -, h⟩ := bind_eq_ok h
  cases h
  exact ⟨rows, rekeyRows_metas hr, rfl⟩

/-- The store with one more calculation. -/
def addCalculation (s : Store) (row : HistoryRecord) : Store :=
  s.withDatabase { s.db with history := s.db.history ++ [row], lastHistory := row.id }

theorem appendHistory_ok {expression result : String} {at? : Option String} {id : Int}
    {now : Time.Present} (h : s.appendHistory expression result at? now = .ok (id, t)) :
    ∃ time, timeOr at? now = .ok time ∧ (id = s.db.lastHistory + 1 ∧ fitsColumn id = true) ∧
      t = s.addCalculation ⟨id, expression, result, time⟩ := by
  unfold appendHistory at h
  obtain ⟨-, -, h⟩ := bind_eq_ok h
  obtain ⟨time, ht, h⟩ := bind_eq_ok h
  obtain ⟨n, hn, h⟩ := bind_eq_ok h
  obtain ⟨-, -, h⟩ := bind_eq_ok h
  cases h
  exact ⟨time, ht, nextId_ok hn, rfl⟩

/-- The store without a calculation. -/
def removeCalculation (s : Store) (id : Int) : Store :=
  s.withDatabase { s.db with history := s.db.history.filter (·.id ≠ id) }

theorem deleteHistory_ok {id : Int} (h : s.deleteHistory id = .ok t) :
    t = s.removeCalculation id := by
  unfold deleteHistory at h
  obtain ⟨-, -, h⟩ := bind_eq_ok h
  dsimp only at h
  split at h
  · obtain ⟨-, -, h⟩ := bind_eq_ok h
    exact (Except.ok.inj h).symm
  · exact (Except.ok.inj h).symm

theorem clearHistory_ok (h : s.clearHistory = .ok t) :
    t = s.withDatabase { s.db with history := [] } := by
  unfold clearHistory at h
  obtain ⟨-, -, h⟩ := bind_eq_ok h
  obtain ⟨-, -, h⟩ := bind_eq_ok h
  exact (Except.ok.inj h).symm

end CovertVault.Store
