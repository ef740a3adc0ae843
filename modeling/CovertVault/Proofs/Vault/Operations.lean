import CovertVault.Proofs.Store.Orderly
import CovertVault.Proofs.Vault.Secret

namespace CovertVault.Vault
open Store

variable {store t : Store} {new confirm digest : String}

theorem setupPin_eq_ok (h : setupPin new confirm store = .ok (digest, t)) :
    Pin.isValid new = true ∧ digest = Pin.digest new ∧
      t = store.withDatabase { store.db with secret := .ofPin new } := by
  unfold setupPin at h
  obtain ⟨_, hn, h⟩ := bind_eq_ok h
  obtain ⟨first, -, h⟩ := bind_eq_ok h
  dsimp only at h
  split at h
  · cases h
  · obtain ⟨u, hu, h⟩ := bind_eq_ok h
    cases h
    exact ⟨isValid_of_checkNew hn, rfl, setPinDigest_ok (mapError_eq_ok hu)⟩

/-- A change of the PIN is refused and leaves all as it was, or takes every file along. -/
theorem Session.changePin_cases (v : Session) (current new confirm : String) (store : Store) :
    (∃ e, v.changePin current new confirm store = (.error e, v, store)) ∨
      Pin.isValid new = true ∧ ∃ n, v.changePin current new confirm store =
        (.ok n, ⟨new⟩, store.withSecret (.ofPin new) (rekeyed current new)) := by
  unfold Session.changePin
  cases hk : checkChange current new confirm store with
  | error e => exact .inl ⟨e, rfl⟩
  | ok _ =>
    dsimp only
    split
    · next n t h =>
      obtain ⟨-, rfl⟩ := rekeyFiles_ok h
      have hn : checkNew new confirm = .ok () := by
        obtain ⟨_, hn, -⟩ := bind_eq_ok hk
        exact hn
      exact .inr ⟨isValid_of_checkNew hn, n, rfl⟩
    · next e h => exact .inl ⟨_, rfl⟩

/-- An upload is refused and leaves the store alone, or gives the new row. -/
theorem Session.upload_cases (h : store.Orderly) (v : Session) (now : Time.Present) (name : String)
    (data : Bytes) :
    (∃ e, v.upload now name data store = (.error e, store)) ∨
      ∃ row, v.upload now name data store = (.ok row, store.addFile row) ∧
        row.id = store.db.lastFile + 1 ∧ fitsColumn row.id = true := by
  unfold Session.upload Session.keep
  cases hp : store.putFile name (Files.extension name) (v.encrypt data) data.length now with
  | error e => exact .inl ⟨_, rfl⟩
  | ok p =>
    obtain ⟨id, t⟩ := p
    obtain ⟨time, -, ⟨hi, hf⟩, rfl⟩ := putFile_ok hp
    let row : FileRecord := ⟨⟨id, name, Files.extension name, data.length, time⟩, v.encrypt data⟩
    have ha : (store.addFile row).Orderly := h.addFile hi hf
    have hr : row ∈ (store.addFile row).db.files :=
      List.mem_append_right _ (List.mem_singleton.2 rfl)
    have hg : (store.addFile row).getFile id = .ok (some row) := by
      rw [ha.ready.getFile, if_pos hf, ← ha.findFile hr]
    dsimp only
    rw [hg]
    exact .inr ⟨row, rfl, hi, hf⟩

theorem mapM_getFile (h : store.Ready) {files : List FileMeta}
    (hf : ∀ f ∈ files, fitsColumn f.id = true) :
    files.mapM (fun f => store.getFile f.id) = .ok (files.map fun f => store.findFile f.id) := by
  induction files with
  | nil => rfl
  | cons f files ih =>
    have hg := h.getFile f.id
    rw [if_pos (hf f List.mem_cons_self)] at hg
    rw [List.mapM_cons, hg, ih fun g hg => hf g (List.mem_cons_of_mem _ hg)]
    rfl

/-- All files are read, each once. -/
theorem records_perm (h : store.Orderly) :
    ∃ files, records store = .ok files ∧ files.Perm store.db.files := by
  obtain ⟨listed, hl, hp⟩ : ∃ listed, store.listFiles = .ok listed ∧
      listed.Perm (store.db.files.map (·.toFileMeta)) :=
    ⟨_, Store.listFiles_open h.ready.isOpen, newestFirst_perm _ _ _⟩
  have hfits : ∀ f ∈ listed, fitsColumn f.id = true := by
    intro f hf
    obtain ⟨r, hr, rfl⟩ := List.mem_map.1 (hp.mem_iff.1 hf)
    exact h.files.fits r hr
  have hm := mapM_getFile h.ready hfits
  refine ⟨(listed.map fun f => store.findFile f.id).filterMap id, ?_, ?_⟩
  · unfold records
    simp only [hl, hm, ok_bind, pure_eq_ok]
  · have hs : store.db.files.filterMap (fun f => store.findFile f.id) = store.db.files := by
      rw [List.filterMap_congr fun r hr => h.findFile hr]
      exact List.filterMap_some
    rw [List.filterMap_map]
    refine (hp.filterMap _).trans ?_
    rw [List.filterMap_map]
    exact .of_eq hs

/-- A snapshot holds what the store does. -/
theorem snapshot_ok (h : store.Orderly) {now : Time.Present} {all : Snapshot}
    (hs : snapshot now store = .ok all) :
    all.pinDigest = store.db.secret.digest ∧ all.files.Perm store.db.files ∧
      all.history.Perm store.db.history := by
  obtain ⟨files, hf, hp⟩ := records_perm h
  unfold snapshot at hs
  rw [hf, h.ready.pinDigest, Store.listHistory_open h.ready.isOpen] at hs
  obtain ⟨files', hf', hs⟩ := bind_eq_ok (mapError_eq_ok hs)
  obtain ⟨digest, hd, hs⟩ := bind_eq_ok hs
  obtain ⟨history, hh, hs⟩ := bind_eq_ok hs
  obtain ⟨time, -, hs⟩ := bind_eq_ok hs
  cases hf'
  cases hd
  cases hh
  cases hs
  refine ⟨?_, hp, newestFirst_perm _ _ _⟩
  have hd := h.digest
  cases hk : store.db.secret.digest with
  | none => rfl
  | some d =>
    have hne : d ≠ "" := fun he => hd (by rw [hk, he])
    simp [hne]

end CovertVault.Vault
