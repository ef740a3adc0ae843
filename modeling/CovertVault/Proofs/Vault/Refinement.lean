import CovertVault.Proofs.App.Effects
import CovertVault.Proofs.Cipher.Stream
import CovertVault.Proofs.Outcome
import CovertVault.Proofs.Pin.Digest
import CovertVault.Proofs.Store.Orderly
import CovertVault.Proofs.Vault.Secret
import CovertVault.Proofs.Vault.Shelf
import CovertVault.World

namespace CovertVault.Vault
open App Cipher Vault.Shelf Store

/-- A stored file as it lies on the shelf. -/
def entryUnder (pin : String) (r : FileRecord) : Entry :=
  ⟨r.displayName, r.extension, underPin pin r.ciphertext⟩

/-- A store and a session that stand for a shelf. -/
structure Holds (store : Store) (v : Option Session) (σ : Shelf) : Prop where
  ready : store.Ready
  isOpen : σ.isOpen = v.isSome
  unset : σ.pin = none → store.db.secret = ⟨none, none, true⟩ ∧ store.db.files = [] ∧ v = none
  inForce : ∀ p, σ.pin = some p → Pin.isValid p = true ∧
    store.db.secret = ⟨some (Pin.digest p), some (Pin.canary p), false⟩ ∧ ∀ s ∈ v, s.pin = p
  last : store.db.lastFile = σ.last
  lastFits : 0 ≤ σ.last ∧ σ.last < 2 ^ 63
  once : (store.db.files.map (·.id)).Nodup
  ids : ∀ r ∈ store.db.files, 1 ≤ r.id ∧ r.id ≤ σ.last
  rows : ∀ r ∈ store.db.files, r.extension = Files.extension r.displayName ∧
    r.size = r.ciphertext.length
  entries : ∀ id, σ.entries id = (store.findFile id).map (entryUnder (σ.pin.getD ""))

theorem fitsColumn_iff {n : Int} : fitsColumn n = true ↔ Shelf.InColumn n := by
  simp [fitsColumn, Shelf.InColumn]

theorem not_fitsColumn {n : Int} (h : fitsColumn n = false) : n < -2 ^ 63 ∨ 2 ^ 63 ≤ n := by
  have hn : ¬ Shelf.InColumn n := by
    intro hn
    rw [fitsColumn_iff.2 hn] at h
    cases h
  unfold Shelf.InColumn at hn
  omega

variable {store : Store} {v : Option Session} {σ : Shelf}

/-- A session holds the PIN in force. -/
theorem Holds.pin_eq {s : Session} (h : Holds store (some s) σ) : σ.pin = some s.pin := by
  cases hp : σ.pin with
  | none =>
    obtain ⟨-, -, hv⟩ := h.unset hp
    cases hv
  | some p =>
    obtain ⟨-, -, hs⟩ := h.inForce p hp
    rw [hs s rfl]

theorem Holds.secures (h : Holds store v σ) {p : String} (hp : σ.pin = some p) :
    store.Secures p :=
  ⟨h.ready, (h.inForce p hp).1, (h.inForce p hp).2.1⟩

theorem Holds.open_eq {s : Session} (h : Holds store (some s) σ) : σ.isOpen = true := h.isOpen

theorem Holds.entries_eq {s : Session} (h : Holds store (some s) σ) (id : Int) :
    σ.entries id = (store.findFile id).map (entryUnder s.pin) := by
  rw [h.entries, h.pin_eq]
  rfl

theorem Holds.findFile_id {id : Int} {r : FileRecord} (h : store.findFile id = some r) :
    r ∈ store.db.files ∧ r.id = id := by
  have hi := List.find?_some h
  exact ⟨List.mem_of_find?_eq_some h, by simpa using hi⟩

/-- Ids that were never given out, or do not fit, belong to no file. -/
theorem Holds.entries_none (h : Holds store v σ) {id : Int} (hi : id < 1 ∨ σ.last < id) :
    σ.entries id = none := by
  rw [h.entries]
  cases hf : store.findFile id with
  | none => rfl
  | some r =>
    obtain ⟨hm, rfl⟩ := Holds.findFile_id hf
    have := h.ids r hm
    omega

/-- A new file under the PIN in force. -/
theorem Holds.addFile {s : Session} (h : Holds store (some s) σ) (name time : String)
    (data : Bytes) (hi : fitsColumn (store.db.lastFile + 1) = true) :
    Holds (store.addFile ⟨⟨store.db.lastFile + 1, name, Files.extension name, data.length, time⟩,
      underPin s.pin data⟩) (some s)
      (σ.put (store.db.lastFile + 1) ⟨name, Files.extension name, data⟩) := by
  have hl := h.last
  have hb := h.lastFits
  obtain ⟨-, hc⟩ := fitsColumn_iff.1 hi
  have hnew : store.findFile (store.db.lastFile + 1) = none := by
    have ho : store.db.lastFile + 1 < 1 ∨ σ.last < store.db.lastFile + 1 := .inr (by omega)
    have hn := h.entries_none ho
    rw [h.entries] at hn
    simpa using hn
  constructor
  case ready => exact h.ready.withDatabase rfl
  case isOpen => exact h.isOpen
  case unset =>
    intro hp
    cases h.pin_eq.symm.trans hp
  case inForce => exact h.inForce
  case last => rfl
  case lastFits =>
    show 0 ≤ store.db.lastFile + 1 ∧ store.db.lastFile + 1 < 2 ^ 63
    omega
  case once =>
    have hm : store.db.lastFile + 1 ∉ store.db.files.map (·.id) := by
      intro hm
      obtain ⟨r, hr, he⟩ := List.mem_map.1 hm
      have := h.ids r hr
      omega
    simp only [Store.addFile, withDatabase, List.map_append, List.map_cons, List.map_nil]
    exact List.nodup_append.2 ⟨h.once, by simp, fun a ha b hb => by
      obtain rfl := List.mem_singleton.1 hb
      rintro rfl
      exact hm ha⟩
  case ids =>
    intro r hr
    obtain hr | hr := List.mem_append.1 hr
    · have := h.ids r hr
      show 1 ≤ r.id ∧ r.id ≤ store.db.lastFile + 1
      omega
    · obtain rfl := List.mem_singleton.1 hr
      show 1 ≤ store.db.lastFile + 1 ∧ store.db.lastFile + 1 ≤ store.db.lastFile + 1
      omega
  case rows =>
    intro r hr
    obtain hr | hr := List.mem_append.1 hr
    · exact h.rows r hr
    · obtain rfl := List.mem_singleton.1 hr
      simp
  case entries =>
    -- Rows are found by the first match, and no row before the new one has its id.
    intro id
    simp only [Store.addFile, findFile, withDatabase, List.find?_append, Shelf.put]
    by_cases he : id = store.db.lastFile + 1
    · subst he
      rw [if_pos rfl, show store.db.files.find? _ = none from hnew]
      simp [entryUnder, h.pin_eq]
    · have hne : ¬ store.db.lastFile + 1 = id := fun h => he h.symm
      rw [if_neg he, h.entries]
      simp [hne, findFile]

/-- A file taken away. -/
theorem Holds.removeFile (h : Holds store v σ) (id : Int) :
    Holds (store.removeFile id) v (σ.erase [id]) := by
  constructor
  case ready => exact h.ready.withDatabase rfl
  case isOpen => exact h.isOpen
  case unset =>
    intro hp
    obtain ⟨hs, hf, hv⟩ := h.unset hp
    exact ⟨hs, by simp [Store.removeFile, withDatabase, hf], hv⟩
  case inForce => exact h.inForce
  case last => exact h.last
  case lastFits => exact h.lastFits
  case once => exact h.once.sublist (List.filter_sublist.map _)
  case ids => exact fun r hr => h.ids r (List.mem_filter.1 hr).1
  case rows => exact fun r hr => h.rows r (List.mem_filter.1 hr).1
  case entries =>
    intro i
    simp only [Store.removeFile, findFile, withDatabase, Shelf.erase, List.mem_singleton]
    rw [List.find?_filter]
    by_cases hi : i = id
    · subst hi
      rw [if_pos rfl, List.find?_eq_none.2 (by simp)]
      rfl
    · rw [if_neg hi, h.entries, findFile]
      congr 2
      funext r
      by_cases hr : r.id = i
      · simp [hr, hi]
      · simp [hr]

/-- All files taken to a new PIN. -/
theorem Holds.rekey {s : Session} (h : Holds store (some s) σ) {new : String}
    (hv : Pin.isValid new = true) :
    Holds (store.withSecret (.ofPin new) fun c => underPin new (underPin s.pin c)) (some ⟨new⟩)
      { σ with pin := some new } := by
  constructor
  case ready => exact h.ready.withDatabase rfl
  case isOpen => exact h.isOpen
  case unset => exact fun h => by cases h
  case inForce =>
    rintro p ⟨⟩
    exact ⟨hv, rfl, by simp⟩
  case last => exact h.last
  case lastFits => exact h.lastFits
  case once => simpa [Store.withSecret, withDatabase, Function.comp_def] using h.once
  case ids =>
    intro r hr
    obtain ⟨q, hq, rfl⟩ := List.mem_map.1 hr
    exact h.ids q hq
  case rows =>
    intro r hr
    obtain ⟨q, hq, rfl⟩ := List.mem_map.1 hr
    simpa using h.rows q hq
  case entries =>
    -- The old PIN is taken off each ciphertext before the new one is put on.
    intro id
    simp only [Store.withSecret, findFile, withDatabase, List.find?_map, h.entries_eq,
      Function.comp_def]
    cases List.find? (fun r : FileRecord => decide (r.id = id)) store.db.files with
    | none => simp
    | some r => simp [entryUnder]

theorem checkNew_cases (new confirm : String) :
    (∃ e, checkNew new confirm = .error (.pin e) ∧
        (Pin.isValid new = false ∨ new ≠ confirm)) ∨
      (checkNew new confirm = .ok () ∧ Pin.isValid new = true ∧ new = confirm) := by
  unfold checkNew
  cases hv : Pin.isValid new with
  | false => exact .inl ⟨_, rfl, .inl rfl⟩
  | true =>
    by_cases hc : new = confirm
    · exact .inr ⟨by simp [hc], rfl, hc⟩
    · exact .inl ⟨.unconfirmed, by simp [hc], .inr hc⟩

/-- A store with the first PIN. -/
def withPin (store : Store) (pin : String) : Store :=
  store.withDatabase { store.db with
    secret := ⟨some (Pin.digest pin), some (Pin.canary pin), false⟩ }

theorem Holds.setupPin_cases (h : Holds store v σ) (new confirm : String) :
    (∃ e, setupPin new confirm store = .error (.pin e) ∧
        (σ.pin.isSome ∨ Pin.isValid new = false ∨ new ≠ confirm)) ∨
      (setupPin new confirm store = .ok (Pin.digest new, withPin store new) ∧ σ.pin = none ∧
        Pin.isValid new = true ∧ new = confirm) := by
  unfold setupPin
  obtain ⟨e, he, hr⟩ | ⟨he, hv, hc⟩ := checkNew_cases new confirm
  · exact .inl ⟨e, by rw [he]; rfl, .inr hr⟩
  · rw [he, h.ready.isFirstRun]
    simp only [h.ready.setPinDigest]
    cases hp : σ.pin with
    | none =>
      rw [(h.unset hp).1]
      exact .inr ⟨rfl, rfl, hv, hc⟩
    | some p =>
      rw [(h.inForce p hp).2.1]
      exact .inl ⟨.alreadySet, rfl, .inl rfl⟩

theorem Holds.withPin (h : Holds store v σ) (hp : σ.pin = none) {new : String}
    (hv : Pin.isValid new = true) : Holds (withPin store new) v { σ with pin := some new } := by
  obtain ⟨-, hf, rfl⟩ := h.unset hp
  constructor
  case ready => exact h.ready.withDatabase rfl
  case isOpen => exact h.isOpen
  case unset => exact fun h => by cases h
  case inForce =>
    rintro p ⟨⟩
    exact ⟨hv, rfl, by simp⟩
  case last => exact h.last
  case lastFits => exact h.lastFits
  case once => exact h.once
  case ids => exact h.ids
  case rows => exact h.rows
  case entries =>
    intro id
    rw [h.entries]
    simp [findFile, Vault.withPin, withDatabase, hf]

/-- Only the PIN in force opens the vault. -/
theorem Holds.unlock_eq (h : Holds store v σ) {pin : String}
    (hd : ∀ p, σ.pin = some p → Pin.digest pin = Pin.digest p → pin = p) :
    Session.unlock pin store =
      if σ.pin = some pin then .ok ⟨pin⟩ else .error (.mismatch .door) := by
  cases hp : σ.pin with
  | none =>
    unfold Session.unlock
    rw [h.ready.pinDigest, (h.unset hp).1]
    rfl
  | some p =>
    rw [Vault.unlock_eq (h.secures hp) (hd p hp)]
    by_cases he : pin = p
    · simp [he]
    · simp [he, Ne.symm he]

theorem Holds.changePin_cases {s : Session} (h : Holds store (some s) σ)
    (current new confirm : String) (hd : Pin.digest current = Pin.digest s.pin → current = s.pin) :
    (∃ e, s.changePin current new confirm store = (.error e, s, store) ∧
        ((∃ p, e = .pin p) ∨ ∃ m, e = .mismatch m) ∧ (s.pin ≠ current ∨ Pin.isValid new = false ∨
          new ≠ confirm ∨ current = new)) ∨
      (s.changePin current new confirm store = (.ok store.db.files.length, ⟨new⟩,
          store.withSecret (.ofPin new) fun c => underPin new (underPin s.pin c)) ∧
        s.pin = current ∧ Pin.isValid new = true ∧ new = confirm ∧ current ≠ new) := by
  have hs := h.secures h.pin_eq
  by_cases ha : Session.Admits s.pin current new confirm
  · have hn := Pin.isValid_iff.2 ⟨ha.length, ha.digits⟩
    exact .inr ⟨Session.changePin_of_admits hs ha s, ha.known.symm, hn, ha.confirmed.symm,
      fun hc => ha.fresh (hc.symm.trans ha.known)⟩
  · obtain ⟨e, he, hk⟩ := Session.changePin_of_not_admits hs hd ha s
    refine .inl ⟨e, he, hk, ?_⟩
    by_contra hn
    simp only [not_or, not_not, Bool.not_eq_false] at hn
    obtain ⟨hc, hv, hf, hu⟩ := hn
    obtain ⟨hl, hg⟩ := Pin.isValid_iff.1 hv
    exact ha ⟨hl, hg, hf.symm, hc.symm, fun hq => hu (hc.symm.trans hq.symm)⟩

/-- An upload is refused and leaves the store alone, or the file is in the store under a new id. -/
theorem Holds.upload_cases {s : Session} (h : Holds store (some s) σ) (now : Time.Present)
    (name : String) (data : Bytes) :
    (∃ e, s.upload now name data store = (.error (.store e), store) ∧ σ.Refuses data e) ∨
      ∃ f store', s.upload now name data store = (.ok f, store') ∧ σ.last < f.id ∧
        f.displayName = name ∧ f.extension = Files.extension name ∧ f.size = data.length ∧
          Holds store' (some s) (σ.put f.id ⟨name, Files.extension name, data⟩) := by
  have hl := h.last
  have hb := h.lastFits
  have hc : s.encrypt data = underPin s.pin data := rfl
  unfold Session.upload
  rw [hc]
  unfold Session.keep
  obtain ⟨e, -, he⟩ | ⟨hs, he⟩ | ⟨hi, he⟩ | ⟨time, hi, he⟩ := h.ready.putFile name
    (Files.extension name) (underPin s.pin data) data.length now
  · rw [he]
    exact .inl ⟨_, rfl, .noTime e⟩
  · have hn := not_fitsColumn hs
    rw [he]
    exact .inl ⟨_, rfl, .tooLong (by omega)⟩
  · have hn := not_fitsColumn hi
    rw [he]
    exact .inl ⟨_, rfl, .usedUp (by omega)⟩
  · right
    have ha := h.addFile name time data hi
    have hg := ha.ready.getFile (store.db.lastFile + 1)
    rw [if_pos hi, findFile, find?_id ha.once (List.mem_append_right _ (List.mem_singleton.2 rfl))]
      at hg
    rw [he]
    dsimp only
    rw [hg]
    exact ⟨_, _, rfl, by show σ.last < store.db.lastFile + 1; omega, rfl, rfl, rfl, ha⟩

variable {ω T : Type}

theorem told_of {α : Type} {r : Except App.Failure α} {a : α} (h : App.Told r a)
    (answer : α → Reply) : Shelf.Told (.of answer r) (answer a) := by
  obtain rfl | ⟨e, rfl⟩ := h
  · exact .inl rfl
  · exact .inr ⟨e, rfl⟩

variable [Remote.TimeScale T] (env : Surroundings ω T) {s : App T × ω} {p : Session}

/-- A call answers as the shelf does, and what it leaves stands for the shelf after it. -/
def Keeps (c : Call) (v : Option Session) (s : App T × ω) (σ : Shelf) : Prop :=
  ∃ τ, Step σ c (perform env c v s).1 τ ∧
    Holds (perform env c v s).2.2.1.store (perform env c v s).2.1 τ

theorem keeps_upload (h : Holds s.1.store (some p) σ) (name : String) (data : Bytes) :
    Keeps env (.upload name data) (some p) s σ := by
  unfold Keeps perform
  obtain ⟨e, he, hr⟩ | ⟨f, store', he, hi, hn, hx, hs, ha⟩ :=
    h.upload_cases (env.stamp s.2) name data
  · obtain ⟨ho, hq⟩ := Prod.mk.inj (upload_error env he)
    refine ⟨σ, ?_, ?_⟩
    · dsimp only
      rw [ho]
      exact .uploadRefused h.open_eq hr
    · dsimp only
      rw [hq]
      exact h
  · obtain ⟨ht, hq⟩ := upload_ok env he
    refine ⟨_, .upload h.open_eq hi hn hx hs (told_of ht .uploaded), ?_⟩
    dsimp only
    rw [hq]
    exact ha

theorem keeps_read (h : Holds s.1.store (some p) σ) (id : Int) :
    Keeps env (.read id) (some p) s σ := by
  obtain ⟨ho, hq⟩ := Prod.mk.inj (query_outcome env
    (fun store => (p.content id store).mapError Failure.vault) s)
  unfold Keeps perform App.content
  refine ⟨σ, ?_, by dsimp only; rw [hq]; exact h⟩
  dsimp only
  rw [ho]
  unfold Session.content
  rw [Store.fileCiphertext_open h.ready.isOpen]
  by_cases hi : fitsColumn id = true
  · obtain ⟨hl, hu⟩ := fitsColumn_iff.1 hi
    have hx := h.entries_eq id
    rw [if_pos hi]
    cases hf : s.1.store.findFile id with
    | none =>
      rw [hf] at hx
      exact .readMissing h.open_eq hx hl hu
    | some r =>
      rw [hf] at hx
      exact .read h.open_eq hx
  · have hn := not_fitsColumn (by simpa using hi)
    have hb := h.lastFits
    rw [if_neg hi]
    exact .readTooLarge h.open_eq (h.entries_none (by omega)) hn

theorem keeps_list (h : Holds s.1.store (some p) σ) : Keeps env .list (some p) s σ := by
  obtain ⟨ho, hq⟩ := Prod.mk.inj (query_outcome env
    (fun store => store.listFiles.mapError Failure.store) s)
  unfold Keeps perform App.listFiles
  refine ⟨σ, ?_, by dsimp only; rw [hq]; exact h⟩
  dsimp only
  rw [ho, Store.listFiles_open h.ready.isOpen]
  have hperm := newestFirst_perm (·.uploadedAt) (·.id) (s.1.store.db.files.map (·.toFileMeta))
  have hmem (f : FileMeta) : f ∈ newestFirst (·.uploadedAt) (·.id)
      (s.1.store.db.files.map (·.toFileMeta)) ↔ ∃ r ∈ s.1.store.db.files, r.toFileMeta = f := by
    rw [hperm.mem_iff, List.mem_map]
  have hfind (r : FileRecord) (hr : r ∈ s.1.store.db.files) :
      σ.entries r.id = some (entryUnder p.pin r) := by
    rw [h.entries_eq, findFile, find?_id h.once hr]
    rfl
  refine .list h.open_eq ⟨?_, fun id => ⟨?_, ?_⟩, fun f hf => ?_⟩
  · rw [(hperm.map _).nodup_iff, List.map_map]
    exact h.once
  · rintro ⟨f, hf, rfl⟩
    obtain ⟨r, hr, rfl⟩ := (hmem f).1 hf
    rw [hfind r hr]
    rfl
  · intro hx
    rw [h.entries_eq, Option.isSome_map] at hx
    obtain ⟨r, hr⟩ := Option.isSome_iff_exists.1 hx
    obtain ⟨hm, hi⟩ := Holds.findFile_id hr
    exact ⟨r.toFileMeta, (hmem _).2 ⟨r, hm, rfl⟩, hi⟩
  · obtain ⟨r, hr, rfl⟩ := (hmem f).1 hf
    obtain ⟨hx, hs⟩ := h.rows r hr
    exact ⟨_, hfind r hr, rfl, rfl, by simp [entryUnder, hs]⟩

theorem keeps_delete (h : Holds s.1.store (some p) σ) (id : Int) :
    Keeps env (.delete id) (some p) s σ := by
  have hd := h.ready.deleteFile id
  unfold Keeps perform
  by_cases hi : fitsColumn id = true
  · rw [if_pos hi] at hd
    obtain ⟨ht, hq⟩ := deleteFile_ok env hd
    refine ⟨_, .delete h.open_eq (fitsColumn_iff.1 hi) (told_of ht fun _ => .done), ?_⟩
    dsimp only
    rw [hq]
    exact h.removeFile id
  · rw [if_neg hi] at hd
    obtain ⟨ho, hq⟩ := Prod.mk.inj (deleteFile_error env hd)
    refine ⟨σ, ?_, by dsimp only; rw [hq]; exact h⟩
    dsimp only
    rw [ho]
    exact .deleteTooLarge h.open_eq (not_fitsColumn (by simpa using hi))

theorem erase_nil (σ : Shelf) : σ.erase [] = σ := by
  simp [Shelf.erase]

theorem erase_cons (σ : Shelf) (id : Int) (ids : List Int) :
    (σ.erase [id]).erase ids = σ.erase (id :: ids) := by
  have h (i : Int) : (if i ∈ ids then none else if i ∈ [id] then none else σ.entries i) =
      if i ∈ id :: ids then none else σ.entries i := by
    by_cases hi : i ∈ ids <;> simp [hi]
  simp only [Shelf.erase, h]

/-- How far a row of deletions gets, and what it answers. -/
inductive Deletes (σ : Shelf) : List Int → Except App.Failure Nat → Shelf → Prop
  | all {ids : List Int} : (∀ id ∈ ids, InColumn id) → Deletes σ ids (.ok ids.length) (σ.erase ids)
  | stopped {front : List Int} (rest : List Int) {id : Int} : (∀ i ∈ front, InColumn i) →
      fitsColumn id = false →
      Deletes σ (front ++ id :: rest) (.error (.store .integerTooLarge)) (σ.erase front)
  | untold {front : List Int} (rest : List Int) (e : Remote.Error) : front ≠ [] →
      (∀ i ∈ front, InColumn i) → Deletes σ (front ++ rest) (.error (.remote e)) (σ.erase front)

theorem Deletes.cons {σ τ : Shelf} {id : Int} {ids : List Int} {r : Except App.Failure Nat}
    (hi : InColumn id) (h : Deletes (σ.erase [id]) ids r τ) :
    Deletes σ (id :: ids) (r.map (· + 1)) τ := by
  cases h with
  | all ha => exact erase_cons σ id ids ▸ .all (List.forall_mem_cons.2 ⟨hi, ha⟩)
  | @stopped front rest _ hf hb =>
    rw [erase_cons]
    exact @Deletes.stopped σ (id :: front) rest _ (List.forall_mem_cons.2 ⟨hi, hf⟩) hb
  | @untold front rest e hn hf =>
    rw [erase_cons]
    exact @Deletes.untold σ (id :: front) rest e (by simp) (List.forall_mem_cons.2 ⟨hi, hf⟩)

/-- Files deleted one after another, up to the first failure. -/
theorem deletes_each (ids : List Int) (s : App T × ω) (σ : Shelf)
    (h : Holds s.1.store (some p) σ) :
    ∃ τ, Deletes σ ids (each (App.deleteFile env) ids s).1 τ ∧
      Holds (each (App.deleteFile env) ids s).2.1.store (some p) τ := by
  induction ids generalizing s σ with
  | nil => exact ⟨σ.erase [], .all (by simp), by rw [erase_nil]; exact h⟩
  | cons id ids ih =>
    have hd := h.ready.deleteFile id
    unfold each
    by_cases hi : fitsColumn id = true
    · rw [if_pos hi] at hd
      have hc := fitsColumn_iff.1 hi
      obtain ⟨ht, hq⟩ := deleteFile_ok env hd
      have hr := h.removeFile id
      rw [← hq] at hr
      generalize App.deleteFile env id s = x at ht hr
      obtain ⟨r, s'⟩ := x
      -- The file is gone either way; only a failure of the remote copy ends the row.
      obtain rfl | ⟨e, rfl⟩ := ht
      · obtain ⟨τ, hτ, hs⟩ := ih s' (σ.erase [id]) hr
        exact ⟨τ, hτ.cons hc, hs⟩
      · exact ⟨σ.erase [id], @Deletes.untold σ [id] ids e (by simp) (by simpa using hc), hr⟩
    · rw [if_neg hi] at hd
      have hx := deleteFile_error env hd
      generalize App.deleteFile env id s = x at hx
      obtain ⟨r, s'⟩ := x
      obtain ⟨rfl, hq⟩ := Prod.mk.inj hx
      refine ⟨σ.erase [], @Deletes.stopped σ [] ids id (by simp) (by simpa using hi), ?_⟩
      rw [erase_nil]
      dsimp only at hq ⊢
      rw [hq]
      exact h

theorem keeps_deleteAll (h : Holds s.1.store (some p) σ) (ids : List Int) :
    Keeps env (.deleteAll ids) (some p) s σ := by
  obtain ⟨τ, hd, hs⟩ := deletes_each env ids s σ h
  refine ⟨τ, ?_, hs⟩
  unfold perform
  dsimp only
  generalize (each (App.deleteFile env) ids s).1 = r at hd
  cases hd with
  | all ha => exact .deleteAll h.open_eq ha
  | stopped rest hf hb => exact .deleteStopped h.open_eq hf (not_fitsColumn hb)
  | untold rest e hn hf => exact .deleteUntold e h.open_eq hn hf

theorem keeps_changePin (h : Holds s.1.store (some p) σ) (current new confirm : String)
    (hd : Pin.digest current = Pin.digest p.pin → current = p.pin) :
    Keeps env (.changePin current new confirm) (some p) s σ := by
  unfold Keeps perform
  obtain ⟨e, he, hk, hr⟩ | ⟨he, rfl, hn, rfl, hu⟩ := h.changePin_cases current new confirm hd
  · obtain ⟨ho, hq⟩ := changePin_error env he
    refine ⟨σ, ?_, ?_⟩
    · show Step σ _ (.of .count (changePin env current new confirm p s).1.1) σ
      rw [ho]
      refine .changeRefused h.open_eq hk (hr.imp_left fun hne hp => hne ?_)
      exact Option.some.inj (h.pin_eq.symm.trans hp)
    · show Holds (changePin env current new confirm p s).2.1.store
        (some (changePin env current new confirm p s).1.2) σ
      rw [ho, hq]
      exact h
  · obtain ⟨ht, hp, hq⟩ := changePin_ok env he
    refine ⟨_, .changePin h.open_eq h.pin_eq hn hu (told_of ht.told .count), ?_⟩
    dsimp only
    rw [hp, hq]
    exact h.rekey hn

theorem keeps_setupPin (h : Holds s.1.store v σ) (new confirm : String) :
    Keeps env (.setupPin new confirm) v s σ := by
  unfold Keeps perform
  obtain ⟨e, he, hr⟩ | ⟨he, hp, hn, rfl⟩ := h.setupPin_cases new confirm
  · obtain ⟨ho, hq⟩ := Prod.mk.inj (setupPin_error env he)
    refine ⟨σ, ?_, ?_⟩
    · dsimp only
      rw [ho]
      exact .setupRefused e hr
    · dsimp only
      rw [hq]
      exact h
  · have hs := h.withPin hp hn
    obtain ⟨ht, hq⟩ := setupPin_ok env he hs.ready.pinDigest
    refine ⟨_, .setupPin hp hn (told_of ht fun _ => .done), ?_⟩
    dsimp only
    rw [hq]
    exact hs

theorem Holds.opened (h : Holds store v σ) {pin : String} (hp : σ.pin = some pin) :
    Holds store (some ⟨pin⟩) { σ with isOpen := true } := by
  obtain ⟨hv, hs, -⟩ := h.inForce pin hp
  constructor
  case ready => exact h.ready
  case isOpen => rfl
  case unset => exact fun hn => by cases hp.symm.trans hn
  case inForce =>
    intro q hq
    obtain rfl := Option.some.inj (hp.symm.trans hq)
    exact ⟨hv, hs, by simp⟩
  case last => exact h.last
  case lastFits => exact h.lastFits
  case once => exact h.once
  case ids => exact h.ids
  case rows => exact h.rows
  case entries => exact h.entries

theorem keeps_unlock (h : Holds s.1.store v σ) {pin : String}
    (hd : ∀ p, σ.pin = some p → Pin.digest pin = Pin.digest p → pin = p) :
    Keeps env (.unlock pin) v s σ := by
  have hx := query_outcome env
    (fun store => (Session.unlock pin store).mapError Failure.vault) s
  rw [h.unlock_eq hd] at hx
  unfold Keeps perform App.unlock
  dsimp only
  generalize query env (fun store => (Session.unlock pin store).mapError Failure.vault) s = x at hx
  obtain ⟨r, s'⟩ := x
  obtain ⟨ho, hq⟩ := Prod.mk.inj hx
  dsimp only at ho hq
  by_cases hp : σ.pin = some pin
  · rw [if_pos hp] at ho
    subst ho
    refine ⟨_, .unlock hp, ?_⟩
    show Holds s'.1.store _ _
    rw [hq]
    exact h.opened hp
  · rw [if_neg hp] at ho
    subst ho
    refine ⟨σ, .unlockRefused hp, ?_⟩
    show Holds s'.1.store _ _
    rw [hq]
    exact h

/-- No two of some texts have the same digest. -/
def Apart (pins : List String) : Prop :=
  ∀ p ∈ pins, ∀ q ∈ pins, Pin.digest p = Pin.digest q → p = q

theorem keeps (h : Holds s.1.store v σ) {c : Call}
    (hd : ∀ p, σ.pin = some p → ∀ q ∈ c.pins, Pin.digest q = Pin.digest p → q = p) :
    Keeps env c v s σ := by
  cases c with
  | setupPin new confirm => exact keeps_setupPin env h new confirm
  | unlock pin => exact keeps_unlock env h fun p hp => hd p hp pin (by simp [Call.pins])
  | upload name data =>
    cases v with
    | none => exact ⟨σ, .locked rfl h.isOpen, h⟩
    | some p => exact keeps_upload env h name data
  | read id =>
    cases v with
    | none => exact ⟨σ, .locked rfl h.isOpen, h⟩
    | some p => exact keeps_read env h id
  | list =>
    cases v with
    | none => exact ⟨σ, .locked rfl h.isOpen, h⟩
    | some p => exact keeps_list env h
  | delete id =>
    cases v with
    | none => exact ⟨σ, .locked rfl h.isOpen, h⟩
    | some p => exact keeps_delete env h id
  | deleteAll ids =>
    cases v with
    | none => exact ⟨σ, .locked rfl h.isOpen, h⟩
    | some p => exact keeps_deleteAll env h ids
  | changePin current new confirm =>
    cases v with
    | none => exact ⟨σ, .locked rfl h.isOpen, h⟩
    | some p =>
      have hp := hd p.pin h.pin_eq current (by simp [Call.pins])
      exact keeps_changePin env h current new confirm hp

end CovertVault.Vault
