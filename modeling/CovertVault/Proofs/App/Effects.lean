import CovertVault.App.Calculator
import CovertVault.App.Vault
import CovertVault.Proofs.Outcome

namespace CovertVault

namespace Remote.Copy
variable {ρ ε : Type} {m : Copy ρ ε}

theorem attempt_error {k : Command} {r : ρ} {e : ε} (h : (m.attempt k r).1 = .error e) :
    m.ignorable e = false := by
  unfold attempt at h
  split at h
  · next e' r' _ =>
    cases hi : m.ignorable e' with
    | true =>
      rw [hi] at h
      cases h
    | false =>
      rw [hi] at h
      cases h
      exact hi
  · next hn =>
    -- A failure would have met the first case.
    cases hs : m.send k r with
    | mk x r' =>
      rw [hs] at h
      dsimp only at h
      subst h
      exact absurd hs (hn e r')

theorem attemptAll_error {ks : List Command} {r : ρ} {e : ε}
    (h : (m.attemptAll ks r).1 = .error e) : m.ignorable e = false := by
  induction ks generalizing r with
  | nil => cases h
  | cons k ks ih =>
    unfold attemptAll at h
    split at h
    · exact ih h
    · exact attempt_error h

/-- Without a client there is nobody to tell. -/
theorem attemptAll_none {ω T : Type} [TimeScale T] (link : Nat → Link ω T) (ks : List Command)
    (w : ω) : (Client.copy link).attemptAll ks (none, w) = (.ok (), none, w) := by
  induction ks with
  | nil => rfl
  | cons k ks ih => exact ih

end Remote.Copy

namespace App
open Remote

variable {ω T α : Type}

/-- An answer together with the store that an action leaves. -/
def outcome (r : Except Failure α × App T × ω) : Except Failure α × Store := (r.1, r.2.1.store)

/-- The answer to a change that the remote copy is told of: the failure of the copy may come in
its place. -/
def Told (r : Except Failure α) (a : α) : Prop := r = .ok a ∨ ∃ e, r = .error (.remote e)

/-- The same with a client or without: only a client can fail, and then in a way that cannot be
passed over. -/
def Answers (remote : Option (Client T × Nat)) (r : Except Failure α) (a : α) : Prop :=
  r = .ok a ∨ remote.isSome ∧ ∃ e, r = .error (.remote e) ∧ e.ignorable = false

theorem Answers.told {remote : Option (Client T × Nat)} {r : Except Failure α} {a : α}
    (h : Answers remote r a) : Told r a := by
  obtain h | ⟨-, e, h, -⟩ := h
  · exact .inl h
  · exact .inr ⟨e, h⟩

theorem andThen_error {β : Type} {first : Action ω T α} {next : α → Action ω T β} {s : App T × ω}
    {e : Failure} {store : Store} (h : outcome (first s) = (.error e, store)) :
    outcome (andThen first next s) = (.error e, store) := by
  unfold andThen
  cases hf : first s with
  | mk r s' =>
    rw [hf] at h
    obtain ⟨rfl, rfl⟩ := Prod.mk.inj h
    rfl

theorem andThen_ok {β : Type} {first : Action ω T α} {next : α → Action ω T β} {s : App T × ω}
    {a : α} {store : Store} (h : outcome (first s) = (.ok a, store)) :
    ∃ s' : App T × ω, s'.1.store = store ∧ andThen first next s = next a s' := by
  unfold andThen
  cases hf : first s with
  | mk r s' =>
    rw [hf] at h
    obtain ⟨rfl, rfl⟩ := Prod.mk.inj h
    exact ⟨s', rfl, rfl⟩

/-- Whatever is done after a step that alone works on the store. -/
theorem andThen_store {β : Type} {first : Action ω T α} {next : α → Action ω T β}
    (hn : ∀ a s, (next a s).2.1.store = s.1.store) (s : App T × ω) :
    (andThen first next s).2.1.store = (first s).2.1.store := by
  unfold andThen
  split
  · next e s' h => rw [h]
  · next a s' h =>
    rw [h]
    exact hn a s'

variable (env : Surroundings ω T)

theorem onStore_outcome (operation : Store → Except Failure α × Store) (s : App T × ω) :
    outcome (onStore env operation s) = operation s.1.store := by
  obtain ⟨app, w⟩ := s
  unfold onStore
  dsimp only
  split
  · next a store h =>
    rw [h]
    rfl
  · next e store h =>
    rw [h]
    split <;> rfl

theorem onStore_store (operation : Store → Except Failure α × Store) (s : App T × ω) :
    (onStore env operation s).2.1.store = (operation s.1.store).2 :=
  congrArg Prod.snd (onStore_outcome env operation s)

/-- No operation on the store changes the client. -/
theorem onStore_remote (operation : Store → Except Failure α × Store) (s : App T × ω) :
    (onStore env operation s).2.1.remote = s.1.remote := by
  obtain ⟨app, w⟩ := s
  unfold onStore
  dsimp only
  split
  · rfl
  · split <;> rfl

theorem refresh_store
    (take : Store → Calculator.Session → Except Store.Error Unit × Calculator.Session)
    (s : App T × ω) : (refresh env take s).2.1.store = s.1.store := rfl

theorem query_outcome (read : Store → Except Failure α) (s : App T × ω) :
    outcome (query env read s) = (read s.1.store, s.1.store) :=
  onStore_outcome env _ s

theorem query_store (read : Store → Except Failure α) (s : App T × ω) :
    (query env read s).2.1.store = s.1.store :=
  onStore_store env _ s

theorem change_ok {write : Store → Except Failure (α × Store)} {s : App T × ω} {a : α}
    {store : Store} (h : write s.1.store = .ok (a, store)) :
    outcome (change env write s) = (.ok a, store) := by
  rw [change, onStore_outcome, h]

theorem change_error {write : Store → Except Failure (α × Store)} {s : App T × ω} {e : Failure}
    (h : write s.1.store = .error e) : outcome (change env write s) = (.error e, s.1.store) := by
  rw [change, onStore_outcome, h]

/-- The store is as it was, or as a successful write gives it. -/
theorem change_store (write : Store → Except Failure (α × Store)) (s : App T × ω) :
    (change env write s).2.1.store = s.1.store ∨
      ∃ a, write s.1.store = .ok (a, (change env write s).2.1.store) := by
  rw [change, onStore_store]
  split
  · next a store h => exact .inr ⟨a, h⟩
  · exact .inl rfl

/-- An export may take the place of the database's own file, which ends the use of the store. -/
theorem exportFile_store (id : Int) (path : Files.Path) (v : Vault.Session) (s : App T × ω) :
    (exportFile env id path v s).2.1.store = s.1.store ∨
      (exportFile env id path v s).2.1.store = s.1.store.close := by
  unfold exportFile andThen
  have hq := query_store env (fun store => (v.content id store).mapError Failure.vault) s
  unfold content
  generalize query env (fun store => (v.content id store).mapError Failure.vault) s = t at hq
  obtain ⟨r, app, w⟩ := t
  dsimp only at hq
  rw [← hq]
  cases r with
  | error e => exact .inl rfl
  | ok data =>
    dsimp only
    split
    · exact .inl rfl
    · unfold checkStore
      split
      · exact .inl rfl
      · exact .inr rfl

variable [TimeScale T]

theorem tell_answers (changes : List Command) (a : α) (s : App T × ω) :
    Answers s.1.remote (tell env changes a s).1 a := by
  obtain ⟨app, w⟩ := s
  unfold tell
  dsimp only
  cases h : ((Client.copy env.link).attemptAll changes (app.remote, w)).1 with
  | ok => exact .inl rfl
  | error e =>
    refine .inr ⟨?_, e, rfl, Copy.attemptAll_error h⟩
    cases hr : app.remote with
    | some c => rfl
    | none =>
      rw [hr, Copy.attemptAll_none] at h
      cases h

/-- Telling the remote copy leaves the store alone. -/
theorem tell_outcome (changes : List Command) (a : α) (s : App T × ω) :
    Told (tell env changes a s).1 a ∧ (tell env changes a s).2.1.store = s.1.store :=
  ⟨(tell_answers env changes a s).told, rfl⟩

/-- A change of the store that succeeds and is then told. -/
theorem andThen_tell {β : Type} {first : Action ω T α} {changes : α → List Command} {result : α → β}
    {s : App T × ω} {a : α} {store : Store} (h : outcome (first s) = (.ok a, store)) :
    Told (andThen first (fun a => tell env (changes a) (result a)) s).1 (result a) ∧
      (andThen first (fun a => tell env (changes a) (result a)) s).2.1.store = store := by
  obtain ⟨s', rfl, he⟩ : ∃ s' : App T × ω, s'.1.store = store ∧
      andThen first (fun a => tell env (changes a) (result a)) s =
        tell env (changes a) (result a) s' := andThen_ok h
  rw [he]
  exact tell_outcome env (changes a) (result a) s'

theorem upload_error {name : String} {data : Bytes} {v : Vault.Session} {s : App T × ω}
    {e : Vault.Error} {store : Store}
    (h : v.upload (env.stamp s.2) name data s.1.store = (.error e, store)) :
    outcome (upload env name data v s) = (.error (.vault e), store) := by
  unfold upload
  apply andThen_error
  rw [onStore_outcome]
  dsimp only
  rw [h]
  rfl

theorem upload_ok {name : String} {data : Bytes} {v : Vault.Session} {s : App T × ω}
    {f : FileRecord} {store : Store}
    (h : v.upload (env.stamp s.2) name data s.1.store = (.ok f, store)) :
    Told (upload env name data v s).1 f.toFileMeta ∧
      (upload env name data v s).2.1.store = store := by
  unfold upload
  apply andThen_tell env
  rw [onStore_outcome]
  dsimp only
  rw [h]
  rfl

theorem deleteFile_error {id : Int} {s : App T × ω} {e : Store.Error}
    (h : s.1.store.deleteFile id = .error e) :
    outcome (deleteFile env id s) = (.error (.store e), s.1.store) := by
  unfold deleteFile
  apply andThen_error
  apply change_error
  rw [h]
  rfl

theorem deleteFile_ok {id : Int} {s : App T × ω} {store : Store}
    (h : s.1.store.deleteFile id = .ok store) :
    Told (deleteFile env id s).1 () ∧ (deleteFile env id s).2.1.store = store := by
  unfold deleteFile
  apply andThen_tell env
  apply change_ok
  rw [h]
  rfl

theorem changePin_error {current new confirm : String} {v v' : Vault.Session} {s : App T × ω}
    {e : Vault.Error} {store : Store}
    (h : v.changePin current new confirm s.1.store = (.error e, v', store)) :
    (changePin env current new confirm v s).1 = (.error (.vault e), v') ∧
      (changePin env current new confirm v s).2.1.store = store := by
  have ho := onStore_outcome env
    (fun _ => ((.error (.vault e) : Except Failure Nat), store)) s
  obtain ⟨hr, hs⟩ := Prod.mk.inj ho
  unfold changePin
  rw [h]
  dsimp only [mapError_error]
  rw [hr]
  exact ⟨rfl, hs⟩

theorem changePin_ok {current new confirm : String} {v v' : Vault.Session} {s : App T × ω}
    {n : Nat} {store : Store}
    (h : v.changePin current new confirm s.1.store = (.ok n, v', store)) :
    Answers s.1.remote (changePin env current new confirm v s).1.1 n ∧
      (changePin env current new confirm v s).1.2 = v' ∧
        (changePin env current new confirm v s).2.1.store = store := by
  have ho := onStore_outcome env (fun _ => ((.ok n : Except Failure Nat), store)) s
  have hc := onStore_remote env (fun _ => ((.ok n : Except Failure Nat), store)) s
  obtain ⟨hr, hs⟩ := Prod.mk.inj ho
  unfold changePin
  rw [h]
  dsimp only [mapError_ok]
  rw [hr]
  have ht := tell_answers env (Vault.Session.changeCommands new store) n
    (onStore env (fun _ => ((.ok n : Except Failure Nat), store)) s).2
  rw [hc] at ht
  exact ⟨ht, rfl, hs⟩

theorem changeTyped_error {current new confirm : List Text.Point} {s : App T × ω}
    {e : Vault.Error}
    (h : Vault.Session.readTyped current new confirm s.1.store = .error e) (v : Vault.Session) :
    (changeTyped env current new confirm v s).1 = (.error (.vault e), v) ∧
      (changeTyped env current new confirm v s).2.1.store = s.1.store := by
  have ho := onStore_outcome env
    (fun store => ((.error (.vault e) : Except Failure Nat), store)) s
  obtain ⟨hr, hs⟩ := Prod.mk.inj ho
  unfold changeTyped
  rw [h]
  dsimp only
  rw [hr]
  exact ⟨rfl, hs⟩

theorem changeTyped_ok {current new confirm : List Text.Point} {c n k : String} {s : App T × ω}
    {v : Vault.Session}
    (h : Vault.Session.readTyped current new confirm s.1.store = .ok (c, n, k)) :
    changeTyped env current new confirm v s = changePin env c n k v s := by
  unfold changeTyped
  rw [h]

theorem setupPin_error {new confirm : String} {s : App T × ω} {e : Vault.Error}
    (h : Vault.setupPin new confirm s.1.store = .error e) :
    outcome (setupPin env new confirm s) = (.error (.vault e), s.1.store) := by
  unfold setupPin
  apply andThen_error
  apply change_error
  rw [h]
  rfl

/-- The first PIN is set, and the calculator takes its digest over. -/
theorem setupPin_ok {new confirm digest : String} {s : App T × ω} {store : Store}
    (h : Vault.setupPin new confirm s.1.store = .ok (digest, store)) {stored : Option String}
    (hd : store.pinDigest = .ok stored) :
    Told (setupPin env new confirm s).1 () ∧ (setupPin env new confirm s).2.1.store = store := by
  have hc : outcome (storePin env new confirm s) = (.ok digest, store) := by
    apply change_ok
    rw [h]
    rfl
  obtain ⟨s', hs, he⟩ : ∃ s' : App T × ω, s'.1.store = store ∧ setupPin env new confirm s =
      andThen (tell env [.backupDigest (some digest)] ()) (fun () => resume env) s' :=
    andThen_ok hc
  rw [he]
  obtain ⟨ht, hs'⟩ := tell_outcome env [.backupDigest (some digest)] () s'
  rw [hs] at hs'
  unfold andThen
  -- The calculator resumes only if the remote copy did not fail.
  generalize tell env [.backupDigest (some digest)] () s' = t at ht hs'
  obtain ⟨r, app, w⟩ := t
  obtain rfl | ⟨e, rfl⟩ := ht
  · have hr : outcome (resume env (app, w)) = (.ok (), store) := by
      dsimp only at hs'
      simp only [resume, refresh, Calculator.Session.resume, Calculator.Session.refreshSecret, hs',
        hd]
      rfl
    exact ⟨.inl (Prod.mk.inj hr).1, (Prod.mk.inj hr).2⟩
  · exact ⟨.inr ⟨e, rfl⟩, hs'⟩

theorem tell_store (changes : List Command) (a : α) (s : App T × ω) :
    (tell env changes a s).2.1.store = s.1.store := rfl

theorem upload_store (name : String) (data : Bytes) (v : Vault.Session) (s : App T × ω) :
    (upload env name data v s).2.1.store = (v.upload (env.stamp s.2) name data s.1.store).2 := by
  unfold upload
  rw [andThen_store (fun f s => tell_store env [.backupFile f] f.toFileMeta s), onStore_store]

theorem deleteFile_store (id : Int) (s : App T × ω) :
    (deleteFile env id s).2.1.store = s.1.store ∨
      s.1.store.deleteFile id = .ok (deleteFile env id s).2.1.store := by
  unfold deleteFile
  rw [andThen_store fun _ s => tell_store env [.deleteFile id] () s]
  obtain h | ⟨a, h⟩ := change_store env
    (fun store => ((store.deleteFile id).map ((), ·)).mapError Failure.store) s
  · exact .inl h
  · obtain ⟨store, hd, hp⟩ := map_eq_ok (mapError_eq_ok h)
    rw [← (Prod.mk.inj hp).2]
    exact .inr hd

theorem setupPin_store (new confirm : String) (s : App T × ω) :
    (setupPin env new confirm s).2.1.store = s.1.store ∨
      ∃ digest, Vault.setupPin new confirm s.1.store =
        .ok (digest, (setupPin env new confirm s).2.1.store) := by
  have hn (digest : String) (s : App T × ω) :
      (andThen (tell env [.backupDigest (some digest)] ()) (fun () => resume env) s).2.1.store =
        s.1.store :=
    andThen_store (fun _ s => refresh_store env _ s) s
  unfold setupPin
  rw [andThen_store hn]
  obtain h | ⟨digest, h⟩ := change_store env
    (fun store => (Vault.setupPin new confirm store).mapError Failure.vault) s
  · exact .inl h
  · exact .inr ⟨digest, mapError_eq_ok h⟩

theorem changePin_store (current new confirm : String) (v : Vault.Session) (s : App T × ω) :
    (changePin env current new confirm v s).2.1.store =
      (v.changePin current new confirm s.1.store).2.2 := by
  cases h : v.changePin current new confirm s.1.store with
  | mk r p =>
    obtain ⟨v', store⟩ := p
    cases r with
    | error e => exact (changePin_error env h).2
    | ok n => exact (changePin_ok env h).2.2

theorem uploadPath_store (path : Files.Path) (v : Vault.Session) (s : App T × ω) :
    (uploadPath env path v s).2.1.store = s.1.store ∨
      ∃ name data, (uploadPath env path v s).2.1.store =
        (v.upload (env.stamp s.2) name data s.1.store).2 := by
  obtain ⟨app, w⟩ := s
  unfold uploadPath
  dsimp only
  split
  · exact .inl rfl
  · next data _ => exact .inr ⟨path.name, data, upload_store env path.name data v (app, w)⟩

theorem backupAll_store (s : App T × ω) : (backupAll env s).2.1.store = s.1.store := by
  unfold backupAll
  refine (andThen_store (fun all s => andThen_store ?_ s) s).trans (query_store env _ s)
  -- Neither the bucket nor its absence touches the store.
  intro _ (app, w)
  dsimp only
  split
  · rfl
  · split <;> rfl

end App

end CovertVault
