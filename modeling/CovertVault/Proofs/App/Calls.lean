import CovertVault.Proofs.App.Effects
import CovertVault.Proofs.Remote.Service

namespace CovertVault.App
open Remote

variable {ω T α β : Type}

inductive Operation where
  | setupPin (new confirm : String)
  | press (key : Keypad.Key)
  | deleteHistory (id : Int)
  | deleteHistories (ids : List Int)
  | clearHistory
  | syncHistory
  | upload (v : Vault.Session) (name : String) (data : Bytes)
  | deleteFile (id : Int)
  | changePin (v : Vault.Session) (current new confirm : String)
  | backupAll
deriving Repr, DecidableEq

section
variable [TimeScale T] (env : Surroundings ω T)

/-- What an operation leaves. -/
def Operation.after : Operation → App T × ω → App T × ω
  | .setupPin new confirm, s => (App.setupPin env new confirm s).2
  | .press key, s => (App.press env key s).2
  | .deleteHistory id, s => (App.deleteHistory env id s).2
  | .deleteHistories ids, s => (each (App.deleteHistory env) ids s).2
  | .clearHistory, s => (App.clearHistory env s).2
  | .syncHistory, s => (App.syncHistory env s).2
  | .upload v name data, s => (App.upload env name data v s).2
  | .deleteFile id, s => (App.deleteFile env id s).2
  | .changePin v current new confirm, s => (App.changePin env current new confirm v s).2
  | .backupAll, s => (App.backupAll env s).2

def dropHistory (id : Int) : Action ω T Unit :=
  change env fun store => ((store.deleteHistory id).map ((), ·)).mapError .store

def dropHistories : Action ω T Unit :=
  change env fun store => (store.clearHistory.map ((), ·)).mapError .store

def dropFile (id : Int) : Action ω T Unit :=
  change env fun store => ((store.deleteFile id).map ((), ·)).mapError .store

def keepFile (v : Vault.Session) (name : String) (data : Bytes) : Action ω T FileRecord :=
  fun s => onStore env (fun store =>
    let (r, store) := v.upload (env.stamp s.2) name data store
    (r.mapError .vault, store)) s

def rekey (v : Vault.Session) (current new confirm : String) : Action ω T Nat :=
  fun s => onStore env (fun _ =>
    ((v.changePin current new confirm s.1.store).1.mapError .vault,
      (v.changePin current new confirm s.1.store).2.2)) s

/-- Whether all calls are settled that telling of changes makes. -/
def settlesAll (changes : List Command) : App T × ω → Bool := fun (app, w) =>
  match app.remote with
  | some (c, n) => c.settlesAll (env.link n) changes w
  | none => true

/-- The same for the changes that an action leads to. -/
def settlesAfter (first : Action ω T α) (changes : α → List Command) (s : App T × ω) : Bool :=
  match first s with
  | (.ok a, s) => settlesAll env (changes a) s
  | (.error _, _) => true

/-- Whether the call is settled that fetches the calculations. -/
def settlesFetch : App T × ω → Bool := fun (app, w) =>
  match app.remote with
  | some (c, n) => c.settlesFetch (env.link n) w
  | none => true

/-- Whether the calls are settled that deletions of calculations make, up to the first that
fails. -/
def settlesEach : List Int → App T × ω → Bool
  | [], _ => true
  | id :: ids, s =>
    settlesAfter env (dropHistory env id) (fun () => [.deleteHistory id]) s &&
      match App.deleteHistory env id s with
      | (.ok (), s) => settlesEach ids s
      | (.error _, _) => true

/-- Whether all calls are settled that an operation makes. -/
def Operation.settles : Operation → App T × ω → Bool
  | .setupPin new confirm, s =>
    settlesAfter env (storePin env new confirm) (fun digest => [.backupDigest (some digest)]) s
  | .press key, s =>
    match s.1.calculator.press (env.stamp s.2) key s.1.store with
    | (.ok reply, calculator, store) =>
      settlesAll env reply.commands
        (takeStore env store ({ s.1 with calculator := calculator }, s.2))
    | (.error _, _, _) => true
  | .deleteHistory id, s =>
    settlesAfter env (dropHistory env id) (fun () => [.deleteHistory id]) s
  | .deleteHistories ids, s => settlesEach env ids s
  | .clearHistory, s => settlesAfter env (dropHistories env) (fun () => [.clearHistory]) s
  | .syncHistory, s => settlesFetch env s
  | .upload v name data, s =>
    settlesAfter env (keepFile env v name data) (fun f => [.backupFile f]) s
  | .deleteFile id, s => settlesAfter env (dropFile env id) (fun () => [.deleteFile id]) s
  | .changePin v current new confirm, s =>
    settlesAfter env (rekey env v current new confirm) (fun _ => Vault.Session.changeCommands new
      (v.changePin current new confirm s.1.store).2.2) s
  | .backupAll, s =>
    settlesAfter env (snapshot env)
      (fun all => [.backupAll all.pinDigest all.files all.history]) s

/-- A change of the PIN prepares its changes in the store as other actions do. -/
theorem changePin_state (v : Vault.Session) (current new confirm : String) (s : App T × ω) :
    (changePin env current new confirm v s).2 =
      (andThen (rekey env v current new confirm) (fun n => tell env
        (Vault.Session.changeCommands new (v.changePin current new confirm s.1.store).2.2) n)
        s).2 := by
  unfold changePin andThen rekey
  dsimp only
  generalize onStore env _ s = t
  obtain ⟨r, s'⟩ := t
  cases r <;> rfl

/-- What operations leave. -/
def after (operations : List Operation) (s : App T × ω) : App T × ω :=
  operations.foldl (fun s o => o.after env s) s

/-- Whether all calls are settled that operations make. -/
def settles : List Operation → App T × ω → Bool
  | [], _ => true
  | o :: operations, s => o.settles env s && settles operations (o.after env s)

end

/-- An app with a client, on the connection of a number, that finds its surroundings in some
state. -/
def HasClient (n : Nat) (P : Client T → ω → Prop) (s : App T × ω) : Prop :=
  ∃ c, s.1.remote = some (c, n) ∧ P c s.2

variable {env : Surroundings ω T} {n : Nat} {P : Client T → ω → Prop} {s : App T × ω}

theorem HasClient.takeStore
    (hu : ∀ path changed c w, P c w → P c (env.useDatabase path changed w)) (h : HasClient n P s)
    (store : Store) : HasClient n P (takeStore env store s) := by
  obtain ⟨app, w⟩ := s
  obtain ⟨c, hr, hc⟩ := h
  refine ⟨c, hr, ?_⟩
  unfold App.takeStore
  dsimp only
  cases app.databasePath with
  | none => exact hc
  | some path =>
    dsimp only
    split
    · exact hu _ _ _ _ hc
    · exact hc

theorem HasClient.onStore
    (hu : ∀ path changed c w, P c w → P c (env.useDatabase path changed w)) (h : HasClient n P s)
    (operation : Store → Except Failure α × Store) :
    HasClient n P (onStore env operation s).2 := by
  obtain ⟨app, w⟩ := s
  unfold App.onStore
  dsimp only
  split
  · exact h.takeStore hu _
  · split
    · exact h.takeStore hu _
    · exact h

theorem HasClient.refresh
    (hu : ∀ path changed c w, P c w → P c (env.useDatabase path changed w)) (h : HasClient n P s)
    (take : Store → Calculator.Session → Except Store.Error Unit × Calculator.Session) :
    HasClient n P (refresh env take s).2 := by
  have hc : HasClient n P ({ s.1 with calculator := (take s.1.store s.1.calculator).2 }, s.2) := h
  exact hc.takeStore hu s.1.store

theorem HasClient.run {ε : Type} (hb : ∀ call c w, P c w → P c (env.callBucket call w).2)
    {c : Client T} (p : Backup.Program ε α) {w : ω} (h : P c w) :
    P c (p.run env.callBucket w).2 := by
  induction p generalizing w with
  | done r => exact h
  | call call next ih => exact ih _ (hb call c w h)

/-- Neither sealing a snapshot nor writing it into the bucket has to do with the service. -/
theorem HasClient.save (hb : ∀ call c w, P c w → P c (env.callBucket call w).2) {c : Client T}
    (snapshots : Backup.SnapshotStore) (all : Snapshot) {w : ω} (h : P c w) :
    P c (snapshots.save env all none w).2 := by
  unfold Backup.SnapshotStore.save
  split
  · exact h
  · exact h
  · exact HasClient.run hb _ h

variable [TimeScale T]

/-- A condition under which every call is settled, and that lasts. -/
structure Lasts (env : Surroundings ω T) (n : Nat) (P : Client T → ω → Prop) : Prop where
  ask : ∀ method node body c w, P c w → Settled (c.ask (env.link n) method node body w).1 ∧
    P (c.ask (env.link n) method node body w).2.1 (c.ask (env.link n) method node body w).2.2
  useDatabase : ∀ path changed c w, P c w → P c (env.useDatabase path changed w)
  callBucket : ∀ call c w, P c w → P c (env.callBucket call w).2

/-- An action that such a condition outlasts. -/
def Preserves (n : Nat) (P : Client T → ω → Prop) (action : Action ω T α) : Prop :=
  ∀ s, HasClient n P s → HasClient n P (action s).2

omit [TimeScale T] in
theorem Preserves.andThen {first : Action ω T α} {next : α → Action ω T β}
    (hf : Preserves n P first) (hn : ∀ a, Preserves n P (next a)) :
    Preserves n P (andThen first next) := by
  intro s h
  have hs := hf s h
  unfold App.andThen
  split
  · next he =>
    rw [he] at hs
    exact hs
  · next ho =>
    rw [ho] at hs
    exact hn _ _ hs

theorem preserves_onStore (hl : Lasts env n P) (operation : Store → Except Failure α × Store) :
    Preserves n P (onStore env operation) :=
  fun _ h => h.onStore hl.useDatabase operation

theorem preserves_change (hl : Lasts env n P) (write : Store → Except Failure (α × Store)) :
    Preserves n P (change env write) :=
  preserves_onStore hl _

theorem preserves_refresh (hl : Lasts env n P)
    (take : Store → Calculator.Session → Except Store.Error Unit × Calculator.Session) :
    Preserves n P (refresh env take) :=
  fun _ h => h.refresh hl.useDatabase take

theorem Lasts.attemptAll (hl : Lasts env n P) (ks : List Command) {c : Client T} {w : ω}
    (h : P c w) : c.settlesAll (env.link n) ks w = true ∧
      ∃ r c' w', (Client.copy env.link).attemptAll ks (some (c, n), w) = (r, some (c', n), w') ∧
        P c' w' := by
  induction ks generalizing c w with
  | nil => exact ⟨rfl, _, c, w, rfl, h⟩
  | cons k ks ih =>
    obtain ⟨hs, hp⟩ := hl.ask k.method k.node k.body c w h
    obtain ⟨hks, r, c', w', ha, hp'⟩ := ih hp
    refine ⟨?_, r, c', w', ?_, hp'⟩
    · unfold Client.settlesAll
      exact Bool.and_eq_true_iff.2 ⟨decide_eq_true hs, hks⟩
    · unfold Copy.attemptAll
      rw [attempt_settled hs]
      exact ha

theorem Lasts.settlesAll (hl : Lasts env n P) (h : HasClient n P s) (ks : List Command) :
    settlesAll env ks s = true := by
  obtain ⟨app, w⟩ := s
  obtain ⟨c, hr, hc⟩ := h
  dsimp only at hr
  unfold App.settlesAll
  simp only [hr]
  exact (hl.attemptAll ks hc).1

theorem preserves_tell (hl : Lasts env n P) (ks : List Command) (a : α) :
    Preserves n P (tell env ks a) := by
  rintro ⟨app, w⟩ ⟨c, hr, hc⟩
  dsimp only at hr
  obtain ⟨-, r, c', w', ha, hc'⟩ := hl.attemptAll ks hc
  unfold tell
  dsimp only
  rw [hr, ha]
  exact ⟨c', rfl, hc'⟩

theorem Lasts.settlesAfter (hl : Lasts env n P) (h : HasClient n P s) {first : Action ω T α}
    (hf : Preserves n P first) (changes : α → List Command) :
    settlesAfter env first changes s = true := by
  have hs := hf s h
  unfold App.settlesAfter
  split
  · next ho =>
    rw [ho] at hs
    exact hl.settlesAll hs _
  · rfl

omit [TimeScale T] in
theorem preserves_each {action : Int → Action ω T Unit}
    (ha : ∀ id, Preserves n P (action id)) (ids : List Int) :
    Preserves n P (each action ids) := by
  intro s h
  induction ids generalizing s with
  | nil => exact h
  | cons id ids ih =>
    have hs := ha id s h
    unfold each
    generalize action id s = t at hs
    obtain ⟨r, s'⟩ := t
    cases r with
    | error e => exact hs
    | ok _ => exact ih s' hs

theorem preserves_deleteHistory (hl : Lasts env n P) (id : Int) :
    Preserves n P (deleteHistory env id) :=
  (preserves_onStore hl _).andThen fun _ => preserves_tell hl _ _

theorem preserves_press (hl : Lasts env n P) (key : Keypad.Key) :
    Preserves n P (press env key) := by
  rintro ⟨app, w⟩ h
  have hc (calculator : Calculator.Session) :
      HasClient n P ({ app with calculator := calculator }, w) := h
  unfold press
  dsimp only
  split
  · split
    · exact (hc _).takeStore hl.useDatabase _
    · exact hc _
  · exact preserves_tell hl _ _ _ ((hc _).takeStore hl.useDatabase _)
  · exact preserves_tell hl _ _ _ (hc _)

theorem preserves_syncHistory (hl : Lasts env n P) : Preserves n P (syncHistory env) := by
  have hf : Preserves n P (remoteHistory env) := by
    rintro ⟨app, w⟩ ⟨c, hr, hc⟩
    dsimp only at hr
    have hs := historyOrNone_state env.link n c w
    have hp := (hl.ask .get ["calculation_history"] (fun _ => none) c w hc).2
    unfold remoteHistory
    dsimp only
    rw [hr]
    generalize (Client.copy env.link).historyOrNone (some (c, n), w) = t at hs
    obtain ⟨r, t⟩ := t
    dsimp only at hs
    rw [hs]
    exact ⟨_, rfl, hp⟩
  apply hf.andThen
  rintro records ⟨app, w⟩ h
  dsimp only
  split
  · exact h
  · exact h.onStore hl.useDatabase _

theorem preserves_backupAll (hl : Lasts env n P) : Preserves n P (backupAll env) := by
  have hs : Preserves n P (snapshot env) := fun _ h => h.onStore hl.useDatabase _
  refine hs.andThen fun all => (preserves_tell hl _ _).andThen fun _ => ?_
  rintro ⟨app, w⟩ ⟨c, hr, hc⟩
  dsimp only
  split
  · exact ⟨c, hr, hc⟩
  · next snapshots _ =>
    have hb := HasClient.save hl.callBucket snapshots all hc
    split
    all_goals
      next he =>
      rw [he] at hb
      exact ⟨c, hr, hb⟩

theorem Lasts.after (hl : Lasts env n P) (o : Operation) (h : HasClient n P s) :
    HasClient n P (o.after env s) := by
  cases o with
  | setupPin new confirm =>
    have hp : Preserves n P (storePin env new confirm) := preserves_change hl _
    have hr : Preserves n P (resume env) := preserves_refresh hl _
    exact (hp.andThen fun _ => (preserves_tell hl _ _).andThen fun _ => hr) s h
  | press key => exact preserves_press hl key s h
  | deleteHistory id => exact preserves_deleteHistory hl id s h
  | deleteHistories ids => exact preserves_each (preserves_deleteHistory hl) ids s h
  | clearHistory =>
    have hp : Preserves n P (clearHistory env) :=
      (preserves_onStore hl _).andThen fun _ => preserves_tell hl _ _
    exact hp s h
  | syncHistory => exact preserves_syncHistory hl s h
  | upload v name data =>
    have hp : Preserves n P (upload env name data v) := fun s h =>
      ((preserves_onStore hl _).andThen fun _ => preserves_tell hl _ _) s h
    exact hp s h
  | deleteFile id =>
    have hp : Preserves n P (deleteFile env id) :=
      (preserves_onStore hl _).andThen fun _ => preserves_tell hl _ _
    exact hp s h
  | changePin v current new confirm =>
    have hr : Preserves n P (rekey env v current new confirm) :=
      fun _ h => h.onStore hl.useDatabase _
    show HasClient n P (changePin env current new confirm v s).2
    rw [changePin_state]
    exact hr.andThen (fun _ => preserves_tell hl _ _) s h
  | backupAll => exact preserves_backupAll hl s h

theorem Lasts.settlesEach (hl : Lasts env n P) (ids : List Int) (h : HasClient n P s) :
    settlesEach env ids s = true := by
  induction ids generalizing s with
  | nil => rfl
  | cons id ids ih =>
    have hd := preserves_deleteHistory hl id s h
    unfold App.settlesEach
    refine Bool.and_eq_true_iff.2 ⟨hl.settlesAfter h (preserves_change hl _) _, ?_⟩
    split
    · next ho =>
      rw [ho] at hd
      exact ih hd
    · rfl

theorem Lasts.settles (hl : Lasts env n P) (o : Operation) (h : HasClient n P s) :
    o.settles env s = true := by
  cases o with
  | press key =>
    have hc (calculator : Calculator.Session) :
        HasClient n P ({ s.1 with calculator := calculator }, s.2) := h
    unfold Operation.settles
    dsimp only
    split
    · exact hl.settlesAll ((hc _).takeStore hl.useDatabase _) _
    · rfl
  | deleteHistories ids => exact hl.settlesEach ids h
  | syncHistory =>
    obtain ⟨c, hr, hc⟩ := h
    have hs := (hl.ask .get ["calculation_history"] (fun _ => none) c s.2 hc).1
    show settlesFetch env s = true
    unfold settlesFetch Client.settlesFetch
    simp only [hr]
    exact decide_eq_true hs
  | setupPin | deleteHistory | clearHistory | deleteFile =>
    exact hl.settlesAfter h (preserves_change hl _) _
  | upload | changePin | backupAll =>
    exact hl.settlesAfter h (fun _ h => h.onStore hl.useDatabase _) _

theorem Lasts.run (hl : Lasts env n P) (operations : List Operation) (h : HasClient n P s) :
    HasClient n P (App.after env operations s) := by
  induction operations generalizing s with
  | nil => exact h
  | cons o operations ih => exact ih (hl.after o h)

/-- All calls of a run are settled. -/
theorem settles_run (hl : Lasts env n P) (operations : List Operation) (h : HasClient n P s) :
    settles env operations s = true := by
  induction operations generalizing s with
  | nil => rfl
  | cons o operations ih =>
    exact Bool.and_eq_true_iff.2 ⟨hl.settles o h, ih (hl.after o h)⟩

end CovertVault.App
