import CovertVault.Proofs.App.Calls
import CovertVault.Proofs.Calculator.Recording
import CovertVault.Proofs.Remote.Server
import CovertVault.Proofs.Remote.Showing
import CovertVault.Proofs.Vault.Operations

namespace CovertVault.App
open Remote Store

/-- The tree of a user at a service, and the number of the connection to it. -/
structure Site (ω : Type) where
  connection : Nat
  user : String
  tree : ω → Json

variable {ω T α β : Type}

/-- Surroundings in which only calls of the service change the tree. -/
structure Attached (env : Surroundings ω T) (site : Site ω) : Prop where
  keeps : (env.link site.connection).Keeps site.user site.tree
  useDatabase : ∀ path changed w, site.tree (env.useDatabase path changed w) = site.tree w
  callBucket : ∀ c w, site.tree (env.callBucket c w).2 = site.tree w
  /-- No time stamp is empty. -/
  stamp : ∀ w, env.stamp w ≠ .ok ""

/-- An app with a client for the site, and what the tree there is. -/
def Faces (site : Site ω) (t : Json) : App T × ω → Prop :=
  HasClient site.connection fun c w => c.user = site.user ∧ site.tree w = t

variable {env : Surroundings ω T} {site : Site ω} {t : Json} {s : App T × ω}

theorem Faces.tree (h : Faces site t s) : site.tree s.2 = t := by
  obtain ⟨c, -, -, ht⟩ := h
  exact ht

theorem Attached.keepsTree (ha : Attached env site) (path : String) (changed : Bool) (c : Client T)
    (w : ω) (h : c.user = site.user ∧ site.tree w = t) :
    c.user = site.user ∧ site.tree (env.useDatabase path changed w) = t :=
  ⟨h.1, (ha.useDatabase path changed w).trans h.2⟩

theorem Attached.keepsBucket (ha : Attached env site) (call : Backup.Call) (c : Client T) (w : ω)
    (h : c.user = site.user ∧ site.tree w = t) :
    c.user = site.user ∧ site.tree (env.callBucket call w).2 = t :=
  ⟨h.1, (ha.callBucket call w).trans h.2⟩

theorem Faces.takeStore (ha : Attached env site) (h : Faces site t s) (store : Store) :
    Faces site t (takeStore env store s) :=
  HasClient.takeStore ha.keepsTree h store

theorem Faces.onStore (ha : Attached env site) (h : Faces site t s)
    (operation : Store → Except Failure α × Store) :
    Faces site t (onStore env operation s).2 :=
  HasClient.onStore ha.keepsTree h operation

theorem Faces.refresh (ha : Attached env site) (h : Faces site t s)
    (take : Store → Calculator.Session → Except Store.Error Unit × Calculator.Session) :
    Faces site t (refresh env take s).2 :=
  HasClient.refresh ha.keepsTree h take

/-- An app whose database the tree mirrors once some changes are carried out. -/
structure Pending (site : Site ω) (changes : List Command) (s : App T × ω) : Prop where
  faces : Faces site (site.tree s.2) s
  orderly : s.1.store.Orderly
  mirrors : ∀ u, Carried changes (site.tree s.2) u → Mirrors s.1.store.db u

/-- An app whose database the tree mirrors. -/
structure Synced (site : Site ω) (s : App T × ω) : Prop where
  faces : Faces site (site.tree s.2) s
  orderly : s.1.store.Orderly
  mirrors : Mirrors s.1.store.db (site.tree s.2)

/-- What the tree is does not matter to the client. -/
theorem Faces.self (h : Faces site t s) : Faces site (site.tree s.2) s := by
  rw [h.tree]
  exact h

/-- Where the tree and the store stay, an app stays in lockstep. -/
theorem Synced.of_faces (h : Synced site s) {s' : App T × ω} (hf : Faces site (site.tree s.2) s')
    (hs : s'.1.store = s.1.store) : Synced site s' := by
  refine ⟨hf.self, ?_, ?_⟩
  · rw [hs]
    exact h.orderly
  · rw [hs, hf.tree]
    exact h.mirrors

/-- A first step of an action that keeps up the lockstep when it fails, and otherwise leaves some
changes to be told. -/
structure Prepares (site : Site ω) (first : Action ω T α) (changes : α → List Command)
    (s : App T × ω) : Prop where
  error : ∀ e s', first s = (.error e, s') → Synced site s'
  ok : ∀ a s', first s = (.ok a, s') → Pending site (changes a) s'

variable {changes : α → List Command}

/-- An operation on the store that leaves it alone when it fails, and otherwise changes it as the
changes that are to be told change the tree. -/
theorem prepares_onStore (ha : Attached env site) (h : Synced site s) {first : Action ω T α}
    {operation : Store → Except Failure α × Store}
    (hfirst : first s = App.onStore env operation s)
    (he : ∀ e store, operation s.1.store = (.error e, store) → store = s.1.store)
    (hw : ∀ a store, operation s.1.store = (.ok a, store) → store.Orderly ∧
      ∀ u, Carried (changes a) (site.tree s.2) u → Mirrors store.db u) :
    Prepares site first changes s := by
  have hf := h.faces.onStore ha operation
  have ho := onStore_outcome env operation s
  rw [← hfirst] at hf ho
  constructor
  case error =>
    intro e s' hs
    rw [hs] at hf ho
    exact h.of_faces hf (he e s'.1.store ho.symm)
  case ok =>
    intro a s' hs
    rw [hs] at hf ho
    obtain ⟨hord, hm⟩ := hw a s'.1.store ho.symm
    refine ⟨hf.self, hord, ?_⟩
    rw [hf.tree]
    exact hm

theorem prepares_change (ha : Attached env site) (h : Synced site s)
    {write : Store → Except Failure (α × Store)}
    (hw : ∀ a store, write s.1.store = .ok (a, store) → store.Orderly ∧
      ∀ u, Carried (changes a) (site.tree s.2) u → Mirrors store.db u) :
    Prepares site (change env write) changes s := by
  apply prepares_onStore ha h rfl
  · intro e store hs
    split at hs
    · cases hs
    · cases hs
      rfl
  · intro a store hs
    split at hs
    · next hk =>
      cases hs
      exact hw _ _ hk
    · cases hs

/-- A write that gives nothing back, and that one change tells of. -/
theorem prepares_drop (ha : Attached env site) (h : Synced site s)
    {drop : Store → Except Store.Error Store} {k : Command}
    (hw : ∀ store, drop s.1.store = .ok store → store.Orderly ∧
      ∀ now, Mirrors store.db (k.apply now (site.tree s.2))) :
    Prepares site (change env fun store => ((drop store).map ((), ·)).mapError .store)
      (fun () => [k]) s := by
  refine prepares_change ha h fun _ store hs => ?_
  obtain ⟨t, ht, he⟩ := map_eq_ok (mapError_eq_ok hs)
  cases he
  obtain ⟨ho, hm⟩ := hw _ ht
  refine ⟨ho, fun u hc => ?_⟩
  obtain ⟨now, rfl⟩ := hc.single
  exact hm now

variable [TimeScale T]

/-- Changes that are told are carried out. -/
theorem Faces.tell (ha : Attached env site) (h : Faces site t s) {changes : List Command}
    (hs : settlesAll env changes s = true) (a : α) :
    (tell env changes a s).1 = .ok a ∧
      ∃ u, Faces site u (tell env changes a s).2 ∧ Carried changes t u := by
  obtain ⟨app, w⟩ := s
  obtain ⟨c, hr, hu, rfl⟩ := h
  dsimp only at hr
  unfold settlesAll at hs
  simp only [hr] at hs
  obtain ⟨c', w', he, hu', hc⟩ := attemptAll_settled ha.keeps hu hs
  unfold App.tell
  dsimp only
  rw [hr, he]
  exact ⟨rfl, _, ⟨c', rfl, hu', rfl⟩, hc⟩

theorem Pending.tell (ha : Attached env site) {changes : List Command} (h : Pending site changes s)
    (hs : settlesAll env changes s = true) (a : α) :
    (App.tell env changes a s).1 = .ok a ∧ Synced site (App.tell env changes a s).2 := by
  obtain ⟨hr, u, hf, hc⟩ := h.faces.tell ha hs a
  refine ⟨hr, hf.self, h.orderly, ?_⟩
  rw [hf.tree]
  exact h.mirrors u hc

/-- What is prepared is told, and then the app is in lockstep again. -/
theorem Prepares.andThen_tell (ha : Attached env site) {first : Action ω T α}
    (hp : Prepares site first changes s) (hs : settlesAfter env first changes s = true)
    {result : α → β} :
    Synced site (andThen first (fun a => App.tell env (changes a) (result a)) s).2 := by
  unfold andThen
  unfold settlesAfter at hs
  split
  · next he => exact hp.error _ _ he
  · next ho =>
    rw [ho] at hs
    exact ((hp.ok _ _ ho).tell ha hs _).2

/-- The same when something follows that keeps up the lockstep. -/
theorem Prepares.andThen_tell_andThen (ha : Attached env site) {first : Action ω T α}
    (hp : Prepares site first changes s) (hs : settlesAfter env first changes s = true)
    {next : α → Unit → Action ω T β} (hn : ∀ a s', Synced site s' → Synced site (next a () s').2) :
    Synced site (andThen first (fun a => andThen (App.tell env (changes a) ()) (next a)) s).2 := by
  unfold andThen
  unfold settlesAfter at hs
  split
  · next he => exact hp.error _ _ he
  · next a _ ho =>
    rw [ho] at hs
    obtain ⟨-, hy⟩ := (hp.ok _ _ ho).tell ha hs ()
    dsimp only
    split
    · next he =>
      rw [he] at hy
      exact hy
    · next ht =>
      rw [ht] at hy
      exact hn a _ hy

theorem synced_setupPin (ha : Attached env site) (h : Synced site s) {new confirm : String}
    (hs : (Operation.setupPin new confirm).settles env s = true) :
    Synced site (setupPin env new confirm s).2 := by
  have hp : Prepares site (storePin env new confirm)
      (fun digest => [.backupDigest (some digest)]) s := by
    refine prepares_change ha h fun digest store hw => ?_
    obtain ⟨hv, rfl, rfl⟩ := Vault.setupPin_eq_ok (mapError_eq_ok hw)
    refine ⟨h.orderly.setSecret ?_, fun u hc => ?_⟩
    · simp [Secret.ofPin, Pin.digest_ne_empty]
    · obtain ⟨now, rfl⟩ := hc.single
      exact h.mirrors.backupDigest now rfl
  -- The calculator takes over the digest, which changes neither store nor tree.
  exact hp.andThen_tell_andThen ha hs fun _ _ hy => hy.of_faces (hy.faces.refresh ha _) rfl

theorem synced_deleteHistory (ha : Attached env site) (h : Synced site s) {id : Int}
    (hs : (Operation.deleteHistory id).settles env s = true) :
    Synced site (deleteHistory env id s).2 := by
  have hp : Prepares site (dropHistory env id) (fun () => [.deleteHistory id]) s := by
    refine prepares_drop ha h fun store hw => ?_
    rw [deleteHistory_ok hw]
    exact ⟨h.orderly.removeCalculation id, fun now => h.mirrors.deleteHistory now id⟩
  exact hp.andThen_tell ha hs

theorem synced_deleteHistories (ha : Attached env site) {ids : List Int} (h : Synced site s)
    (hs : settlesEach env ids s = true) :
    Synced site (each (deleteHistory env) ids s).2 := by
  induction ids generalizing s with
  | nil => exact h
  | cons id ids ih =>
    unfold settlesEach at hs
    obtain ⟨hd, hs⟩ := Bool.and_eq_true_iff.1 hs
    have hy := synced_deleteHistory ha h hd
    unfold each
    generalize deleteHistory env id s = t at hy hs
    obtain ⟨r, s'⟩ := t
    cases r with
    | error e => exact hy
    | ok _ => exact ih hy hs

theorem synced_clearHistory (ha : Attached env site) (h : Synced site s)
    (hs : Operation.clearHistory.settles env s = true) :
    Synced site (clearHistory env s).2 := by
  have hp : Prepares site (dropHistories env) (fun () => [.clearHistory]) s := by
    refine prepares_drop ha h fun store hw => ?_
    rw [clearHistory_ok hw]
    exact ⟨h.orderly.clear, fun now => h.mirrors.clearHistory now⟩
  exact hp.andThen_tell ha hs

theorem synced_deleteFile (ha : Attached env site) (h : Synced site s) {id : Int}
    (hs : (Operation.deleteFile id).settles env s = true) :
    Synced site (deleteFile env id s).2 := by
  have hp : Prepares site (dropFile env id) (fun () => [.deleteFile id]) s := by
    refine prepares_drop ha h fun store hw => ?_
    rw [Store.deleteFile_ok hw]
    exact ⟨h.orderly.removeFile id, fun now => h.mirrors.deleteFile now id⟩
  exact hp.andThen_tell ha hs

theorem synced_upload (ha : Attached env site) (h : Synced site s) {v : Vault.Session}
    {name : String} {data : Bytes}
    (hs : (Operation.upload v name data).settles env s = true) :
    Synced site (upload env name data v s).2 := by
  obtain ⟨app, w⟩ := s
  have hp : Prepares site (keepFile env v name data) (fun f => [.backupFile f]) (app, w) := by
    have hc := v.upload_cases h.orderly (env.stamp w) name data
    have hf : keepFile env v name data (app, w) = onStore env _ (app, w) := rfl
    apply prepares_onStore ha h hf
    · intro e store he
      dsimp only at he
      obtain ⟨e', hu⟩ | ⟨row, hu, -, -⟩ := hc
      · rw [hu] at he
        cases he
        rfl
      · rw [hu] at he
        cases he
    · intro f store he
      dsimp only at he
      obtain ⟨e', hu⟩ | ⟨row, hu, hi, hf⟩ := hc
      · rw [hu] at he
        cases he
      · rw [hu] at he
        cases he
        -- The id is new, so the copy is told of the file where the tree has none.
        refine ⟨h.orderly.addFile hi hf, fun u hc => ?_⟩
        obtain ⟨now, rfl⟩ := hc.single
        exact h.mirrors.backupFile now h.orderly.files hi
  exact hp.andThen_tell ha hs

theorem synced_changePin (ha : Attached env site) (h : Synced site s) {v : Vault.Session}
    {current new confirm : String}
    (hs : (Operation.changePin v current new confirm).settles env s = true) :
    Synced site (changePin env current new confirm v s).2 := by
  have hp : Prepares site (rekey env v current new confirm) (fun _ =>
      Vault.Session.changeCommands new (v.changePin current new confirm s.1.store).2.2) s := by
    have hc := v.changePin_cases current new confirm s.1.store
    have hf : rekey env v current new confirm s = onStore env _ s := rfl
    apply prepares_onStore ha h hf
    · intro e store he
      obtain ⟨e', hc⟩ | ⟨-, n, hc⟩ := hc
      · rw [hc] at he
        cases he
        rfl
      · rw [hc] at he
        cases he
    · intro n store he
      obtain ⟨e', hc⟩ | ⟨hv, n, hc⟩ := hc
      · rw [hc] at he
        cases he
      · rw [hc] at he ⊢
        cases he
        have hd : (Secret.ofPin new).digest ≠ some "" := by
          simp [Secret.ofPin, Pin.digest_ne_empty]
        have ho := h.orderly.withSecret hd (Vault.Session.rekeyed current new)
        refine ⟨ho, fun u hc => ?_⟩
        -- The files are told in the order of the listing, which makes no difference to the tree.
        obtain ⟨files, hr, hperm⟩ := Vault.records_perm ho
        unfold Vault.Session.changeCommands at hc
        dsimp only at hc
        rw [hr] at hc
        exact h.mirrors.rekey h.orderly.files.once _ rfl hperm hc
  rw [changePin_state]
  exact hp.andThen_tell ha hs

theorem synced_press (ha : Attached env site) (h : Synced site s) {key : Keypad.Key}
    (hs : (Operation.press key).settles env s = true) :
    Synced site (press env key s).2 := by
  have hr := Calculator.records_press (env.stamp s.2) key s.1.calculator s.1.store
  obtain ⟨app, w⟩ := s
  unfold Operation.settles at hs
  unfold App.press
  dsimp only at hr hs ⊢
  generalize app.calculator.press (env.stamp w) key app.store = p at hr hs
  cases hr with
  | @nothing r calculator hn =>
    -- Nothing is stored, and nothing is told.
    have hf : Faces site (site.tree w) ({ app with calculator := calculator }, w) := h.faces
    cases r with
    | error e =>
      dsimp only
      split
      · exact h.of_faces (hf.takeStore ha _) rfl
      · exact h.of_faces hf rfl
    | ok reply =>
      have ht : Synced site (App.tell env reply.commands reply
          ({ app with calculator := calculator }, w)).2 := by
        rw [hn reply rfl]
        exact h.of_faces hf rfl
      cases reply with
      | recorded row =>
        cases row with
        | none => exact ht
        | some row => cases hn _ rfl
      | _ => exact ht
  | @row row calculator hnow hi hf =>
    have hc : Faces site (site.tree w) ({ app with calculator := calculator }, w) := h.faces
    have hp : Pending site [.backupHistory row]
        (takeStore env (app.store.addCalculation row)
          ({ app with calculator := calculator }, w)) := by
      have hf' := hc.takeStore ha (app.store.addCalculation row)
      have ht : row.calculatedAt ≠ "" := fun he => ha.stamp w (by rw [hnow, he])
      refine ⟨hf'.self, h.orderly.addCalculation hi hf ht, fun u hc => ?_⟩
      obtain ⟨now, rfl⟩ := hc.single
      rw [hf'.tree]
      exact h.mirrors.backupHistory now h.orderly.history hi ht
    exact (hp.tell ha hs _).2

/-- There is never anything to take in from a tree that mirrors the database. -/
theorem syncHistory_nothing (ha : Attached env site) (h : Synced site s)
    (hs : settlesFetch env s = true) :
    (syncHistory env s).1 = .ok 0 ∧ (syncHistory env s).2.1.store = s.1.store ∧
      Synced site (syncHistory env s).2 := by
  obtain ⟨app, w⟩ := s
  obtain ⟨c, hr, hu, -⟩ := h.faces
  dsimp only at hr
  unfold settlesFetch at hs
  simp only [hr] at hs
  -- Whatever is shown under a key is a calculation that the store holds.
  have hrows : ∀ key v, (site.tree w).at? ["calculation_history", key] = some v →
      ∃ r ∈ app.store.db.history, ShowsCalculation r v := by
    intro key v hv
    have hrel := h.mirrors.history key
    dsimp only at hrel
    rw [hv] at hrel
    cases hr : byKey (·.id) app.store.db.history key with
    | none =>
      rw [hr] at hrel
      cases hrel
    | some r =>
      rw [hr] at hrel
      cases hrel with
      | some hshow => exact ⟨r, List.mem_of_find?_eq_some hr, hshow⟩
  obtain ⟨records, c', w', he, hu', ht, hall⟩ := historyOrNone_settled ha.keeps hu hs hrows
  have hf : Faces site (site.tree w) ({ app with remote := some (c', site.connection) }, w') :=
    ⟨c', rfl, hu', ht⟩
  unfold syncHistory andThen remoteHistory
  dsimp only
  rw [hr, he]
  dsimp only [mapError_ok]
  split
  · exact ⟨rfl, rfl, h.of_faces hf rfl⟩
  · unfold onStore
    dsimp only
    rw [h.orderly.mergeRaw_retold _ hall]
    exact ⟨rfl, rfl, h.of_faces (hf.takeStore ha app.store) rfl⟩

theorem synced_backupAll (ha : Attached env site) (h : Synced site s)
    (hs : Operation.backupAll.settles env s = true) : Synced site (backupAll env s).2 := by
  obtain ⟨app, w⟩ := s
  have hp : Prepares site (snapshot env)
      (fun all => [.backupAll all.pinDigest all.files all.history]) (app, w) := by
    have hf : snapshot env (app, w) = onStore env _ (app, w) := rfl
    apply prepares_onStore ha h hf
    · intro e store he
      exact (Prod.mk.inj he).2.symm
    · intro all store he
      obtain ⟨hall, rfl⟩ := Prod.mk.inj he
      obtain ⟨hd, hfiles, hhist⟩ := Vault.snapshot_ok h.orderly (mapError_eq_ok hall)
      refine ⟨h.orderly, fun u hc => ?_⟩
      obtain ⟨now, rfl⟩ := hc.single
      rw [hd]
      exact mirrors_backupAll now h.orderly.files.once h.orderly.history.once hfiles hhist
  -- What becomes of the bucket is of no concern to the service.
  refine hp.andThen_tell_andThen ha hs fun all s' hy => ?_
  obtain ⟨app, w⟩ := s'
  dsimp only
  split
  · exact hy
  · next snapshots _ =>
    obtain ⟨c, hr, hc⟩ := hy.faces
    have hb := HasClient.save ha.keepsBucket snapshots all hc
    split
    all_goals
      next he =>
      rw [he] at hb
      exact hy.of_faces ⟨c, hr, hb⟩ rfl

theorem synced_after (ha : Attached env site) (o : Operation) (h : Synced site s)
    (hs : o.settles env s = true) : Synced site (o.after env s) := by
  cases o with
  | setupPin new confirm => exact synced_setupPin ha h hs
  | press key => exact synced_press ha h hs
  | deleteHistory id => exact synced_deleteHistory ha h hs
  | deleteHistories ids => exact synced_deleteHistories ha h hs
  | clearHistory => exact synced_clearHistory ha h hs
  | syncHistory => exact (syncHistory_nothing ha h hs).2.2
  | upload v name data => exact synced_upload ha h hs
  | deleteFile id => exact synced_deleteFile ha h hs
  | changePin v current new confirm => exact synced_changePin ha h hs
  | backupAll => exact synced_backupAll ha h hs

theorem synced_run (ha : Attached env site) (operations : List Operation) (h : Synced site s)
    (hs : settles env operations s = true) : Synced site (after env operations s) := by
  induction operations generalizing s with
  | nil => exact h
  | cons o operations ih =>
    -- The calls of an operation are settled in the state that those before it have left.
    unfold settles at hs
    obtain ⟨ho, hs⟩ := Bool.and_eq_true_iff.1 hs
    exact ih (synced_after ha o h ho) hs

/-- Whatever is done with a new app, and however often its calls fail before they are settled: the
tree mirrors the database, and fetching it adds nothing. -/
theorem mirrors_run (ha : Attached env site) (operations : List Operation) {app : App T} {w : ω}
    {c : Client T} (he : app.store = Store.empty) (hr : app.remote = some (c, site.connection))
    (hu : c.user = site.user) (ht : ∀ key, (site.tree w).child? key = none)
    (hs : settles env operations (app, w) = true) :
    Mirrors (after env operations (app, w)).1.store.db
        (site.tree (after env operations (app, w)).2) ∧
      (settlesFetch env (after env operations (app, w)) = true →
        (syncHistory env (after env operations (app, w))).1 = .ok 0 ∧
        (syncHistory env (after env operations (app, w))).2.1.store =
          (after env operations (app, w)).1.store) := by
  have h : Synced site (app, w) := by
    refine ⟨⟨c, hr, hu, rfl⟩, ?_, ?_⟩
    · rw [he]
      exact orderly_empty
    · rw [he]
      exact mirrors_empty ht
  have hy := synced_run ha operations h hs
  refine ⟨hy.mirrors, fun hf => ?_⟩
  obtain ⟨hn, hst, -⟩ := syncHistory_nothing ha hy hf
  exact ⟨hn, hst⟩

/-- A new app with a client of a service at the end of a bad line. -/
def distantApp : App Rat :=
  ⟨Store.empty, some "v.db", .ofDigest none,
    some (⟨"u", none, ⟨Client.defaultRate.toNat, TimeScale.ofMillis 1000, []⟩⟩, 0), none⟩

/-- Such an app, and nothing in the tree yet. -/
def distant : App Rat × Server := (distantApp, ⟨.null, 0, 0⟩)

theorem attached_server (user : String) : Attached Server.surroundings ⟨0, user, Server.tree⟩ where
  keeps := Server.keeps user 0
  useDatabase _ _ _ := rfl
  callBucket _ _ := rfl
  stamp _ h := by simp [Server.surroundings] at h

theorem lasts_rested : Lasts Server.surroundings 0 Server.Rested where
  ask method node body _ _ h := Server.ask_rested h 0 method node body
  useDatabase _ _ _ _ h := h
  callBucket _ _ _ h := h

theorem hasClient_distant : HasClient 0 Server.Rested distant :=
  ⟨_, rfl, rfl, by decide, by norm_num [TimeScale.ofMillis], by simp⟩

/-- A PIN, calculations and files that come and go, each told on the third try. -/
def distantOperations : List Operation :=
  [.setupPin "12345" "12345", .press (.digit ['7']), .press .equals, .press .equals,
    .deleteHistory 1, .upload ⟨"12345"⟩ "a.txt" [104, 105], .upload ⟨"12345"⟩ "b" [],
    .changePin ⟨"12345"⟩ "12345" "54321" "54321", .deleteFile 1, .syncHistory, .backupAll]

theorem distantOperations_mirrors_run :
    settles Server.surroundings distantOperations distant = true ∧
      Mirrors (after Server.surroundings distantOperations distant).1.store.db
        (after Server.surroundings distantOperations distant).2.tree ∧
      (syncHistory Server.surroundings
        (after Server.surroundings distantOperations distant)).1 = .ok 0 := by
  have hs := settles_run lasts_rested distantOperations hasClient_distant
  have hf : settlesFetch Server.surroundings
      (after Server.surroundings distantOperations distant) = true :=
    lasts_rested.settles .syncHistory (lasts_rested.run distantOperations hasClient_distant)
  obtain ⟨hm, hn⟩ := mirrors_run (attached_server "u") distantOperations rfl rfl rfl
    (fun _ => rfl) hs
  exact ⟨hs, hm, (hn hf).1⟩

end CovertVault.App
