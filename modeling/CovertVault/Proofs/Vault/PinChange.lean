import CovertVault.Proofs.App.Effects
import CovertVault.Proofs.Vault.Operations
import CovertVault.Proofs.Vault.Shelf
import CovertVault.World
import Mathlib.Logic.Relation

namespace CovertVault.Store

/-- One write to the store. Those that put a secret there put that of a valid PIN. -/
inductive Write (s : Store) : Store → Prop
  | addFile (row : FileRecord) : Write s (s.addFile row)
  | removeFile (id : Int) : Write s (s.removeFile id)
  | setPin {pin : String} : Pin.isValid pin = true →
      Write s (s.withDatabase { s.db with secret := .ofPin pin })
  | changePin {pin : String} (transform : Bytes → Bytes) : Pin.isValid pin = true →
      Write s (s.withSecret (.ofPin pin) transform)
  | close : Write s s.close

abbrev Writes : Store → Store → Prop := Relation.ReflTransGen Write

/-- No secret is stored, or that of a valid PIN; and nothing stands in the way of the store. -/
structure Coherent (s : Store) : Prop where
  secret : s.db.secret = .unset ∨ ∃ p, Pin.isValid p = true ∧ s.db.secret = .ofPin p
  faults : s.db.faults = []
  hidden : s.hidden = []

theorem coherent_empty : Coherent empty := ⟨.inl rfl, rfl, rfl⟩

variable {s t : Store}

theorem Coherent.write (h : s.Coherent) (hw : Write s t) : t.Coherent := by
  cases hw with
  | addFile row => exact ⟨h.secret, h.faults, h.hidden⟩
  | removeFile id => exact ⟨h.secret, h.faults, h.hidden⟩
  | setPin hv => exact ⟨.inr ⟨_, hv, rfl⟩, h.faults, h.hidden⟩
  | changePin transform hv => exact ⟨.inr ⟨_, hv, rfl⟩, h.faults, h.hidden⟩
  | close => exact ⟨h.secret, h.faults, h.hidden⟩

theorem Coherent.writes (h : s.Coherent) (hw : Writes s t) : t.Coherent := by
  induction hw with
  | refl => exact h
  | tail _ hw ih => exact ih.write hw

/-- An open store with a secret has a PIN in force. -/
theorem Coherent.secures (h : s.Coherent) (ho : s.isOpen = true) (hs : s.db.secret ≠ .unset) :
    ∃ p, s.Secures p := by
  obtain hu | ⟨p, hv, hp⟩ := h.secret
  · exact absurd hu hs
  · exact ⟨p, ⟨ho, h.faults, h.hidden⟩, hv, hp⟩

end CovertVault.Store

namespace CovertVault.Vault
open App Store

theorem writes_setupPin {new confirm digest : String} {store store' : Store}
    (h : setupPin new confirm store = .ok (digest, store')) : Writes store store' := by
  obtain ⟨hv, -, rfl⟩ := setupPin_eq_ok h
  exact .single (.setPin hv)

theorem writes_upload (v : Session) (now : Time.Present) (name : String) (data : Bytes)
    (store : Store) : Writes store (v.upload now name data store).2 := by
  unfold Session.upload Session.keep
  cases h : store.putFile name (Files.extension name) (v.encrypt data) data.length now with
  | error e => exact .refl
  | ok p =>
    obtain ⟨id, store'⟩ := p
    obtain ⟨time, -, -, rfl⟩ := putFile_ok h
    dsimp only
    split
    all_goals exact .single (.addFile _)

theorem writes_changePin (v : Session) (current new confirm : String) (store : Store) :
    Writes store (v.changePin current new confirm store).2.2 := by
  obtain ⟨e, h⟩ | ⟨hv, n, h⟩ := v.changePin_cases current new confirm store
  · rw [h]
  · rw [h]
    exact .single (.changePin _ hv)

/-- All that a session is asked for, and setting the first PIN. -/
inductive Operation where
  | call (c : Call)
  | uploadPath (path : Files.Path)
  | exportFile (id : Int) (path : Files.Path)
  /-- A change of the PIN by texts that may have no UTF-8 form. -/
  | changeTyped (current new confirm : List Text.Point)
  | snapshot
  | backupAll
deriving Repr, DecidableEq

variable {ω T : Type} [Remote.TimeScale T] (env : Surroundings ω T)

/-- What an operation of a session leaves. -/
def Operation.after (v : Session) : Operation → App T × ω → App T × ω
  | .call c, s => (perform env c (some v) s).2.2
  | .uploadPath path, s => (App.uploadPath env path v s).2
  | .exportFile id path, s => (App.exportFile env id path v s).2
  | .changeTyped current new confirm, s => (App.changeTyped env current new confirm v s).2
  | .snapshot, s => (App.snapshot env s).2
  | .backupAll, s => (App.backupAll env s).2

/-- What is left when sessions, old ones and new ones, have worked on one app. -/
def after (operations : List (Session × Operation)) (s : App T × ω) : App T × ω :=
  operations.foldl (fun s (v, o) => o.after env v s) s

theorem writes_deleteFile (id : Int) (s : App T × ω) :
    Writes s.1.store (App.deleteFile env id s).2.1.store := by
  obtain h | h := deleteFile_store env id s
  · rw [h]
  · rw [deleteFile_ok h]
    exact .single (.removeFile id)

theorem writes_each (ids : List Int) (s : App T × ω) :
    Writes s.1.store (each (App.deleteFile env) ids s).2.1.store := by
  induction ids generalizing s with
  | nil => exact .refl
  | cons id ids ih =>
    have hd := writes_deleteFile env id s
    unfold each
    generalize App.deleteFile env id s = t at hd
    obtain ⟨r, s'⟩ := t
    cases r with
    | error e => exact hd
    | ok _ => exact hd.trans (ih s')

theorem writes_perform (c : Call) (v : Session) (s : App T × ω) :
    Writes s.1.store (perform env c (some v) s).2.2.1.store := by
  cases c with
  | setupPin new confirm =>
    show Writes s.1.store (App.setupPin env new confirm s).2.1.store
    obtain h | ⟨digest, h⟩ := setupPin_store env new confirm s
    · rw [h]
    · exact writes_setupPin h
  | unlock pin =>
    have hs : (perform env (.unlock pin) (some v) s).2.2 = (App.unlock env pin s).2 := by
      unfold perform
      dsimp only
      split
      all_goals next h => rw [h]
    rw [hs]
    unfold App.unlock
    rw [query_store]
  | upload name data =>
    show Writes s.1.store (App.upload env name data v s).2.1.store
    rw [upload_store]
    exact writes_upload v _ name data _
  | read id =>
    show Writes s.1.store (App.content env id v s).2.1.store
    unfold App.content
    rw [query_store]
  | list =>
    show Writes s.1.store (App.listFiles env s).2.1.store
    unfold App.listFiles
    rw [query_store]
  | delete id => exact writes_deleteFile env id s
  | deleteAll ids => exact writes_each env ids s
  | changePin current new confirm =>
    show Writes s.1.store (App.changePin env current new confirm v s).2.1.store
    rw [changePin_store]
    exact writes_changePin v current new confirm _

theorem writes_changeTyped (current new confirm : List Text.Point) (v : Session) (s : App T × ω) :
    Writes s.1.store (App.changeTyped env current new confirm v s).2.1.store := by
  cases h : Session.readTyped current new confirm s.1.store with
  | error e => rw [(changeTyped_error env h v).2]
  | ok texts =>
    obtain ⟨c, n, k⟩ := texts
    rw [changeTyped_ok env h, changePin_store]
    exact writes_changePin v c n k _

theorem writes_after (o : Operation) (v : Session) (s : App T × ω) :
    Writes s.1.store (o.after env v s).1.store := by
  cases o with
  | call c => exact writes_perform env c v s
  | uploadPath path =>
    show Writes s.1.store (App.uploadPath env path v s).2.1.store
    obtain h | ⟨name, data, h⟩ := uploadPath_store env path v s
    · rw [h]
    · rw [h]
      exact writes_upload v _ name data _
  | exportFile id path =>
    show Writes s.1.store (App.exportFile env id path v s).2.1.store
    obtain h | h := exportFile_store env id path v s
    · rw [h]
    · rw [h]
      exact .single .close
  | changeTyped current new confirm => exact writes_changeTyped env current new confirm v s
  | snapshot =>
    show Writes s.1.store (App.snapshot env s).2.1.store
    unfold App.snapshot
    rw [query_store]
  | backupAll =>
    show Writes s.1.store (App.backupAll env s).2.1.store
    rw [backupAll_store]

theorem writes_run (operations : List (Session × Operation)) (s : App T × ω) :
    Writes s.1.store (after env operations s).1.store := by
  -- What an operation writes comes behind what the earlier ones have written.
  induction operations generalizing s with
  | nil => exact .refl
  | cons x operations ih => exact (writes_after env x.2 x.1 s).trans (ih _)

/-- What comes of a change of the PIN where `p` is in force: all of it, or nothing. -/
structure ChangesExactly (p : String) (v : Session) (current new confirm : List Text.Point)
    (s : App T × ω) : Prop where
  made : Session.AdmitsTyped p current new confirm → ∃ pin, new = Text.points pin ∧
    Answers s.1.remote (App.changeTyped env current new confirm v s).1.1 s.1.store.db.files.length ∧
      (App.changeTyped env current new confirm v s).1.2 = ⟨pin⟩ ∧
      (App.changeTyped env current new confirm v s).2.1.store =
        s.1.store.withSecret (.ofPin pin) (Session.rekeyed p pin)
  refused : ¬ Session.AdmitsTyped p current new confirm →
    (∃ e, (App.changeTyped env current new confirm v s).1.1 = .error (.vault e) ∧
      ((∃ x, e = .pin x) ∨ (∃ x, e = .mismatch x) ∨
        ∃ x, Text.encodable current = .error x ∧ e = .unencodable x)) ∧
      (App.changeTyped env current new confirm v s).1.2 = v ∧
      (App.changeTyped env current new confirm v s).2.1.store = s.1.store

theorem changesExactly {p : String} {s : App T × ω} (h : s.1.store.Secures p) (v : Session)
    {current : List Text.Point}
    (hd : ∀ pin, current = Text.points pin → Pin.digest pin = Pin.digest p → pin = p)
    (new confirm : List Text.Point) : ChangesExactly env p v current new confirm s where
  made ha := by
    obtain ⟨pin, rfl⟩ := ha.eq_points
    obtain rfl := ha.confirmed
    obtain rfl := ha.known
    rw [changeTyped_ok env (Session.readTyped_points p pin pin s.1.store)]
    exact ⟨pin, rfl,
      changePin_ok env (Session.changePin_of_admits h (Session.admitsTyped_points.1 ha) v)⟩
  refused ha := by
    cases hr : Session.readTyped current new confirm s.1.store with
    | error e =>
      obtain ⟨he, hs⟩ := changeTyped_error env hr v
      rw [he]
      refine ⟨⟨e, rfl, ?_⟩, rfl, hs⟩
      obtain hx | hx := Session.readTyped_error h hr
      · exact .inl hx
      · exact .inr (.inr hx)
    | ok texts =>
      -- All three texts have a UTF-8 form, so the session decides.
      obtain ⟨c, n, k⟩ := texts
      obtain ⟨rfl, rfl, rfl⟩ := Session.readTyped_eq_ok hr
      rw [Session.admitsTyped_points] at ha
      obtain ⟨e, he, hk⟩ := Session.changePin_of_not_admits h (hd c rfl) ha v
      obtain ⟨hans, hs⟩ := changePin_error env he
      rw [changeTyped_ok env hr, hans]
      refine ⟨⟨e, rfl, ?_⟩, rfl, hs⟩
      obtain hx | hx := hk
      · exact .inl hx
      · exact .inr (.inl hx)

/-- However sessions have worked on a new vault: as long as it is in use and has a PIN, that PIN
passes the canary, and a change of it is made exactly when it should be, and then as a whole. -/
theorem changePin_exact (operations : List (Session × Operation)) (app : App T) (w : ω)
    (he : app.store = Store.empty) {s : App T × ω} (hs : after env operations (app, w) = s)
    (ho : s.1.store.isOpen = true) (hp : s.1.store.db.secret ≠ .unset) :
    ∃ p, s.1.store.Secures p ∧ Pin.checkCanary s.1.store.db.secret.canary p = true ∧
      ∀ (v : Session) (current new confirm : List Text.Point),
        (∀ pin, current = Text.points pin → Pin.digest pin = Pin.digest p → pin = p) →
          ChangesExactly env p v current new confirm s := by
  have hc : s.1.store.Coherent := by
    have hw := writes_run env operations (app, w)
    rw [hs, he] at hw
    exact coherent_empty.writes hw
  obtain ⟨p, h⟩ := hc.secures ho hp
  refine ⟨p, h, ?_, fun v current new confirm hd => changesExactly env h v hd new confirm⟩
  rw [h.secret]
  exact Pin.checkCanary_canary p

/-- An app over an empty store in a file, without a remote copy. -/
def fileApp : App Float := ⟨Store.empty, some "v.db", .ofDigest none, none, none⟩

/-- The disk that such an app finds. -/
def fileWorld : World := (World.start 0 true []).putFile "v.db" (.database .empty)

/-- A vault that two sessions have worked on, one of them with a PIN that is no longer in force. -/
def staleOperations : List (Session × Operation) :=
  [(⟨"12345"⟩, .call (.setupPin "12345" "12345")), (⟨"12345"⟩, .call (.upload "a.txt" [104, 105])),
    (⟨"12345"⟩, .call (.changePin "12345" "54321" "54321")),
    (⟨"12345"⟩, .call (.upload "b.txt" [104, 105])), (⟨"54321"⟩, .exportFile 1 ⟨"", ["a.txt"]⟩)]

theorem staleOperations_changePin_exact :
    ((after World.surroundings staleOperations (fileApp, fileWorld)).1.store.isOpen = true ∧
      (after World.surroundings staleOperations (fileApp, fileWorld)).1.store.db.secret ≠ .unset) ∧
    ∃ p, (after World.surroundings staleOperations (fileApp, fileWorld)).1.store.Secures p ∧
      Pin.checkCanary
        (after World.surroundings staleOperations (fileApp, fileWorld)).1.store.db.secret.canary p =
          true ∧
      ∀ (v : Session) (current new confirm : List Text.Point),
        (∀ pin, current = Text.points pin → Pin.digest pin = Pin.digest p → pin = p) →
          ChangesExactly World.surroundings p v current new confirm
            (after World.surroundings staleOperations (fileApp, fileWorld)) := by
  have ho : (after World.surroundings staleOperations (fileApp, fileWorld)).1.store.isOpen = true :=
    by decide +kernel
  have hp : (after World.surroundings staleOperations (fileApp, fileWorld)).1.store.db.secret ≠
      .unset := by decide +kernel
  exact ⟨⟨ho, hp⟩,
    changePin_exact World.surroundings staleOperations fileApp fileWorld rfl rfl ho hp⟩

/-- A file that is exported over the database. -/
def overwriteOperations : List (Session × Operation) :=
  [(⟨"12345"⟩, .call (.setupPin "12345" "12345")), (⟨"12345"⟩, .call (.upload "a.txt" [104, 105])),
    (⟨"12345"⟩, .exportFile 1 ⟨"", ["v.db"]⟩)]

/-- After such an export the owner's change of the PIN fails in the store, not for the PIN. And a
current PIN that is half of a surrogate pair is not refused as a wrong one, but fails for want of a
UTF-8 form. -/
theorem changePin_fails_otherwise :
    (Session.AdmitsTyped "12345" (Text.points "12345") (Text.points "54321") (Text.points "54321") ∧
      (after World.surroundings overwriteOperations (fileApp, fileWorld)).1.store.db.secret =
        .ofPin "12345" ∧
      (App.changeTyped World.surroundings (Text.points "12345") (Text.points "54321")
        (Text.points "54321") ⟨"12345"⟩
        (after World.surroundings overwriteOperations (fileApp, fileWorld))).1.1 =
          .error (.vault (.store (.failed .readDigest)))) ∧
    (App.changeTyped World.surroundings [.half 0xD800] (Text.points "54321") (Text.points "54321")
      ⟨"54321"⟩ (after World.surroundings staleOperations (fileApp, fileWorld))).1.1 =
        .error (.vault (.unencodable ⟨.utf8, [.half 0xD800], 0⟩)) := by
  have hv : Pin.isValid "54321" = true := by decide
  obtain ⟨hl, hd⟩ := Pin.isValid_iff.1 hv
  have ha : Session.Admits "12345" "12345" "54321" "54321" := ⟨hl, hd, rfl, rfl, by decide⟩
  exact ⟨⟨Session.admitsTyped_points.2 ha, by decide +kernel, by decide +kernel⟩,
    by decide +kernel⟩

end CovertVault.Vault
