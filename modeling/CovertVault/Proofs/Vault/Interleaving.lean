import CovertVault.Proofs.Store.Writes
import CovertVault.Proofs.Vault.Secret

namespace CovertVault.Vault
open Cipher Store

namespace Session

/-- The checks before a change of the PIN, as far as one look at the digest takes them. -/
def checkDigest (current new confirm : String) (store : Store) : Except Error Unit := do
  checkNew new confirm
  if current = "" then throw (.pin .noCurrent)
  let stored ← store.pinDigest.mapError .store
  if !(← (Pin.verify (some current) stored).mapError .digest) then throw (.mismatch .digest)
  if current = new then throw (.pin .unchanged)

/-- The check that takes a second look. -/
def checkCanary (current : String) (store : Store) : Except Error Unit := do
  if !Pin.checkCanary (← store.canary.mapError .store) current then throw (.mismatch .canary)

theorem checkChange_eq_bind (current new confirm : String) (store : Store) :
    checkChange current new confirm store =
      checkDigest current new confirm store >>= fun _ => checkCanary current store := by
  unfold checkChange checkDigest checkCanary
  cases checkNew new confirm with
  | error e => rfl
  | ok _ =>
    by_cases he : current = ""
    · simp [he]
    cases hs : store.pinDigest.mapError Error.store with
    | error e => simp [he]
    | ok stored =>
      cases hv : (Pin.verify (some current) stored).mapError Error.digest with
      | error e => simp [he, hv]
      | ok b =>
        cases b with
        | false => simp [he, hv]
        | true =>
          by_cases hn : current = new
          · subst hn
            simp [he, hv]
          · simp [he, hv, hn]

theorem isValid_of_checkDigest {current new confirm : String} {store : Store}
    (h : checkDigest current new confirm store = .ok ()) : Pin.isValid new = true := by
  obtain ⟨_, hn, -⟩ := bind_eq_ok h
  exact isValid_of_checkNew hn

end Session

/-- What a session has begun. -/
inductive Task where
  /-- An upload that has its ciphertext, under the PIN of the session at that time. -/
  | encrypted (v : Session) (name : String) (data : Bytes)
  /-- A change of the PIN that has passed the digest. -/
  | known (owner : Nat) (current new : String)
  /-- One that has passed the canary as well. -/
  | checked (owner : Nat) (current new : String)
  /-- One that has re-keyed the files, while its session still goes by the old PIN. -/
  | rekeyed (owner : Nat) (new : String)
  | done
deriving Repr, DecidableEq

/-- A store and those who work on it. -/
structure Scene where
  store : Store
  /-- The PIN that was last put into the store. -/
  pin : String
  sessions : List Session
  tasks : List Task
  /-- What was passed in for the file of an id. -/
  given : Int → Option Bytes

/-- One turn: what a session does up to the end of its next method of the store. Sessions and tasks
go by the order in which they came up. -/
inductive Move where
  | unlock (pin : String)
  | encrypt (session : Nat) (name : String) (data : Bytes)
  | put (task : Nat) (now : Time.Present)
  | read (session : Nat) (id : Int)
  | delete (id : Int)
  | verify (session : Nat) (current new confirm : String)
  | tryCanary (task : Nat)
  | rekey (task : Nat)
  | adopt (task : Nat)
deriving Repr, DecidableEq

namespace Scene

/-- A new store with its first PIN, before any session is opened. -/
def start (pin : String) : Scene :=
  ⟨Store.empty.withDatabase { Store.empty.db with secret := .ofPin pin }, pin, [], [],
    fun _ => none⟩

def begin (m : Scene) (t : Task) : Scene := { m with tasks := m.tasks ++ [t] }

def withTask (m : Scene) (k : Nat) (t : Task) : Scene := { m with tasks := m.tasks.set k t }

/-- A turn. A task that meets a failure is over; a turn that nobody can take changes nothing, and
neither does reading. -/
def step (m : Scene) : Move → Scene
  | .unlock pin =>
    match Session.unlock pin m.store with
    | .ok v => { m with sessions := m.sessions ++ [v] }
    | .error _ => m
  | .encrypt k name data =>
    match m.sessions[k]? with
    | some v => m.begin (.encrypted v name data)
    | none => m
  | .put k now =>
    match m.tasks[k]? with
    | some (.encrypted v name data) =>
      match m.store.putFile name (Files.extension name) (v.encrypt data) data.length now with
      | .ok (id, store) =>
        { m.withTask k .done with
          store := store
          given := fun i => if i = id then some data else m.given i }
      | .error _ => m.withTask k .done
    | _ => m
  | .read _ _ => m
  | .delete id =>
    match m.store.deleteFile id with
    | .ok store => { m with store := store }
    | .error _ => m
  | .verify k current new confirm =>
    match m.sessions[k]?, Session.checkDigest current new confirm m.store with
    | some _, .ok () => m.begin (.known k current new)
    | _, _ => m
  | .tryCanary k =>
    match m.tasks[k]? with
    | some (.known owner current new) =>
      match Session.checkCanary current m.store with
      | .ok () => m.withTask k (.checked owner current new)
      | .error _ => m.withTask k .done
    | _ => m
  | .rekey k =>
    match m.tasks[k]? with
    | some (.checked owner current new) =>
      let transform (_ : Nat) (c : Bytes) : Except Empty Bytes :=
        .ok (Session.rekeyed current new c)
      match m.store.rekeyFiles transform (some (Pin.digest new)) (some (Pin.canary new)) with
      | .ok (_, store) =>
        { m.withTask k (.rekeyed owner new) with store := store, pin := new }
      | .error _ => m.withTask k .done
    | _ => m
  | .adopt k =>
    match m.tasks[k]? with
    | some (.rekeyed owner new) =>
      { m.withTask k .done with sessions := m.sessions.set owner ⟨new⟩ }
    | _ => m

theorem step_read (m : Scene) (k : Nat) (id : Int) : m.step (.read k id) = m := by
  simp only [step]

def run (m : Scene) (moves : List Move) : Scene := moves.foldl step m

/-- Whether what a turn stores comes from the PIN that is in the store. -/
def suits (m : Scene) : Move → Bool
  | .put k _ =>
    match m.tasks[k]? with
    | some (.encrypted v _ _) => v.pin = m.pin
    | _ => true
  | .rekey k =>
    match m.tasks[k]? with
    | some (.checked _ current _) => current = m.pin
    | _ => true
  | _ => true

/-- Turns none of which comes late. -/
def timely (m : Scene) : List Move → Bool
  | [] => true
  | a :: moves => m.suits a && (m.step a).timely moves

/-- Every file decrypts under the PIN whose digest is stored to what was passed in for it. -/
structure Intact (m : Scene) : Prop where
  secures : m.store.Secures m.pin
  opens : ∀ r ∈ m.store.db.files,
    Cipher.decrypt (some r.ciphertext) (some m.pin) = m.given r.id

theorem Intact.given_eq {m : Scene} (h : m.Intact) {r : FileRecord} (hr : r ∈ m.store.db.files) :
    m.given r.id = some (underPin m.pin r.ciphertext) :=
  (h.opens r hr).symm

end Scene

/-- A new PIN that is under way is a valid one. -/
def Task.NewValid : Task → Prop
  | .known _ _ new | .checked _ _ new | .rekeyed _ new => Pin.isValid new = true
  | _ => True

/-- What every turn keeps that does not come late. -/
structure Scene.Sound (m : Scene) : Prop extends Intact m where
  ids : ∀ r ∈ m.store.db.files, r.id ≤ m.store.db.lastFile
  tasks_valid : ∀ t ∈ m.tasks, t.NewValid

theorem setupPin_empty {pin : String} (hv : Pin.isValid pin = true) :
    setupPin pin pin Store.empty = .ok (Pin.digest pin, (Scene.start pin).store) := by
  have hn : checkNew pin pin = .ok () := by simp [checkNew_eq, hv]
  unfold setupPin
  rw [hn, ready_empty.isFirstRun]
  simp only [ready_empty.setPinDigest]
  rfl

namespace Scene

variable {m : Scene} {k : Nat}

/-- The two turns of an upload, one right after the other, are an upload. -/
theorem run_upload {v : Session} (hk : m.sessions[k]? = some v) (name : String) (data : Bytes)
    (now : Time.Present) :
    (m.run [.encrypt k name data, .put m.tasks.length now]).store =
      (v.upload now name data m.store).2 := by
  have ht : (m.begin (.encrypted v name data)).tasks[m.tasks.length]? =
      some (.encrypted v name data) := by simp [begin]
  unfold Session.upload Session.keep
  simp only [run, List.foldl_cons, List.foldl_nil, step, hk, ht]
  show Scene.store (match m.store.putFile name (Files.extension name) (v.encrypt data) data.length
    now with | .ok (id, store) => _ | .error _ => _) = _
  cases m.store.putFile name (Files.extension name) (v.encrypt data) data.length now with
  | error e => rfl
  | ok p =>
    dsimp only
    split
    all_goals rfl

/-- The four turns of a change of the PIN, one right after the other, are a change of the PIN. -/
theorem run_changePin {v : Session} (hk : m.sessions[k]? = some v) (current new confirm : String) :
    (m.run [.verify k current new confirm, .tryCanary m.tasks.length, .rekey m.tasks.length,
        .adopt m.tasks.length]).store = (v.changePin current new confirm m.store).2.2 ∧
      (m.run [.verify k current new confirm, .tryCanary m.tasks.length, .rekey m.tasks.length,
        .adopt m.tasks.length]).sessions =
          m.sessions.set k (v.changePin current new confirm m.store).2.1 := by
  have hset : m.sessions.set k v = m.sessions := by
    apply List.ext_getElem?
    intro i
    rw [List.getElem?_set]
    split
    · next hi =>
      subst hi
      obtain ⟨hl, -⟩ := List.getElem?_eq_some_iff.1 hk
      rw [if_pos hl, hk]
    · rfl
  unfold Session.changePin
  rw [Session.checkChange_eq_bind]
  simp only [run, List.foldl_cons, List.foldl_nil, step, hk]
  -- The four turns fail where the change does, and nothing comes between them.
  cases hd : Session.checkDigest current new confirm m.store with
  | error e => simp [hset]
  | ok _ =>
    cases hc : Session.checkCanary current m.store with
    | error e => simp [begin, withTask, hc, hset]
    | ok _ =>
      cases hr : m.store.rekeyFiles (fun _ c => (.ok (Session.rekeyed current new c) :
        Except Empty Bytes)) (some (Pin.digest new)) (some (Pin.canary new)) with
      | ok p => simp [begin, withTask, hc, hr]
      | error e =>
        cases e with
        | store e => simp [begin, withTask, hc, hr, hset]
        | transform e => cases e

theorem sound_start {pin : String} (hv : Pin.isValid pin = true) : (start pin).Sound where
  secures := ⟨ready_empty.withDatabase rfl, hv, rfl⟩
  opens r hr := by cases hr
  ids r hr := by cases hr
  tasks_valid t ht := by cases ht

theorem Sound.begin (h : m.Sound) {t : Task} (ht : t.NewValid) : (m.begin t).Sound where
  secures := h.secures
  opens := h.opens
  ids := h.ids
  tasks_valid u hu := by
    obtain hu | hu := List.mem_append.1 hu
    · exact h.tasks_valid u hu
    · obtain rfl := List.mem_singleton.1 hu
      exact ht

theorem Sound.withTask (h : m.Sound) (k : Nat) {t : Task} (ht : t.NewValid) :
    (m.withTask k t).Sound where
  secures := h.secures
  opens := h.opens
  ids := h.ids
  tasks_valid u hu := by
    obtain hu | rfl := List.mem_or_eq_of_mem_set hu
    · exact h.tasks_valid u hu
    · exact ht

theorem Sound.task (h : m.Sound) {t : Task} (hk : m.tasks[k]? = some t) : t.NewValid :=
  h.tasks_valid t (List.mem_of_getElem? hk)

/-- A file that is stored in time opens to what was passed in. -/
theorem Sound.put (h : m.Sound) {v : Session} {name : String} {data : Bytes}
    (hk : m.tasks[k]? = some (.encrypted v name data)) (hv : v.pin = m.pin) (now : Time.Present) :
    (m.step (.put k now)).Sound := by
  simp only [step, hk]
  split
  · next id store hp =>
    obtain ⟨time, -, ⟨rfl, -⟩, rfl⟩ := putFile_ok hp
    refine ⟨⟨?secures, ?opens⟩, ?ids, ?tasks_valid⟩
    case secures => exact h.secures.withDatabase rfl rfl
    case opens =>
      intro r hr
      obtain hr | hr := List.mem_append.1 hr
      · -- Ids are not given out twice, so no older file has the new one.
        have hl := h.ids r hr
        have hn : r.id ≠ m.store.db.lastFile + 1 := by omega
        show _ = if r.id = m.store.db.lastFile + 1 then some data else m.given r.id
        rw [if_neg hn]
        exact h.opens r hr
      · obtain rfl := List.mem_singleton.1 hr
        show some (underPin m.pin (underPin v.pin data)) =
          if m.store.db.lastFile + 1 = m.store.db.lastFile + 1 then some data else _
        rw [if_pos rfl, hv, underPin_underPin]
    case ids =>
      intro r hr
      obtain hr | hr := List.mem_append.1 hr
      · have hl := h.ids r hr
        show r.id ≤ m.store.db.lastFile + 1
        omega
      · obtain rfl := List.mem_singleton.1 hr
        exact Int.le_refl (m.store.db.lastFile + 1)
    case tasks_valid => exact (h.withTask k (t := .done) trivial).tasks_valid
  · exact h.withTask k trivial

theorem Sound.delete (h : m.Sound) (id : Int) : (m.step (.delete id)).Sound := by
  simp only [step]
  split
  · next store hd =>
    obtain rfl := deleteFile_ok hd
    refine ⟨⟨?secures, ?opens⟩, ?ids, ?tasks_valid⟩
    case secures => exact h.secures.withDatabase rfl rfl
    case opens => exact fun r hr => h.opens r (List.mem_filter.1 hr).1
    case ids => exact fun r hr => h.ids r (List.mem_filter.1 hr).1
    case tasks_valid => exact h.tasks_valid
  · exact h

/-- A change of the PIN from the one in the store takes every file along. -/
theorem Sound.rekey (h : m.Sound) {owner : Nat} {current new : String}
    (hk : m.tasks[k]? = some (.checked owner current new)) (hc : current = m.pin) :
    (m.step (.rekey k)).Sound := by
  have hv : Pin.isValid new = true := h.task hk
  simp only [step, hk]
  split
  · next n store hr =>
    obtain ⟨-, rfl⟩ := rekeyFiles_ok hr
    refine ⟨⟨?secures, ?opens⟩, ?ids, ?tasks_valid⟩
    case secures => exact ⟨h.secures.ready.withDatabase rfl, hv, rfl⟩
    case opens =>
      intro r hr
      obtain ⟨q, hq, rfl⟩ := List.mem_map.1 hr
      show some (underPin new (underPin new (underPin current q.ciphertext))) = m.given q.id
      rw [underPin_underPin, hc]
      exact h.opens q hq
    case ids =>
      intro r hr
      obtain ⟨q, hq, rfl⟩ := List.mem_map.1 hr
      exact h.ids q hq
    case tasks_valid => exact (h.withTask k (t := .rekeyed owner new) hv).tasks_valid
  · exact h.withTask k trivial

theorem Sound.step (h : m.Sound) {a : Move} (ha : m.suits a = true) : (m.step a).Sound := by
  cases a with
  | unlock pin =>
    simp only [Scene.step]
    split
    · exact ⟨⟨h.secures, h.opens⟩, h.ids, h.tasks_valid⟩
    · exact h
  | encrypt k name data =>
    simp only [Scene.step]
    split
    · exact h.begin trivial
    · exact h
  | put k now =>
    cases hk : m.tasks[k]? with
    | none => simpa only [Scene.step, hk] using h
    | some t =>
      cases t with
      | encrypted v name data => exact h.put hk (by simpa [suits, hk] using ha) now
      | known | checked | rekeyed | done => simpa only [Scene.step, hk] using h
  | read k id =>
    rw [step_read]
    exact h
  | delete id => exact h.delete id
  | verify k current new confirm =>
    simp only [Scene.step]
    split
    · next hd => exact h.begin (Session.isValid_of_checkDigest hd)
    · exact h
  | tryCanary k =>
    simp only [Scene.step]
    split
    · next owner current new hk =>
      have hv : Pin.isValid new = true := h.task hk
      split
      · exact h.withTask k hv
      · exact h.withTask k trivial
    · exact h
  | rekey k =>
    cases hk : m.tasks[k]? with
    | none => simpa only [Scene.step, hk] using h
    | some t =>
      cases t with
      | checked owner current new => exact h.rekey hk (by simpa [suits, hk] using ha)
      | known | encrypted | rekeyed | done => simpa only [Scene.step, hk] using h
  | adopt k =>
    simp only [Scene.step]
    split
    · exact ⟨⟨h.secures, h.opens⟩, h.ids, (h.withTask k (t := .done) trivial).tasks_valid⟩
    · exact h

theorem Sound.run (h : m.Sound) {moves : List Move} (ht : m.timely moves = true) :
    (m.run moves).Sound := by
  induction moves generalizing m with
  | nil => exact h
  | cons a moves ih =>
    -- Each move is judged by the scene it meets, so the next one is judged by what it leaves.
    obtain ⟨ha, ht⟩ := Bool.and_eq_true_iff.1 ht
    exact ih (h.step ha) ht

/-- Sessions may take turns as they like: as long as nothing is stored or re-keyed from a PIN that
was replaced before, every file decrypts under the PIN in the store to what was passed in. -/
theorem intact_of_timely {pin : String} (hv : Pin.isValid pin = true) {moves : List Move}
    (ht : (start pin).timely moves = true) : ((start pin).run moves).Intact :=
  ((sound_start hv).run ht).toIntact

/-- Two sessions on one vault. The first stores a file before the second changes the PIN, and the
second stores one afterwards; the first goes on only to read and to delete. -/
def timelyMoves : List Move :=
  [.unlock "12345", .unlock "12345", .encrypt 0 "a.txt" [104, 105],
    .verify 1 "12345" "54321" "54321", .put 0 (.ok "2024-01-01 00:00:00"), .tryCanary 1,
    .read 0 1, .rekey 1, .read 0 1, .adopt 1,
    .encrypt 1 "b.txt" [98], .delete 1, .put 2 (.ok "2024-01-01 00:00:01"), .unlock "54321"]

theorem timelyMoves_intact :
    Pin.isValid "12345" = true ∧ (start "12345").timely timelyMoves = true ∧
      ((start "12345").run timelyMoves).Intact := by
  have hv : Pin.isValid "12345" = true := by decide
  have ht : (start "12345").timely timelyMoves = true := by decide +kernel
  exact ⟨hv, ht, intact_of_timely hv ht⟩

/-- A file of five bytes or more that comes late, if it is stored at all, is stored wrong. -/
theorem late_put_garbles (h : m.Sound) {v : Session} {name : String} {data : Bytes}
    (hk : m.tasks[k]? = some (.encrypted v name data)) (hv : Pin.isValid v.pin = true)
    (hn : v.pin ≠ m.pin) (hl : 5 ≤ data.length) (now : Time.Present) :
    (m.step (.put k now)).store = m.store ∨ ¬ (m.step (.put k now)).Intact := by
  simp only [step, hk]
  split
  · next id store hp =>
    obtain ⟨time, -, ⟨rfl, -⟩, rfl⟩ := putFile_ok hp
    refine .inr fun hi => ?_
    have ho : (if m.store.db.lastFile + 1 = m.store.db.lastFile + 1 then some data else _) =
        some (underPin m.pin (underPin v.pin data)) :=
      hi.given_eq (List.mem_append_right _ (List.mem_singleton.2 rfl))
    rw [if_pos rfl] at ho
    have he := congrArg (underPin m.pin) (Option.some.inj ho)
    rw [underPin_underPin] at he
    exact hn (Pin.eq_of_underPin_eq hv h.secures.valid hl he.symm)
  · exact .inl rfl

/-- A change of the PIN that comes late garbles every file of five bytes or more. -/
theorem late_rekey_garbles (h : m.Sound) {owner : Nat} {current new : String}
    (hk : m.tasks[k]? = some (.checked owner current new)) (hv : Pin.isValid current = true)
    (hn : current ≠ m.pin) {r : FileRecord} (hr : r ∈ m.store.db.files)
    (hl : 5 ≤ r.ciphertext.length) : ¬ (m.step (.rekey k)).Intact := by
  have hs := h.secures.ready.rekeyFiles (Session.rekeyed current new) (some (Pin.digest new))
    (some (Pin.canary new))
  simp only [step, hk, hs]
  intro hi
  have ho : m.given r.id =
      some (underPin new (underPin new (underPin current r.ciphertext))) :=
    hi.given_eq (List.mem_map_of_mem hr)
  rw [underPin_underPin, h.given_eq hr] at ho
  exact hn (Pin.eq_of_underPin_eq h.secures.valid hv hl (Option.some.inj ho)).symm

/-- A file encrypted before another session changes the PIN, and stored after it. -/
def latePut : List Move :=
  [.unlock "12345", .unlock "12345", .encrypt 0 "a.txt" [104, 105],
    .verify 1 "12345" "54321" "54321", .tryCanary 1, .rekey 1, .adopt 1,
    .put 0 (.ok "2024-01-01 00:00:00")]

/-- An upload, from its beginning to its end, by a session that another one has left behind. -/
def staleUpload : List Move :=
  [.unlock "12345", .unlock "12345", .verify 1 "12345" "54321" "54321", .tryCanary 0, .rekey 0,
    .adopt 0, .encrypt 0 "a.txt" [104, 105], .put 1 (.ok "2024-01-01 00:00:00")]

/-- Two changes of the PIN that have both passed the checks before either of them re-keys. -/
def racingChanges : List Move :=
  [.unlock "12345", .unlock "12345", .encrypt 0 "a.txt" [104, 105],
    .put 0 (.ok "2024-01-01 00:00:00"), .verify 0 "12345" "54321" "54321",
    .verify 1 "12345" "11111" "11111", .tryCanary 1, .tryCanary 2, .rekey 1, .rekey 2]

theorem not_intact (h : ∃ r ∈ m.store.db.files,
    Cipher.decrypt (some r.ciphertext) (some m.pin) ≠ m.given r.id) : ¬ m.Intact := by
  obtain ⟨r, hr, hn⟩ := h
  exact fun hi => hn (hi.opens r hr)

theorem latePut_not_intact : ¬ ((start "12345").run latePut).Intact ∧
    ¬ ((start "12345").run staleUpload).Intact ∧ ¬ ((start "12345").run racingChanges).Intact :=
  ⟨not_intact (by decide +kernel), not_intact (by decide +kernel), not_intact (by decide +kernel)⟩

end Scene

end CovertVault.Vault
