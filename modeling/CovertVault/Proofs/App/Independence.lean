import CovertVault.Proofs.Remote.Failures
import CovertVault.Proofs.Vault.Shelf
import Mathlib.Logic.Function.Basic

namespace CovertVault.App
open Remote

variable {ω ω' T T' α β : Type}

section
variable [TimeScale T]

/-- Surroundings in which a change that is told never fails as long as a condition on the client and
the surroundings holds, which lasts. -/
structure Quiet (env : Surroundings ω T) (Q : Option (Client T × Nat) × ω → Prop) : Prop where
  attempt : ∀ k r, Q r → ((Client.copy env.link).attempt k r).1 = .ok () ∧
    Q ((Client.copy env.link).attempt k r).2
  useDatabase : ∀ path changed client w, Q (client, w) → Q (client, env.useDatabase path changed w)

variable {env : Surroundings ω T}

theorem quiet_none : Quiet env fun r => r.1 = none where
  attempt k := by
    rintro ⟨-, w⟩ rfl
    exact ⟨rfl, rfl⟩
  useDatabase _ _ _ _ h := h

theorem quiet_client {n : Nat} {P : ω → Prop} (ho : (env.link n).Ordinary P)
    (hu : ∀ path changed w, P w → P (env.useDatabase path changed w)) :
    Quiet env fun r => (∃ c, r.1 = some (c, n)) ∧ P r.2 where
  attempt k := by
    rintro ⟨-, w⟩ ⟨⟨c, rfl⟩, h⟩
    obtain ⟨c', w', ha, hp⟩ : ∃ c' w', (Client.copy env.link).attempt k (some (c, n), w) =
        (.ok (), some (c', n), w') ∧ P w' := attempt_passes ho k c h
    rw [ha]
    exact ⟨rfl, ⟨c', rfl⟩, hp⟩
  useDatabase path changed _ w h := ⟨h.1, hu path changed w h.2⟩

theorem Quiet.attemptAll {Q : Option (Client T × Nat) × ω → Prop} (hq : Quiet env Q)
    (ks : List Command) {r : Option (Client T × Nat) × ω} (h : Q r) :
    ((Client.copy env.link).attemptAll ks r).1 = .ok () ∧
      Q ((Client.copy env.link).attemptAll ks r).2 := by
  induction ks generalizing r with
  | nil => exact ⟨rfl, h⟩
  | cons k ks ih =>
    obtain ⟨ha, hr⟩ := hq.attempt k r h
    unfold Copy.attemptAll
    generalize (Client.copy env.link).attempt k r = t at ha hr
    obtain ⟨x, r'⟩ := t
    dsimp only at ha
    subst ha
    exact ih hr

end

/-- Two apps without a bucket, in their surroundings, that have the same store and show the same
screen. -/
structure Alike (Q : Option (Client T × Nat) × ω → Prop) (Q' : Option (Client T' × Nat) × ω' → Prop)
    (s : App T × ω) (s' : App T' × ω') : Prop where
  store : s.1.store = s'.1.store
  calculator : s.1.calculator = s'.1.calculator
  snapshots : s.1.snapshots = none
  snapshots' : s'.1.snapshots = none
  remote : Q (s.1.remote, s.2)
  remote' : Q' (s'.1.remote, s'.2)

/-- The same answer, and apps that are alike. -/
def Agree (Q : Option (Client T × Nat) × ω → Prop) (Q' : Option (Client T' × Nat) × ω' → Prop)
    (x : Except Failure α × App T × ω) (y : Except Failure α × App T' × ω') : Prop :=
  x.1 = y.1 ∧ Alike Q Q' x.2 y.2

variable {Q : Option (Client T × Nat) × ω → Prop} {Q' : Option (Client T' × Nat) × ω' → Prop}
  {s : App T × ω} {s' : App T' × ω'}

theorem Agree.andThen {first : Action ω T α} {first' : Action ω' T' α} {next : α → Action ω T β}
    {next' : α → Action ω' T' β} (h : Agree Q Q' (first s) (first' s'))
    (hn : ∀ a t t', Alike Q Q' t t' → Agree Q Q' (next a t) (next' a t')) :
    Agree Q Q' (andThen first next s) (andThen first' next' s') := by
  unfold App.andThen
  generalize first s = x at h
  generalize first' s' = y at h
  obtain ⟨r, t⟩ := x
  obtain ⟨r', t'⟩ := y
  obtain ⟨hr, ht⟩ := h
  dsimp only at hr
  subst hr
  cases r with
  | error e => exact ⟨rfl, ht⟩
  | ok a => exact hn a t t' ht

theorem agree_each {action : Int → Action ω T Unit} {action' : Int → Action ω' T' Unit}
    (ha : ∀ id t t', Alike Q Q' t t' → Agree Q Q' (action id t) (action' id t')) (ids : List Int)
    (h : Alike Q Q' s s') : Agree Q Q' (each action ids s) (each action' ids s') := by
  induction ids generalizing s s' with
  | nil => exact ⟨rfl, h⟩
  | cons id ids ih =>
    have hs := ha id s s' h
    unfold each
    generalize action id s = x at hs
    generalize action' id s' = y at hs
    obtain ⟨r, t⟩ := x
    obtain ⟨r', t'⟩ := y
    obtain ⟨hr, ht⟩ := hs
    dsimp only at hr
    subst hr
    cases r with
    | error e => exact ⟨rfl, ht⟩
    | ok _ =>
      obtain ⟨hn, hi⟩ := ih ht
      exact ⟨congrArg (Except.map (· + 1)) hn, hi⟩

variable [TimeScale T] [TimeScale T'] {env : Surroundings ω T} {env' : Surroundings ω' T'}
  (hq : Quiet env Q) (hq' : Quiet env' Q')

section
include hq hq'

theorem Alike.takeStore (h : Alike Q Q' s s') (store : Store) :
    Alike Q Q' (takeStore env store s) (takeStore env' store s') where
  store := rfl
  calculator := h.calculator
  snapshots := h.snapshots
  snapshots' := h.snapshots'
  remote := by
    unfold App.takeStore
    dsimp only
    split
    · split
      · exact hq.useDatabase _ _ _ _ h.remote
      · exact h.remote
    · exact h.remote
  remote' := by
    unfold App.takeStore
    dsimp only
    split
    · split
      · exact hq'.useDatabase _ _ _ _ h.remote'
      · exact h.remote'
    · exact h.remote'

theorem agree_onStore (h : Alike Q Q' s s')
    {operation operation' : Store → Except Failure α × Store}
    (ho : operation s.1.store = operation' s'.1.store) :
    Agree Q Q' (onStore env operation s) (onStore env' operation' s') := by
  obtain ⟨app, w⟩ := s
  obtain ⟨app', w'⟩ := s'
  unfold onStore
  dsimp only at ho ⊢
  rw [← ho]
  obtain ⟨r, store⟩ := operation app.store
  cases r with
  | ok a => exact ⟨rfl, h.takeStore hq hq' store⟩
  | error e =>
    dsimp only
    split
    · exact ⟨rfl, h.takeStore hq hq' store⟩
    · exact ⟨rfl, rfl, h.calculator, h.snapshots, h.snapshots', h.remote, h.remote'⟩

theorem agree_query (h : Alike Q Q' s s') (read : Store → Except Failure α) :
    Agree Q Q' (query env read s) (query env' read s') :=
  agree_onStore hq hq' h (by rw [h.store])

theorem agree_change (h : Alike Q Q' s s') (write : Store → Except Failure (α × Store)) :
    Agree Q Q' (change env write s) (change env' write s') :=
  agree_onStore hq hq' h (by rw [h.store])

/-- Here the two part: one tells its copy, and nobody listens to the other. -/
theorem agree_tell (h : Alike Q Q' s s') (changes : List Command) (a : α) :
    Agree Q Q' (tell env changes a s) (tell env' changes a s') := by
  obtain ⟨hr, hQ⟩ := hq.attemptAll changes h.remote
  obtain ⟨hr', hQ'⟩ := hq'.attemptAll changes h.remote'
  refine ⟨?_, h.store, h.calculator, h.snapshots, h.snapshots', hQ, hQ'⟩
  unfold tell
  dsimp only
  rw [hr, hr']

theorem agree_refresh (h : Alike Q Q' s s')
    (take : Store → Calculator.Session → Except Store.Error Unit × Calculator.Session) :
    Agree Q Q' (refresh env take s) (refresh env' take s') := by
  obtain ⟨⟨store, path, calculator, remote, snapshots⟩, w⟩ := s
  obtain ⟨⟨store', path', calculator', remote', snapshots'⟩, w'⟩ := s'
  obtain ⟨rfl, rfl, hs, hs', hr, hr'⟩ := h
  have hc : Alike Q Q' (⟨store, path, (take store calculator).2, remote, snapshots⟩, w)
      (⟨store, path', (take store calculator).2, remote', snapshots'⟩, w') :=
    ⟨rfl, rfl, hs, hs', hr, hr'⟩
  exact ⟨rfl, hc.takeStore hq hq' store⟩

theorem agree_setupPin (h : Alike Q Q' s s') (new confirm : String) :
    Agree Q Q' (setupPin env new confirm s) (setupPin env' new confirm s') :=
  (agree_change hq hq' h _).andThen fun _ _ _ h =>
    (agree_tell hq hq' h _ _).andThen fun _ _ _ h => agree_refresh hq hq' h _

/-- Deletions change the store and then tell one change. -/
theorem agree_drop (h : Alike Q Q' s s') (write : Store → Except Failure (Unit × Store))
    (k : Command) :
    Agree Q Q' (andThen (change env write) (fun () => tell env [k] ()) s)
      (andThen (change env' write) (fun () => tell env' [k] ()) s') :=
  (agree_change hq hq' h write).andThen fun _ _ _ h => agree_tell hq hq' h [k] ()

theorem agree_deleteFile (id : Int) (h : Alike Q Q' s s') :
    Agree Q Q' (deleteFile env id s) (deleteFile env' id s') :=
  agree_drop hq hq' h _ _

theorem agree_deleteHistory (id : Int) (h : Alike Q Q' s s') :
    Agree Q Q' (deleteHistory env id s) (deleteHistory env' id s') :=
  agree_drop hq hq' h _ _

theorem agree_upload (h : Alike Q Q' s s') (hn : env.stamp s.2 = env'.stamp s'.2) (name : String)
    (data : Bytes) (v : Vault.Session) :
    Agree Q Q' (upload env name data v s) (upload env' name data v s') := by
  unfold upload
  refine (agree_onStore hq hq' h ?_).andThen fun f _ _ h => agree_tell hq hq' h _ _
  dsimp only
  rw [h.store, hn]

theorem agree_uploadPath (h : Alike Q Q' s s') (hn : env.stamp s.2 = env'.stamp s'.2)
    {path : Files.Path} (hf : env.fileContent path s.2 = env'.fileContent path s'.2)
    (v : Vault.Session) :
    Agree Q Q' (uploadPath env path v s) (uploadPath env' path v s') := by
  unfold uploadPath
  dsimp only
  rw [← hf]
  cases env.fileContent path s.2 with
  | error e => exact ⟨rfl, h⟩
  | ok data => exact agree_upload hq hq' h hn _ _ _

/-- A change of the PIN that succeeds gives a session as well. -/
theorem agree_changePin (h : Alike Q Q' s s') (current new confirm : String) (v : Vault.Session) :
    (changePin env current new confirm v s).1 = (changePin env' current new confirm v s').1 ∧
      Alike Q Q' (changePin env current new confirm v s).2
        (changePin env' current new confirm v s').2 := by
  unfold changePin
  dsimp only
  rw [← h.store]
  obtain ⟨r, v', store⟩ := v.changePin current new confirm s.1.store
  dsimp only
  have ha : Agree Q Q' (onStore env (fun _ => (r.mapError Failure.vault, store)) s)
      (onStore env' (fun _ => (r.mapError Failure.vault, store)) s') :=
    agree_onStore hq hq' h rfl
  generalize onStore env (fun _ => (r.mapError Failure.vault, store)) s = x at ha
  generalize onStore env' (fun _ => (r.mapError Failure.vault, store)) s' = y at ha
  obtain ⟨q, t⟩ := x
  obtain ⟨q', t'⟩ := y
  obtain ⟨hr, ht⟩ := ha
  dsimp only at hr
  subst hr
  cases q with
  | error e => exact ⟨rfl, ht⟩
  | ok n =>
    obtain ⟨hk, hs⟩ := agree_tell hq hq' ht (Vault.Session.changeCommands new store) n
    exact ⟨congrArg (·, v') hk, hs⟩

omit [TimeScale T] [TimeScale T'] hq hq' in
/-- Only equals asks for the time. -/
theorem press_untimed {key : Keypad.Key} (hk : key ≠ .equals) (now now' : Time.Present)
    (c : Calculator.Session) (store : Store) :
    c.press now key store = c.press now' key store := by
  cases key with
  | equals => exact absurd rfl hk
  | _ => rfl

theorem agree_press (h : Alike Q Q' s s') {key : Keypad.Key}
    (hn : key = .equals → env.stamp s.2 = env'.stamp s'.2) :
    Agree Q Q' (press env key s) (press env' key s') := by
  obtain ⟨app, w⟩ := s
  obtain ⟨app', w'⟩ := s'
  have hp : app.calculator.press (env.stamp w) key app.store =
      app'.calculator.press (env'.stamp w') key app'.store := by
    rw [← h.calculator, ← h.store]
    by_cases hk : key = .equals
    · rw [hn hk]
    · exact press_untimed hk _ _ _ _
  unfold press
  dsimp only at hp ⊢
  rw [← hp]
  obtain ⟨r, calculator, store⟩ := app.calculator.press (env.stamp w) key app.store
  have hc : Alike Q Q' ({ app with calculator := calculator }, w)
      ({ app' with calculator := calculator }, w') :=
    ⟨h.store, rfl, h.snapshots, h.snapshots', h.remote, h.remote'⟩
  dsimp only
  split
  · next e =>
    refine ⟨rfl, ?_⟩
    cases (Failure.press e).isInside with
    | true => exact hc.takeStore hq hq' store
    | false => exact hc
  · exact agree_tell hq hq' (hc.takeStore hq hq' store) _ _
  · exact agree_tell hq hq' hc _ _

theorem agree_backupAll (h : Alike Q Q' s s') (hn : env.stamp s.2 = env'.stamp s'.2) :
    Agree Q Q' (backupAll env s) (backupAll env' s') := by
  have hs : Agree Q Q' (snapshot env s) (snapshot env' s') := by
    unfold snapshot
    dsimp only
    rw [← hn]
    exact agree_query hq hq' h _
  refine hs.andThen fun all _ _ h => (agree_tell hq hq' h _ _).andThen fun _ t t' h => ?_
  -- Without a bucket nothing is left to do.
  dsimp only
  rw [h.snapshots, h.snapshots']
  exact ⟨rfl, h⟩

/-- A call of the vault, whether it has been opened or not. -/
theorem agree_perform (h : Alike Q Q' s s') (c : Vault.Call) (v : Option Vault.Session)
    (hn : ∀ name data, c = .upload name data → env.stamp s.2 = env'.stamp s'.2) :
    (Vault.perform env c v s).1 = (Vault.perform env' c v s').1 ∧
      (Vault.perform env c v s).2.1 = (Vault.perform env' c v s').2.1 ∧
      Alike Q Q' (Vault.perform env c v s).2.2 (Vault.perform env' c v s').2.2 := by
  cases c with
  | setupPin new confirm =>
    obtain ⟨hr, hs⟩ := agree_setupPin hq hq' h new confirm
    exact ⟨congrArg (Vault.Reply.of _) hr, rfl, hs⟩
  | unlock pin =>
    have ha := agree_query hq hq' h fun store => (Vault.Session.unlock pin store).mapError .vault
    unfold Vault.perform unlock
    dsimp only
    generalize query env _ s = x at ha
    generalize query env' _ s' = y at ha
    obtain ⟨r, t⟩ := x
    obtain ⟨r', t'⟩ := y
    obtain ⟨hr, ht⟩ := ha
    dsimp only at hr
    subst hr
    cases r with
    | error e => exact ⟨rfl, rfl, ht⟩
    | ok opened => exact ⟨rfl, rfl, ht⟩
  | upload name data =>
    cases v with
    | none => exact ⟨rfl, rfl, h⟩
    | some v =>
      obtain ⟨hr, hs⟩ := agree_upload hq hq' h (hn name data rfl) name data v
      exact ⟨congrArg (Vault.Reply.of _) hr, rfl, hs⟩
  | read id =>
    cases v with
    | none => exact ⟨rfl, rfl, h⟩
    | some v =>
      obtain ⟨hr, hs⟩ := agree_query hq hq' h fun store => (v.content id store).mapError .vault
      exact ⟨congrArg (Vault.Reply.of _) hr, rfl, hs⟩
  | list =>
    cases v with
    | none => exact ⟨rfl, rfl, h⟩
    | some v =>
      obtain ⟨hr, hs⟩ := agree_query hq hq' h fun store => store.listFiles.mapError .store
      exact ⟨congrArg (Vault.Reply.of _) hr, rfl, hs⟩
  | delete id =>
    cases v with
    | none => exact ⟨rfl, rfl, h⟩
    | some v =>
      obtain ⟨hr, hs⟩ := agree_deleteFile hq hq' id h
      exact ⟨congrArg (Vault.Reply.of _) hr, rfl, hs⟩
  | deleteAll ids =>
    cases v with
    | none => exact ⟨rfl, rfl, h⟩
    | some v =>
      obtain ⟨hr, hs⟩ := agree_each (fun id _ _ => agree_deleteFile hq hq' id) ids h
      exact ⟨congrArg (Vault.Reply.of _) hr, rfl, hs⟩
  | changePin current new confirm =>
    cases v with
    | none => exact ⟨rfl, rfl, h⟩
    | some v =>
      obtain ⟨hr, hs⟩ := agree_changePin hq hq' h current new confirm v
      obtain ⟨hn, hv⟩ := Prod.mk.inj hr
      exact ⟨congrArg (Vault.Reply.of _) hn, congrArg some hv, hs⟩

end

/-- What is done with the app. Any number of vaults may be open, each under a number. -/
inductive Event where
  | press (key : Keypad.Key)
  | refreshSecret
  | resume
  | vault (k : Nat) (c : Vault.Call)
  | uploadPath (k : Nat) (path : Files.Path)
  | listHistory
  | deleteHistory (id : Int)
  | deleteHistories (ids : List Int)
  | clearHistory
  | backupAll
deriving Repr, DecidableEq

inductive Answer where
  | pressed (r : Except Failure Calculator.Reply)
  | ended (r : Except Failure Unit)
  | called (r : Vault.Reply)
  | listed (r : Except Failure (List HistoryRecord))
  | counted (r : Except Failure Nat)
  | saved (r : Except Failure (Option String))

/-- What an event takes from its surroundings: the time, and the content of a file. -/
structure Seen where
  now : Option Time.Present
  content : Option (Except Files.FileError Bytes)

/-- What can be seen after an event. -/
structure Moment where
  answer : Answer
  vaults : Nat → Option Vault.Session
  store : Store
  calculator : Calculator.Session

section
variable (env : Surroundings ω T)

def Event.sees (e : Event) (w : ω) : Seen :=
  match e with
  | .press .equals | .vault _ (.upload ..) | .backupAll => ⟨some (env.stamp w), none⟩
  | .uploadPath _ path => ⟨some (env.stamp w), some (env.fileContent path w)⟩
  | _ => ⟨none, none⟩

/-- What an event answers, and the vaults, the app and its surroundings after it. -/
def Event.perform (vaults : Nat → Option Vault.Session) (s : App T × ω) :
    Event → Answer × (Nat → Option Vault.Session) × App T × ω
  | .press key =>
    let (r, s) := App.press env key s
    (.pressed r, vaults, s)
  | .refreshSecret =>
    let (r, s) := App.refreshSecret env s
    (.ended r, vaults, s)
  | .resume =>
    let (r, s) := App.resume env s
    (.ended r, vaults, s)
  | .vault k c =>
    let (r, v, s) := Vault.perform env c (vaults k) s
    (.called r, Function.update vaults k v, s)
  | .uploadPath k path =>
    match vaults k with
    | none => (.called .locked, vaults, s)
    | some v =>
      let (r, s) := App.uploadPath env path v s
      (.called (.of .uploaded r), vaults, s)
  | .listHistory =>
    let (r, s) := App.listHistory env s
    (.listed r, vaults, s)
  | .deleteHistory id =>
    let (r, s) := App.deleteHistory env id s
    (.ended r, vaults, s)
  | .deleteHistories ids =>
    let (r, s) := each (App.deleteHistory env) ids s
    (.counted r, vaults, s)
  | .clearHistory =>
    let (r, s) := App.clearHistory env s
    (.ended r, vaults, s)
  | .backupAll =>
    let (r, s) := App.backupAll env s
    (.saved r, vaults, s)

/-- What the events of a run take from their surroundings. -/
def seen : List Event → (Nat → Option Vault.Session) → App T × ω → List Seen
  | [], _, _ => []
  | e :: events, vaults, s =>
    e.sees env s.2 :: seen events (e.perform env vaults s).2.1 (e.perform env vaults s).2.2

/-- The moments of a run. -/
def moments : List Event → (Nat → Option Vault.Session) → App T × ω → List Moment
  | [], _, _ => []
  | e :: events, vaults, s =>
    let t := e.perform env vaults s
    ⟨t.1, t.2.1, t.2.2.1.store, t.2.2.1.calculator⟩ :: moments events t.2.1 t.2.2

end

include hq hq'

theorem agree_event (h : Alike Q Q' s s') (vaults : Nat → Option Vault.Session) {e : Event}
    (hv : e.sees env s.2 = e.sees env' s'.2) :
    (e.perform env vaults s).1 = (e.perform env' vaults s').1 ∧
      (e.perform env vaults s).2.1 = (e.perform env' vaults s').2.1 ∧
      Alike Q Q' (e.perform env vaults s).2.2 (e.perform env' vaults s').2.2 := by
  cases e with
  | press key =>
    have hn : key = .equals → env.stamp s.2 = env'.stamp s'.2 := by
      rintro rfl
      exact Option.some.inj (congrArg Seen.now hv)
    obtain ⟨hr, hs⟩ := agree_press hq hq' h hn
    exact ⟨congrArg _ hr, rfl, hs⟩
  | refreshSecret =>
    obtain ⟨hr, hs⟩ := agree_refresh hq hq' h fun store c => c.refreshSecret store
    exact ⟨congrArg _ hr, rfl, hs⟩
  | resume =>
    obtain ⟨hr, hs⟩ := agree_refresh hq hq' h fun store c => c.resume store
    exact ⟨congrArg _ hr, rfl, hs⟩
  | vault k c =>
    have hn (name : String) (data : Bytes) (hc : c = .upload name data) :
        env.stamp s.2 = env'.stamp s'.2 := by
      subst hc
      exact Option.some.inj (congrArg Seen.now hv)
    obtain ⟨hr, hk, hs⟩ := agree_perform hq hq' h c (vaults k) hn
    exact ⟨congrArg _ hr, congrArg (Function.update vaults k) hk, hs⟩
  | uploadPath k path =>
    have hn : env.stamp s.2 = env'.stamp s'.2 := Option.some.inj (congrArg Seen.now hv)
    have hf : env.fileContent path s.2 = env'.fileContent path s'.2 :=
      Option.some.inj (congrArg Seen.content hv)
    unfold Event.perform
    dsimp only
    cases vaults k with
    | none => exact ⟨rfl, rfl, h⟩
    | some v =>
      obtain ⟨hr, hs⟩ := agree_uploadPath hq hq' h hn hf v
      exact ⟨congrArg (fun r => Answer.called (.of .uploaded r)) hr, rfl, hs⟩
  | listHistory =>
    obtain ⟨hr, hs⟩ := agree_query hq hq' h fun store => store.listHistory.mapError .store
    exact ⟨congrArg _ hr, rfl, hs⟩
  | deleteHistory id =>
    obtain ⟨hr, hs⟩ := agree_deleteHistory hq hq' id h
    exact ⟨congrArg _ hr, rfl, hs⟩
  | deleteHistories ids =>
    obtain ⟨hr, hs⟩ := agree_each (fun id _ _ => agree_deleteHistory hq hq' id) ids h
    exact ⟨congrArg _ hr, rfl, hs⟩
  | clearHistory =>
    obtain ⟨hr, hs⟩ := agree_drop hq hq' h
      (fun store => (store.clearHistory.map ((), ·)).mapError .store) .clearHistory
    exact ⟨congrArg _ hr, rfl, hs⟩
  | backupAll =>
    obtain ⟨hr, hs⟩ := agree_backupAll hq hq' h (Option.some.inj (congrArg Seen.now hv))
    exact ⟨congrArg _ hr, rfl, hs⟩

theorem moments_eq (h : Alike Q Q' s s') {events : List Event}
    {vaults : Nat → Option Vault.Session}
    (hv : seen env events vaults s = seen env' events vaults s') :
    moments env events vaults s = moments env' events vaults s' := by
  induction events generalizing vaults s s' with
  | nil => rfl
  | cons e events ih =>
    -- The event takes the same from both surroundings, so it leaves both apps alike.
    obtain ⟨he, hrest⟩ := List.cons.inj hv
    obtain ⟨hr, hk, ha⟩ := agree_event hq hq' h vaults he
    rw [← hk] at hrest
    unfold moments
    dsimp only
    rw [← hr, ← hk, ← ha.store, ← ha.calculator, ih ha hrest]

omit hq hq'

/-- Whatever becomes of its requests, an app with a client answers, keeps and shows at every moment
what an app without one does that sees the same time and the same files. -/
theorem moments_without_client {n : Nat} {P : ω → Prop} (ho : (env.link n).Ordinary P)
    (hu : ∀ path changed w, P w → P (env.useDatabase path changed w)) {app : App T} {w : ω}
    {c : Client T} (hc : app.remote = some (c, n)) (hp : P w) {app' : App T'} {w' : ω'}
    (hn : app'.remote = none) (hs : app.store = app'.store)
    (hk : app.calculator = app'.calculator) (hb : app.snapshots = none)
    (hb' : app'.snapshots = none) {events : List Event} {vaults : Nat → Option Vault.Session}
    (hv : seen env events vaults (app, w) = seen env' events vaults (app', w')) :
    moments env events vaults (app, w) = moments env' events vaults (app', w') :=
  moments_eq (quiet_client ho hu) quiet_none ⟨hs, hk, hb, hb', ⟨⟨c, hc⟩, hp⟩, hn⟩ hv

theorem seen_scripted (events : List Event) (vaults : Nat → Option Vault.Session)
    (s : App Rat × List Outcome) :
    seen scripted events vaults s = events.map (·.sees scripted []) := by
  induction events generalizing vaults s with
  | nil => rfl
  | cons e events ih => exact congrArg (e.sees scripted [] :: ·) (ih _ _)

/-- A missing node, bytes that are no text, a broken body, a lost connection and an answer. -/
def mishaps : List Outcome :=
  [.response 404 [], .response 200 [255], .fault (.decoding "bad gzip"),
    .fault (.transport "connection lost"), .response 503 [], .response 200 [123, 125],
    .fault (.redirects "too many")]

/-- A PIN, a calculation and files that come and go. -/
def busyDay : List Event :=
  [.vault 0 (.setupPin "12345" "12345"), .vault 0 (.unlock "12345"),
    .vault 0 (.upload "a.txt" [104]), .uploadPath 0 ⟨"", ["b.txt"]⟩, .press (.digit ['7']),
    .press .equals, .vault 0 (.changePin "12345" "54321" "54321"), .vault 0 (.delete 1),
    .deleteHistory 1, .clearHistory, .backupAll]

theorem busyDay_moments_without_client :
    moments scripted busyDay (fun _ => none) (sociableApp, mishaps) =
      moments scripted busyDay (fun _ => none) (localApp, []) := by
  have hm : ∀ o ∈ mishaps, o.isOrdinary = true := by decide
  exact moments_without_client scripted_ordinary (fun _ _ _ h => h) (by rfl) hm (by rfl) (by rfl)
    (by rfl) (by rfl) (by rfl) ((seen_scripted _ _ _).trans (seen_scripted _ _ _).symm)

end CovertVault.App
