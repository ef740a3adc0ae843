import CovertVault.App.Calculator
import CovertVault.Proofs.Calculator.Detection
import CovertVault.Proofs.Remote.Failures
import CovertVault.Proofs.Vault.Secret

namespace CovertVault

namespace Store

/-- Two stores that have the same calculations and take the same ones. -/
structure SameHistory (s s' : Store) : Prop where
  isOpen : s.isOpen = s'.isOpen
  history : s.db.history = s'.db.history
  lastHistory : s.db.lastHistory = s'.db.lastHistory
  faults : s.db.faults = s'.db.faults

variable {s s' : Store}

theorem SameHistory.listHistory (h : SameHistory s s') : s.listHistory = s'.listHistory := by
  unfold Store.listHistory guard
  rw [h.isOpen, h.history]

/-- A calculation goes into both or into neither. -/
theorem SameHistory.appendHistory (h : SameHistory s s') (expression result : String)
    (at? : Option String) (now : Time.Present) :
    (∃ e, s.appendHistory expression result at? now = .error e ∧
        s'.appendHistory expression result at? now = .error e) ∨
      ∃ id t t', s.appendHistory expression result at? now = .ok (id, t) ∧
        s'.appendHistory expression result at? now = .ok (id, t') ∧
        SameHistory t t' ∧ t.db ≠ s.db ∧ t'.db ≠ s'.db := by
  have hg : s.guard .saveCalculation [] = s'.guard .saveCalculation [] := by
    unfold guard
    rw [h.isOpen]
  have ha : s.allow .saveCalculation .history .insert unnumbered =
      s'.allow .saveCalculation .history .insert unnumbered := by
    unfold allow Database.refuses
    rw [h.faults]
  have hne {db : Database} {row : HistoryRecord} {n : Int} :
      { db with history := db.history ++ [row], lastHistory := n } ≠ db := by
    intro he
    have hl := congrArg (fun d => d.history.length) he
    simp at hl
  unfold Store.appendHistory
  rw [← hg, ← ha, ← h.lastHistory]
  cases s.guard .saveCalculation [] with
  | error e => exact .inl ⟨e, rfl, rfl⟩
  | ok _ =>
    cases timeOr at? now with
    | error e => exact .inl ⟨e, rfl, rfl⟩
    | ok time =>
      cases nextId .saveCalculation s.db.lastHistory with
      | error e => exact .inl ⟨e, rfl, rfl⟩
      | ok id =>
        cases s.allow .saveCalculation .history .insert unnumbered with
        | error e => exact .inl ⟨e, rfl, rfl⟩
        | ok _ =>
          refine .inr ⟨id, _, _, rfl, rfl, ⟨h.isOpen, ?_, rfl, h.faults⟩, hne, hne⟩
          exact congrArg (· ++ _) h.history

end Store

namespace Calculator
open Pin
namespace Session

/-- The session with another digest in its guard. -/
def withDigest (d : Option String) (c : Session) : Session :=
  c.withGuard { c.guard with storedDigest := d }

variable {d : Option String} {c : Session}

theorem refresh_withDigest (d : Option String) (c : Session) :
    (c.withDigest d).refresh = c.refresh.withDigest d := by
  unfold refresh
  split
  · next h => rw [if_pos (show c.editor.afterEquals = true from h)]
  · next h =>
    rw [if_neg (show ¬ c.editor.afterEquals = true from h)]
    rfl

/-- Digits that unlock neither session. -/
theorem feed_withDigest (hc : Comparable c.guard.storedDigest) (hd : Comparable d) {ds : List Char}
    (hu : Silent (c.feed ds).1) (hu' : Silent ((c.withDigest d).feed ds).1) :
    (c.withDigest d).feed ds = ((c.feed ds).1, (c.feed ds).2.withDigest d) := by
  induction ds generalizing c with
  | nil => exact congrArg _ (refresh_withDigest d c)
  | cons x ds ih =>
    unfold feed at hu hu' ⊢
    by_cases hl : c.guard.buffer.length + 1 < pinLength
    · have hf := Guard.feed_short (d := x) hl
      have hf' := Guard.feed_short (g := (c.withDigest d).guard) (d := x) hl
      rw [hf] at hu ⊢
      rw [hf'] at hu' ⊢
      exact ih (c := c.withGuard { c.guard with buffer := c.guard.buffer ++ [x] }) hc hu hu'
    · have hf := Guard.feed_full (d := x) hc (Nat.le_of_not_lt hl)
      have hf' := Guard.feed_full (g := (c.withDigest d).guard) (d := x) hd (Nat.le_of_not_lt hl)
      -- A session that found its PIN here would have said so.
      obtain ⟨-, hf⟩ | ⟨-, hf⟩ := hf
      · rw [hf] at hu
        exact absurd rfl (hu _)
      obtain ⟨-, hf'⟩ | ⟨-, hf'⟩ := hf'
      · rw [hf'] at hu'
        exact absurd rfl (hu' _)
      rw [hf] at hu ⊢
      rw [hf'] at hu' ⊢
      exact ih (c := c.withGuard c.guard.reset) hc hu hu'

theorem pressOther_withDigest (d : Option String) (key : Keypad.Key) (c : Session) :
    (c.withDigest d).pressOther key =
      ((c.pressOther key).1, (c.pressOther key).2.withDigest d) := by
  unfold pressOther
  dsimp only
  rw [show (c.withDigest d).endAttempt.editor = c.endAttempt.editor from rfl]
  cases c.endAttempt.editor.press? key with
  | error e => rfl
  | ok p => exact congrArg _ (refresh_withDigest d (c.endAttempt.withEditor p.2))

theorem pressBackspace_withDigest (d : Option String) (c : Session) :
    (c.withDigest d).pressBackspace =
      ((c.pressBackspace).1, (c.pressBackspace).2.withDigest d) := by
  unfold pressBackspace
  rw [show (c.withDigest d).editor = c.editor from rfl]
  dsimp only
  split
  · exact congrArg _ (refresh_withDigest d ((c.withEditor _).withGuard c.guard.dropLast))
  · exact congrArg _ (refresh_withDigest d ((c.withEditor _).withGuard c.guard.reset))

/-- Equals, on two stores with the same calculations. -/
theorem pressEquals_withDigest (d : Option String) (now : Time.Present) (c : Session)
    {store store' : Store} (h : store.SameHistory store') :
    ((c.withDigest d).pressEquals now store').1 = (c.pressEquals now store).1 ∧
      ((c.withDigest d).pressEquals now store').2.1 = (c.pressEquals now store).2.1.withDigest d ∧
      (c.pressEquals now store).2.2.SameHistory ((c.withDigest d).pressEquals now store').2.2 ∧
      ((c.pressEquals now store).2.2.db ≠ store.db ↔
        ((c.withDigest d).pressEquals now store').2.2.db ≠ store'.db) := by
  unfold pressEquals
  dsimp only
  rw [show (c.withDigest d).endAttempt.editor = c.endAttempt.editor from rfl]
  cases c.endAttempt.editor.equals with
  | error e => exact ⟨rfl, rfl, h, by simp⟩
  | ok p =>
    obtain ⟨_ | v, e⟩ := p
    · exact ⟨rfl, rfl, h, by simp⟩
    · cases now with
      | error e => exact ⟨rfl, rfl, h, by simp⟩
      | ok time =>
        obtain ⟨e, ha, ha'⟩ | ⟨id, t, t', ha, ha', ht, hn, hn'⟩ :=
          h.appendHistory (String.ofList v.expression) (String.ofList v.result) (some time)
            (.ok time)
        · dsimp only
          rw [ha, ha']
          exact ⟨rfl, rfl, h, by simp⟩
        · dsimp only
          rw [ha, ha']
          exact ⟨rfl, rfl, ht, by simp [hn, hn']⟩

/-- A key that unlocks neither session does the same in both. -/
theorem press_withDigest (hc : Comparable c.guard.storedDigest) (hd : Comparable d)
    (now : Time.Present) (key : Keypad.Key) {store store' : Store}
    (h : store.SameHistory store') (hu : Silent (c.press now key store).1)
    (hu' : Silent ((c.withDigest d).press now key store').1) :
    ((c.withDigest d).press now key store').1 = (c.press now key store).1 ∧
      ((c.withDigest d).press now key store').2.1 = (c.press now key store).2.1.withDigest d ∧
      (c.press now key store).2.2.SameHistory ((c.withDigest d).press now key store').2.2 ∧
      ((c.press now key store).2.2.db ≠ store.db ↔
        ((c.withDigest d).press now key store').2.2.db ≠ store'.db) := by
  have hs {x y : Except Error Reply × Session} (hxy : y = (x.1, x.2.withDigest d)) :
      y.1 = x.1 ∧ y.2 = x.2.withDigest d ∧ store.SameHistory store' ∧
        (store.db ≠ store.db ↔ store'.db ≠ store'.db) := by
    subst hxy
    exact ⟨rfl, rfl, h, by simp⟩
  cases key with
  | digit text =>
    refine hs ?_
    unfold press pressDigit at hu hu'
    unfold pressDigit
    rw [show (c.withDigest d).editor = c.editor from rfl] at hu' ⊢
    cases hk : c.editor.digit text with
    | error e => rfl
    | ok p =>
      simp only [hk] at hu hu'
      exact feed_withDigest (c := c.withEditor p.2) hc hd hu hu'
  | doubleZero => exact hs (feed_withDigest (c := c.withEditor c.editor.doubleZero.2) hc hd hu hu')
  | backspace => exact hs (pressBackspace_withDigest d c)
  | equals => exact pressEquals_withDigest d now c h
  | _ => exact hs (pressOther_withDigest d _ c)

end Session

end Calculator

namespace App
open Calculator (Silent)

variable {ω T : Type}

/-- Two apps, in the same surroundings, that differ in nothing that concerns the calculator but in
their secrets. -/
structure Twins (s s' : App T × ω) : Prop where
  editor : s.1.calculator.editor = s'.1.calculator.editor
  expressionLine : s.1.calculator.expressionLine = s'.1.calculator.expressionLine
  mainDisplay : s.1.calculator.mainDisplay = s'.1.calculator.mainDisplay
  buffer : s.1.calculator.guard.buffer = s'.1.calculator.guard.buffer
  comparable : Pin.Comparable s.1.calculator.guard.storedDigest
  comparable' : Pin.Comparable s'.1.calculator.guard.storedDigest
  history : s.1.store.SameHistory s'.1.store
  databasePath : s.1.databasePath = s'.1.databasePath
  remote : s.1.remote = s'.1.remote
  surroundings : s.2 = s'.2

/-- What can be seen after a key press, in the app and around it. -/
structure Look (ω : Type) where
  reply : Except Failure Calculator.Reply
  editor : Keypad.Editor
  expressionLine : List Char
  mainDisplay : List Char
  pending : Nat
  history : Except Store.Error (List HistoryRecord)
  surroundings : ω

def Look.of (r : Except Failure Calculator.Reply) (s : App T × ω) : Look ω :=
  ⟨r, s.1.calculator.editor, s.1.calculator.expressionLine, s.1.calculator.mainDisplay,
    s.1.calculator.guard.pending, s.1.store.listHistory, s.2⟩

/-- The key does not unlock the vault. -/
def Locked (r : Except Failure Calculator.Reply) : Prop := ∀ pin, r ≠ .ok (.unlocked (some pin))

variable {s s' : App T × ω}

theorem Twins.calculator_eq (h : Twins s s') :
    s'.1.calculator = s.1.calculator.withDigest s'.1.calculator.guard.storedDigest := by
  obtain ⟨⟨_, _, ⟨e, ⟨d, b⟩, l, m⟩, _, _⟩, _⟩ := s
  obtain ⟨⟨_, _, ⟨e', ⟨d', b'⟩, l', m'⟩, _, _⟩, _⟩ := s'
  obtain ⟨he, hl, hm, hb, -⟩ := h
  simp only at he hl hm hb
  subst he hl hm hb
  rfl

theorem Twins.look (h : Twins s s') (r : Except Failure Calculator.Reply) :
    Look.of r s = Look.of r s' := by
  unfold Look.of Pin.Guard.pending
  rw [h.editor, h.expressionLine, h.mainDisplay, h.buffer, h.history.listHistory, h.surroundings]

/-- Twins whose calculators have done the same. -/
theorem Twins.withCalculator (h : Twins s s') {c : Calculator.Session}
    (hc : Pin.Comparable c.guard.storedDigest) {d : Option String} (hd : Pin.Comparable d) :
    Twins ({ s.1 with calculator := c }, s.2) ({ s'.1 with calculator := c.withDigest d }, s'.2) :=
  ⟨rfl, rfl, rfl, rfl, hc, hd, h.history, h.databasePath, h.remote, h.surroundings⟩

/-- The app with another secret in its store and in its guard. -/
def withSecret (secret : Secret) (digest : Option String) (app : App T) : App T :=
  { app with
    store := app.store.withDatabase { app.store.db with secret := secret }
    calculator := app.calculator.withDigest digest }

theorem twins_withSecret (secret secret' : Secret) {d d' : Option String} (hd : Pin.Comparable d)
    (hd' : Pin.Comparable d') (app : App T) (w : ω) :
    Twins (app.withSecret secret d, w) (app.withSecret secret' d', w) where
  editor := rfl
  expressionLine := rfl
  mainDisplay := rfl
  buffer := rfl
  comparable := hd
  comparable' := hd'
  history := ⟨rfl, rfl, rfl, rfl⟩
  databasePath := rfl
  remote := rfl
  surroundings := rfl

theorem Twins.takeStore (h : Twins s s') (env : Surroundings ω T) {store store' : Store}
    (hs : store.SameHistory store')
    (hn : store.db ≠ s.1.store.db ↔ store'.db ≠ s'.1.store.db) :
    Twins (takeStore env store s) (takeStore env store' s') where
  editor := h.editor
  expressionLine := h.expressionLine
  mainDisplay := h.mainDisplay
  buffer := h.buffer
  comparable := h.comparable
  comparable' := h.comparable'
  history := hs
  databasePath := h.databasePath
  remote := h.remote
  surroundings := by
    unfold App.takeStore
    dsimp only
    rw [h.databasePath, h.history.isOpen, hs.isOpen, decide_eq_decide.2 hn, h.surroundings]

variable [Remote.TimeScale T] {env : Surroundings ω T}

theorem Twins.tell {α : Type} (h : Twins s s') (env : Surroundings ω T)
    (changes : List Remote.Command) (a : α) :
    (tell env changes a s).1 = (tell env changes a s').1 ∧
      Twins (tell env changes a s).2 (tell env changes a s').2 := by
  unfold App.tell
  dsimp only
  rw [h.remote, h.surroundings]
  exact ⟨rfl, h.editor, h.expressionLine, h.mainDisplay, h.buffer, h.comparable, h.comparable',
    h.history, h.databasePath, rfl, rfl⟩

/-- The app passes on what its calculator says when it unlocks. -/
theorem silent_of_locked {key : Keypad.Key} (h : Locked (press env key s).1) :
    Silent (s.1.calculator.press (env.stamp s.2) key s.1.store).1 := by
  intro pin hp
  refine h pin ?_
  obtain ⟨app, w⟩ := s
  unfold press
  dsimp only at hp ⊢
  generalize app.calculator.press (env.stamp w) key app.store = p at hp ⊢
  obtain ⟨r, c, store⟩ := p
  dsimp only at hp
  subst hp
  rfl

/-- One key press that unlocks neither vault. -/
theorem Twins.press (h : Twins s s') {key : Keypad.Key} (hu : Locked (press env key s).1)
    (hu' : Locked (press env key s').1) :
    (press env key s).1 = (press env key s').1 ∧
      Twins (press env key s).2 (press env key s').2 := by
  have hs := silent_of_locked hu
  have hs' := silent_of_locked hu'
  -- The second session is the first one with another digest to compare with.
  rw [h.calculator_eq, ← h.surroundings] at hs'
  obtain ⟨hr, hc, ht, hn⟩ := Calculator.Session.press_withDigest h.comparable h.comparable'
    (env.stamp s.2) key h.history hs hs'
  have hd := Calculator.Session.storedDigest_press (env.stamp s.2) key s.1.calculator s.1.store
  rw [← h.calculator_eq] at hr hc ht hn
  unfold App.press
  dsimp only
  rw [← h.surroundings]
  generalize s.1.calculator.press (env.stamp s.2) key s.1.store = p at hr hc ht hn hd
  generalize s'.1.calculator.press (env.stamp s.2) key s'.1.store = p' at hr hc ht hn
  obtain ⟨r, c, store⟩ := p
  obtain ⟨r', c', store'⟩ := p'
  dsimp only at hr hc ht hn hd
  subst hr hc
  have hcal := h.withCalculator (hd ▸ h.comparable) h.comparable'
  rw [← h.surroundings] at hcal
  have htaken := hcal.takeStore env ht hn
  dsimp only
  split
  · refine ⟨rfl, ?_⟩
    dsimp only
    split
    · exact htaken
    · exact hcal
  · exact htaken.tell env _ _
  · exact hcal.tell env _ _

variable (env) in
/-- What can be seen after each of a sequence of key presses. -/
def looks : List Keypad.Key → App T × ω → List (Look ω)
  | [], _ => []
  | key :: keys, s =>
    let t := press env key s
    .of t.1 t.2 :: looks keys t.2

/-- Two apps that differ in their secrets cannot be told apart, whatever keys are pressed, while
neither of them unlocks its vault. -/
theorem looks_eq_of_locked (h : Twins s s') {keys : List Keypad.Key}
    (hu : ∀ l ∈ looks env keys s, Locked l.reply) (hu' : ∀ l ∈ looks env keys s', Locked l.reply) :
    looks env keys s = looks env keys s' := by
  induction keys generalizing s s' with
  | nil => rfl
  | cons key keys ih =>
    obtain ⟨hk, hu⟩ := List.forall_mem_cons.1 hu
    obtain ⟨hk', hu'⟩ := List.forall_mem_cons.1 hu'
    -- Neither app unlocks at this key, so both answer it alike and differ in their secrets still.
    obtain ⟨hr, ht⟩ := h.press hk hk'
    unfold looks
    dsimp only
    rw [ih ht hu hu', ← hr, ht.look]

instance (r : Except Failure Calculator.Reply) : Decidable (Locked r) :=
  match r with
  | .ok (.unlocked (some pin)) => .isFalse fun h => h pin rfl
  | .ok (.unlocked none) | .ok (.changed _) | .ok (.removed _) | .ok .cleared
  | .ok (.recorded _) | .error _ => .isTrue (by simp [Locked])

/-- Only digits unlock. -/
theorem locked_equals (env : Surroundings ω T) (s : App T × ω) :
    Locked (press env .equals s).1 := by
  have ht (changes : List Remote.Command) (h : Option HistoryRecord) (s : App T × ω) :
      Locked (tell env changes (.recorded h) s).1 := by
    unfold tell
    dsimp only
    cases ((Remote.Client.copy env.link).attemptAll changes (s.1.remote, s.2)).1 <;>
      simp [Locked, Except.map, Except.mapError]
  have hp : (∃ e, (s.1.calculator.pressEquals (env.stamp s.2) s.1.store).1 = .error e) ∨
      ∃ h, (s.1.calculator.pressEquals (env.stamp s.2) s.1.store).1 = .ok (.recorded h) := by
    unfold Calculator.Session.pressEquals
    dsimp only
    split
    · exact .inl ⟨_, rfl⟩
    · exact .inr ⟨_, rfl⟩
    · split
      · exact .inl ⟨_, rfl⟩
      · split
        · exact .inl ⟨_, rfl⟩
        · exact .inr ⟨_, rfl⟩
  unfold press Calculator.Session.press
  dsimp only
  generalize s.1.calculator.pressEquals (env.stamp s.2) s.1.store = p at hp
  obtain ⟨r, c, store⟩ := p
  dsimp only at hp
  obtain ⟨e, rfl⟩ | ⟨_ | h, rfl⟩ := hp
  · simp [Locked]
  · exact ht _ _ _
  · exact ht _ _ _

/-- A number of five digits, one of them taken back and typed again, and its double. -/
def idleKeys : List Keypad.Key :=
  [.digit ['1'], .doubleZero, .digit ['4'], .backspace, .digit ['3'], .digit ['5'],
    .operator ['*'], .digit ['2'], .equals]

/-- One calculator with a PIN, and one without. -/
theorem idleKeys_looks_eq :
    let s : App Rat × List Remote.Outcome :=
      (sociableApp.withSecret (.ofPin "12345") (some (Pin.digest "12345")), [])
    let s' : App Rat × List Remote.Outcome :=
      (sociableApp.withSecret ⟨none, none, true⟩ none, [])
    Twins s s' ∧ (∀ l ∈ looks Remote.scripted idleKeys s, Locked l.reply) ∧
      (∀ l ∈ looks Remote.scripted idleKeys s', Locked l.reply) ∧
      looks Remote.scripted idleKeys s = looks Remote.scripted idleKeys s' := by
  intro s s'
  have hu : ∀ l ∈ looks Remote.scripted idleKeys s, Locked l.reply := by
    unfold idleKeys
    simp only [looks, List.forall_mem_cons]
    refine ⟨?_, ?_, ?_, ?_, ?_, ?_, ?_, ?_, locked_equals _ _, by simp⟩
    all_goals decide +kernel
  have hu' : ∀ l ∈ looks Remote.scripted idleKeys s', Locked l.reply := by
    unfold idleKeys
    simp only [looks, List.forall_mem_cons]
    refine ⟨?_, ?_, ?_, ?_, ?_, ?_, ?_, ?_, locked_equals _ _, by simp⟩
    all_goals decide +kernel
  have h : Twins s s' :=
    twins_withSecret _ _ (Pin.comparable_digest "12345") Pin.comparable_none _ _
  exact ⟨h, hu, hu', looks_eq_of_locked h hu hu'⟩

end App

end CovertVault
