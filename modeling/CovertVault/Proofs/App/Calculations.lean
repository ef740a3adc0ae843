import CovertVault.Proofs.App.Effects
import CovertVault.Proofs.Calculator.Display
import CovertVault.Proofs.Calculator.Recording
import CovertVault.Proofs.Keypad.Unmarked
import CovertVault.Proofs.Remote.Failures
import CovertVault.Proofs.Store.Listing
import CovertVault.Proofs.Store.Merging
import CovertVault.Proofs.Time.Order

namespace CovertVault

namespace Calculator
open Keypad

variable {now : Time.Present} {key : Key} {s : Session} {store : Store}

theorem Session.unmarked_press (h : s.editor.Unmarked) (now : Time.Present) (key : Key)
    (store : Store) : (s.press now key store).2.1.editor.Unmarked := by
  obtain he | he := s.editor_press now key store
  · rw [he]
    exact h.press key
  · rw [he]
    exact Editor.unmarked_empty

/-- A calculation is reported by equals alone, as what was shown before and after. -/
theorem Session.press_recorded {row : HistoryRecord}
    (h : (s.press now key store).1 = .ok (.recorded (some row))) :
    key = .equals ∧ row.expression.toList = s.editor.shownText ∧
      row.result.toList = (s.press now key store).2.1.mainDisplay := by
  by_cases hk : key = .equals
  · subst hk
    refine ⟨rfl, ?_⟩
    change (s.pressEquals now store).1 = _ at h
    show _ ∧ _ = (s.pressEquals now store).2.1.mainDisplay
    unfold pressEquals at h ⊢
    dsimp only at h ⊢
    rw [show s.endAttempt.editor = s.editor from rfl] at h ⊢
    split at h
    · cases h
    · cases h
    · next v e he =>
      have hv := (Editor.equals_some he).2
      split at h
      · cases h
      · split at h
        · cases h
        · cases h
          exact ⟨by simp [hv], by simp⟩
  · exact absurd ((press_unrecorded hk now s store).2 _ h) (by simp [Reply.commands])

end Calculator

namespace App
open Remote Calculator

variable {ω T : Type} [TimeScale T] (env : Surroundings ω T)

/-- A key press: the app and the surroundings that it meets, the answer and the app it leaves. -/
structure Stroke (ω T : Type) where
  before : App T
  around : ω
  key : Keypad.Key
  answer : Except Failure Calculator.Reply
  after : App T

def stroke (app : App T) (p : ω × Keypad.Key) : Stroke ω T :=
  let (answer, after, _) := press env p.2 (app, p.1)
  ⟨app, p.1, p.2, answer, after⟩

/-- A calculation has been stored: it is reported, or a failure of the remote copy in its place. -/
def Stroke.isRecorded (m : Stroke ω T) : Bool :=
  match m.answer with
  | .ok (.recorded (some _)) | .error (.remote _) => true
  | _ => false

/-- The row that a press of equals adds: what was shown before it and after it, and its time. -/
structure Stroke.Records (m : Stroke ω T) (row : HistoryRecord) : Prop where
  key : m.key = .equals
  expression : row.expression.toList = m.before.calculator.editor.shownText
  unmarked : '→' ∉ row.expression.toList
  result : row.result.toList = m.after.calculator.mainDisplay
  time : env.stamp m.around = .ok row.calculatedAt
  answer : Answers m.before.remote m.answer (.recorded (some row))

theorem unmarked_stroke {app : App T} (h : app.calculator.editor.Unmarked)
    (p : ω × Keypad.Key) : (stroke env app p).after.calculator.editor.Unmarked := by
  have hu := Session.unmarked_press h (env.stamp p.1) p.2 app.store
  unfold stroke press
  dsimp only
  generalize app.calculator.press (env.stamp p.1) p.2 app.store = q at hu
  obtain ⟨r, s, t⟩ := q
  dsimp only
  split
  · split <;> exact hu
  · exact hu
  · exact hu

variable {env}

/-- Where the calculator records nothing, neither does the app. -/
theorem press_of_unrecorded {app : App T} {w : ω} {key : Keypad.Key}
    {r : Except Calculator.Error Calculator.Reply} {s : Calculator.Session}
    (hq : app.calculator.press (env.stamp w) key app.store = (r, s, app.store))
    (hc : ∀ reply, r = .ok reply → reply.commands = []) :
    (press env key (app, w)).1 = r.mapError .press ∧
      (press env key (app, w)).2.1.store = app.store := by
  unfold press
  dsimp only
  rw [hq]
  dsimp only
  split
  · exact ⟨rfl, by split <;> rfl⟩
  · exact absurd (hc _ rfl) (by simp [Calculator.Reply.commands])
  · next reply _ =>
    rw [hc reply rfl]
    exact ⟨rfl, rfl⟩

/-- Where it records a calculation, the remote copy is told and the row stays. -/
theorem press_of_recorded {app : App T} {w : ω} {key : Keypad.Key} {row : HistoryRecord}
    {s : Calculator.Session} {store : Store}
    (hq : app.calculator.press (env.stamp w) key app.store =
      (.ok (.recorded (some row)), s, store)) :
    Answers app.remote (press env key (app, w)).1 (.recorded (some row)) ∧
      (press env key (app, w)).2.1.calculator = s ∧
      (press env key (app, w)).2.1.store = store := by
  unfold press
  dsimp only
  rw [hq]
  exact ⟨tell_answers env _ _ (takeStore env store ({ app with calculator := s }, w)), rfl, rfl⟩

/-- A press adds one row and reports it, as far as the remote copy lets it, or it leaves the store
alone. -/
theorem stroke_cases {app : App T} (h : app.calculator.editor.Unmarked) (p : ω × Keypad.Key) :
    ((stroke env app p).isRecorded = false ∧ (stroke env app p).after.store = app.store) ∨
      (stroke env app p).isRecorded = true ∧ ∃ row, (stroke env app p).Records env row ∧
        row.id = app.store.db.lastHistory + 1 ∧
        (stroke env app p).after.store = app.store.addCalculation row := by
  have hr := records_press (env.stamp p.1) p.2 app.calculator app.store
  have hp (row : HistoryRecord) (hrow : (app.calculator.press (env.stamp p.1) p.2 app.store).1 =
      .ok (.recorded (some row))) := Session.press_recorded hrow
  generalize hq : app.calculator.press (env.stamp p.1) p.2 app.store = q at hr hp
  cases hr with
  | @nothing r s hc =>
    obtain ⟨ha, hs⟩ := press_of_unrecorded hq hc
    refine .inl ⟨?_, hs⟩
    unfold Stroke.isRecorded
    rw [show (stroke env app p).answer = _ from ha]
    cases r with
    | error e => rfl
    | ok reply =>
      rcases reply with _ | _ | _ | _ | ⟨_ | row⟩
      case recorded.some => exact absurd (hc _ rfl) (by simp [Calculator.Reply.commands])
      all_goals rfl
  | @row row s ht hi _ =>
    obtain ⟨ha, hc, hs⟩ := press_of_recorded hq
    obtain ⟨hk, he, hm⟩ := hp row rfl
    refine .inr ⟨?_, row, ⟨hk, he, he ▸ h.shownText, ?_, ht, ha⟩, hi, hs⟩
    · unfold Stroke.isRecorded
      obtain ha | ⟨-, e, ha, -⟩ := ha
      · rw [show (stroke env app p).answer = _ from ha]
      · rw [show (stroke env app p).answer = _ from ha]
    · rw [hm]
      exact congrArg Calculator.Session.mainDisplay hc.symm

variable (env)

/-- Key presses one after another, each in surroundings of its own. -/
def strokes : List (ω × Keypad.Key) → App T → List (Stroke ω T)
  | [], _ => []
  | p :: presses, app => stroke env app p :: strokes presses (stroke env app p).after

/-- The app that key presses leave. -/
def pressAll (presses : List (ω × Keypad.Key)) (app : App T) : App T :=
  presses.foldl (fun app p => (stroke env app p).after) app

/-- A clock that never goes back, in the years from 1970 to 9999. -/
structure Steady (clock : ω → Int) (ws : List ω) : Prop where
  stamp : ∀ w ∈ ws, env.stamp w = Time.presentOfMillis (clock w)
  years : ∀ w ∈ ws, 1970 ≤ (Time.dateTime (clock w / 1000)).year ∧
    (Time.dateTime (clock w / 1000)).year ≤ 9999
  forward : ws.Pairwise fun w w' => clock w ≤ clock w'

variable {env} {clock : ω → Int}

omit [TimeScale T] in
theorem Steady.tail {w : ω} {ws : List ω} (h : Steady env clock (w :: ws)) :
    Steady env clock ws :=
  ⟨fun v hv => h.stamp v (List.mem_cons_of_mem _ hv),
    fun v hv => h.years v (List.mem_cons_of_mem _ hv), (List.pairwise_cons.1 h.forward).2⟩

omit [TimeScale T] in
/-- Time stamps taken later are no smaller. -/
theorem Steady.stamp_le {w v : ω} {ws : List ω} (h : Steady env clock (w :: ws)) (hv : v ∈ ws)
    {stamp stamp' : String} (hw : env.stamp w = .ok stamp) (hv' : env.stamp v = .ok stamp') :
    stamp = stamp' ∨ stamp < stamp' := by
  have hm : v ∈ w :: ws := List.mem_cons_of_mem _ hv
  have hyear {u : ω} (hu : u ∈ w :: ws) : Time.FourDigitYear (clock u / 1000) :=
    (h.years u hu).imp_left (le_trans (by decide))
  rw [h.stamp w List.mem_cons_self] at hw
  rw [h.stamp v hm] at hv'
  exact Time.stamp_mono ((List.pairwise_cons.1 h.forward).1 v hv) hw hv'
    (hyear List.mem_cons_self) (hyear hm)

/-- What key presses add to the calculations: a row for every press that records one, in order. -/
theorem history_pressAll {presses : List (ω × Keypad.Key)} {app : App T}
    (hu : app.calculator.editor.Unmarked) (hs : Steady env clock (presses.map (·.1))) :
    ∃ rows, (pressAll env presses app).store.db.history = app.store.db.history ++ rows ∧
      (pressAll env presses app).store.isOpen = app.store.isOpen ∧
      List.Forall₂ (Stroke.Records env)
        ((strokes env presses app).filter Stroke.isRecorded) rows ∧
      (∀ m ∈ strokes env presses app, m.isRecorded = false → m.after.store = m.before.store) ∧
      (∀ row ∈ rows, app.store.db.lastHistory < row.id ∧
        ∃ w ∈ presses.map (·.1), env.stamp w = .ok row.calculatedAt) ∧
      rows.Pairwise fun a b =>
        (a.calculatedAt = b.calculatedAt ∨ a.calculatedAt < b.calculatedAt) ∧ a.id < b.id := by
  induction presses generalizing app with
  | nil => exact ⟨[], by simp [pressAll], rfl, .nil, by simp [strokes], by simp, .nil⟩
  | cons p presses ih =>
    obtain ⟨rows, hh, ho, hr, hn, hm, hp⟩ := ih (unmarked_stroke env hu p) hs.tail
    have hsh : (stroke env app p).before = app := rfl
    -- A press records nothing and leaves the store alone, or it adds one row.
    obtain ⟨hf, hk⟩ | ⟨hf, row, hrow, hi, ha⟩ := stroke_cases hu p
    · rw [hk] at hh ho hm
      refine ⟨rows, hh, ho, ?_, ?_, fun q hq => ?_, hp⟩
      · rw [strokes, List.filter_cons_of_neg (by simp [hf])]
        exact hr
      · exact List.forall_mem_cons.2 ⟨fun _ => hk, hn⟩
      · obtain ⟨hl, w, hw, ht⟩ := hm q hq
        exact ⟨hl, w, List.mem_cons_of_mem _ hw, ht⟩
    · rw [ha] at hh ho hm
      refine ⟨row :: rows, ?_, ho, ?_, ?_, fun q hq => ?_, ?_⟩
      · refine hh.trans ?_
        simp [Store.addCalculation, Store.withDatabase]
      · rw [strokes, List.filter_cons_of_pos hf]
        exact .cons hrow hr
      · exact List.forall_mem_cons.2 ⟨fun hf' => absurd hf' (by simp [hf]), hn⟩
      · obtain rfl | hq := List.mem_cons.1 hq
        · exact ⟨by omega, p.1, List.mem_cons_self, hrow.time⟩
        · obtain ⟨hl, w, hw, ht⟩ := hm q hq
          refine ⟨?_, w, List.mem_cons_of_mem _ hw, ht⟩
          have hl : row.id < q.id := hl
          omega
      · -- The later rows come from later presses: their ids are greater, and the clock has not gone
        -- back.
        refine List.pairwise_cons.2 ⟨fun q hq => ?_, hp⟩
        obtain ⟨hl, w, hw, ht⟩ := hm q hq
        exact ⟨hs.stamp_le hw hrow.time ht, hl⟩

/-- On a store without calculations, those of the presses are listed from the last press to the
first, each under the time of its press and with what was shown before and after it. No other press
touches the store, and ids rise with the presses. -/
theorem listHistory_pressAll {presses : List (ω × Keypad.Key)} {app : App T}
    {digest : Option String} (ho : app.store.isOpen = true) (he : app.store.db.history = [])
    (hc : app.calculator = .ofDigest digest) (hs : Steady env clock (presses.map (·.1))) :
    ∃ rows, (pressAll env presses app).store.listHistory = .ok rows.reverse ∧
      List.Forall₂ (Stroke.Records env)
        ((strokes env presses app).filter Stroke.isRecorded) rows ∧
      (∀ m ∈ strokes env presses app, m.isRecorded = false → m.after.store = m.before.store) ∧
      rows.Pairwise fun a b => a.id < b.id := by
  have hu : app.calculator.editor.Unmarked := by
    rw [hc]
    exact Keypad.Editor.unmarked_empty
  obtain ⟨rows, hh, ho', hr, hn, -, hp⟩ := history_pressAll hu hs
  refine ⟨rows, ?_, hr, hn, hp.imp And.right⟩
  rw [Store.listHistory_open (ho'.trans ho), hh, he, List.nil_append,
    Store.newestFirst_eq_reverse hp]

/-- Surroundings that know the time, and what comes of a request. -/
def timed : Surroundings (Int × Outcome) Rat where
  now w := w.1 / 1000
  sleep _ w := w
  millis w := .ok w.1
  send _ _ w := (w.2, w)
  stamp w := Time.presentOfMillis w.1
  sealing _ := .error .tooLarge
  callBucket c w := (.error (.refused c.operation none), w)
  freshName w := ("", w)
  connect _ w := (0, w)
  disconnect _ w := w
  fileContent _ _ := .error .missing
  keepFile _ _ _ := .error .missing
  openDatabase _ _ := none
  useDatabase _ _ w := w
  holdsDatabase _ _ := true
  saveDatabase _ _ w := w

/-- A sum, whose minus is refused in the end, across the turn of a year, and an empty group that
the remote copy cannot be told of. -/
def yearEndPresses : List ((Int × Outcome) × Keypad.Key) :=
  [((1704067199000, .response 200 []), .digit ['2']), ((1704067199500, .response 200 []), .dot),
    ((1704067199500, .response 200 []), .equals), ((1704067200000, .response 200 []), .openParen),
    ((1704067200000, .fault (.invalidUrl "down")), .equals)]

theorem steady_yearEndPresses : Steady timed Prod.fst (yearEndPresses.map (·.1)) where
  stamp _ _ := rfl
  years := by decide +kernel
  forward := by decide +kernel

theorem yearEndPresses_listHistory :
    sociableApp.store.isOpen = true ∧ sociableApp.store.db.history = [] ∧
      sociableApp.calculator = .ofDigest none ∧
      Steady timed Prod.fst (yearEndPresses.map (·.1)) ∧
      ∃ rows : List HistoryRecord,
        (pressAll timed yearEndPresses sociableApp).store.listHistory = .ok rows.reverse ∧
          List.Forall₂ (Stroke.Records timed)
            ((strokes timed yearEndPresses sociableApp).filter Stroke.isRecorded) rows := by
  obtain ⟨rows, h, hr, -⟩ :=
    listHistory_pressAll (rfl : sociableApp.store.isOpen = true) rfl rfl steady_yearEndPresses
  exact ⟨rfl, rfl, rfl, steady_yearEndPresses, rows, h, hr⟩

/-- The empty group alone: no press reports a calculation, and there is one. -/
theorem unreported_listHistory :
    Steady timed Prod.fst ((yearEndPresses.drop 3).map (·.1)) ∧
      (∀ m ∈ strokes timed (yearEndPresses.drop 3) sociableApp,
        ∀ row, m.answer ≠ .ok (.recorded (some row))) ∧
      (pressAll timed (yearEndPresses.drop 3) sociableApp).store.listHistory ≠ .ok [] := by
  have hs : (strokes timed (yearEndPresses.drop 3) sociableApp).map (·.answer) =
      [.ok (.changed true), .error (.remote (.failed (.invalidUrl "down")))] := by
    decide +kernel
  have hl : (pressAll timed (yearEndPresses.drop 3) sociableApp).store.db.history.length = 1 := by
    decide +kernel
  refine ⟨steady_yearEndPresses.tail.tail.tail, fun m hm row he => ?_, fun hn => ?_⟩
  · have hm : m.answer ∈ List.map Stroke.answer _ := List.mem_map_of_mem hm
    rw [hs, he] at hm
    simp at hm
  · rw [Store.listHistory_open (by decide +kernel)] at hn
    have hp := (Store.newestFirst_perm (·.calculatedAt) (·.id)
      (pressAll timed (yearEndPresses.drop 3) sociableApp).store.db.history).length_eq
    rw [Except.ok.inj hn, hl] at hp
    cases hp

end App

end CovertVault
