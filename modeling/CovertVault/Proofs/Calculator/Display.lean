import CovertVault.Proofs.Calculator.Detection
import CovertVault.Proofs.Keypad.Layout

namespace CovertVault.Keypad.Editor

variable {e e' : Editor}

theorem afterEquals_putDigit (d : Char) (e : Editor) :
    (e.putDigit d).2.afterEquals = e.afterEquals := by
  unfold putDigit
  split
  · split
    · split <;> rfl
    · rfl
  · rfl

/-- A digit is put somewhere, or there is a lone zero that it leaves. -/
theorem trail_putDigit (d : Char) (e : Editor) : (e.putDigit d).2.trail ≠ [] := by
  unfold putDigit
  split
  · next ht =>
    split
    · split
      · simp [ht]
      · simp [withTrail]
    · simp [withTrail]
  · simp [begin, withTrail]

theorem afterEquals_putOperator (o : Formula.BinOp) (e : Editor) :
    (e.putOperator o).2.afterEquals = e.afterEquals := by
  unfold putOperator
  split
  · split <;> rfl
  · split <;> rfl
  · split <;> rfl
  · split <;> rfl
  · rfl

theorem afterEquals_doubleZero (e : Editor) : e.doubleZero.2.afterEquals = false := by
  have h := leaveEquals_afterEquals false e
  unfold doubleZero
  dsimp only
  split
  · split <;> exact h
  · exact h

theorem trail_doubleZero (e : Editor) : e.doubleZero.2.trail ≠ [] := by
  unfold doubleZero
  dsimp only
  split
  · next ht =>
    split
    · simp [ht]
    · simp [withTrail]
  · simp [begin, withTrail]

theorem afterEquals_dot (e : Editor) : e.dot.2.afterEquals = false := by
  have h := leaveEquals_afterEquals false e
  unfold dot
  dsimp only
  split
  · split <;> exact h
  · exact h

theorem afterEquals_openParen (e : Editor) : e.openParen.afterEquals = false := by
  have h := leaveEquals_afterEquals false e
  unfold openParen
  dsimp only
  split
  · split <;> exact h
  · exact h
  · exact h

theorem afterEquals_digit {text : List Char} {b : Bool} (h : e.digit text = .ok (b, e')) :
    e'.afterEquals = false ∧ e'.trail ≠ [] := by
  cases pressed_of_digit h with
  | @digit _ d _ =>
    exact ⟨(afterEquals_putDigit d _).trans (leaveEquals_afterEquals false e), trail_putDigit d _⟩

theorem signFlip_edits (e : Editor) : e.signFlip.2.afterEquals = false ∨ e.signFlip.2 = e := by
  unfold signFlip
  split
  · exact .inr rfl
  · exact .inl (leaveEquals_afterEquals true e)

theorem backspace_edits (e : Editor) : e.backspace.2.afterEquals = false ∨ e.backspace.2 = e := by
  unfold backspace
  split
  · exact .inr rfl
  · next hn =>
    have hn : e.afterEquals = false := by simpa using hn
    left
    split <;> exact hn

theorem closeParen_edits (e : Editor) :
    e.closeParen.2.afterEquals = false ∨ e.closeParen.2 = e := by
  unfold closeParen
  split
  · exact .inr rfl
  · next hc =>
    have hn : e.afterEquals = false := by simpa using fun h => hc (.inl h)
    left
    split
    · exact hn
    · exact hn
    · split <;> exact hn
    · exact hn

/-- Every key but equals begins or goes on with an expression, or it leaves the editor alone. -/
theorem Pressed.edits {k : Key} (h : Pressed e k e') (hk : k ≠ .equals) :
    e'.afterEquals = false ∨ e' = e := by
  cases h with
  | @digit _ d _ =>
    exact .inl ((afterEquals_putDigit d _).trans (leaveEquals_afterEquals false e))
  | doubleZero => exact .inl (afterEquals_doubleZero e)
  | operator o =>
    exact .inl ((afterEquals_putOperator o _).trans (leaveEquals_afterEquals true e))
  | dot => exact .inl (afterEquals_dot e)
  | idle => exact .inr rfl
  | function => exact .inl (leaveEquals_afterEquals true e)
  | signFlip => exact signFlip_edits e
  | backspace => exact backspace_edits e
  | openParen => exact .inl (afterEquals_openParen e)
  | closeParen => exact closeParen_edits e
  | clear => exact .inl rfl
  | equals => exact absurd rfl hk

/-- A calculation leaves its result and nothing else behind. -/
theorem equals_some {v : Evaluation} (h : e.equals = .ok (some v, e')) :
    e' = ⟨[], some v.result, true⟩ ∧ v.expression = e.shownText := by
  unfold equals at h
  split at h
  · cases h
  · split at h
    · cases h
    · cases h
      exact ⟨rfl, rfl⟩

/-- Equals finds nothing to do behind a result and on an empty editor. -/
theorem equals_none (h : e.equals = .ok (none, e')) :
    e' = e ∧ (e.afterEquals = true ∨ e.trail = []) := by
  unfold equals at h
  split at h
  · next hn =>
    cases h
    exact ⟨rfl, hn⟩
  · split at h <;> cases h

end CovertVault.Keypad.Editor

namespace CovertVault.Calculator
open Keypad

/-- The calculation that a key makes. -/
def calculation? (e : Editor) : Key → Option Evaluation
  | .equals => match e.equals with
    | .ok (v, _) => v
    | .error _ => none
  | _ => none

/-- What a press makes of the editor and the two lines, and the calculation it makes. -/
inductive Turn (s : Session) : Except Error Reply → Session → Option Evaluation → Prop
  /-- The key is refused. -/
  | refused (e : PressError) (g : Pin.Guard) : Turn s (.error (.key e)) (s.withGuard g) none
  /-- There is nothing to calculate. -/
  | idle (reply : Reply) : s.editor.afterEquals = true ∨ s.editor.trail = [] → (g : Pin.Guard) →
      Turn s (.ok reply) (s.withGuard g) none
  | edited {e : Editor} (reply : Reply) : e.afterEquals = false ∨ e = s.editor → (g : Pin.Guard) →
      Turn s (.ok reply) ((s.withEditor e).withGuard g).refresh none
  /-- The PIN is complete and the screen is cleared. -/
  | opened (reply : Reply) (g : Pin.Guard) : Turn s (.ok reply) (s.withGuard g).clear none
  /-- The guard fails on a digit that has reached the editor. -/
  | broken {e : Editor} (err : Pin.GuardError) : e.afterEquals = false → e.trail ≠ [] →
      (g : Pin.Guard) → Turn s (.error (.guard err)) ((s.withEditor e).withGuard g) none
  | calculated (r : Except Error Reply) (v : Evaluation) (g : Pin.Guard) :
      Turn s r ⟨⟨[], some v.result, true⟩, g, v.expression, v.result⟩ (some v)

/-- Digits for the guard: none or all of them are taken, the PIN comes out, or the guard fails. -/
theorem Session.feed_shape (ds : List Char) (s : Session) : ∃ g,
    s.feed ds = (.ok (.unlocked none), (s.withGuard g).refresh) ∨
      (∃ pin, s.feed ds = (.ok (.unlocked (some pin)), (s.withGuard g).clear)) ∨
      ∃ err, s.feed ds = (.error (.guard err), s.withGuard g) := by
  induction ds generalizing s with
  | nil => exact ⟨s.guard, .inl rfl⟩
  | cons d ds ih =>
    unfold feed
    split
    · next err g _ => exact ⟨g, .inr (.inr ⟨err, rfl⟩)⟩
    · next pin g _ => exact ⟨g, .inr (.inl ⟨pin, rfl⟩)⟩
    · next g _ => exact ih (s.withGuard g)

variable {s : Session}

theorem turn_feed {e : Editor} (ha : e.afterEquals = false) (ht : e.trail ≠ []) (ds : List Char) :
    Turn s ((s.withEditor e).feed ds).1 ((s.withEditor e).feed ds).2 none := by
  obtain ⟨g, h | ⟨pin, h⟩ | ⟨err, h⟩⟩ := (s.withEditor e).feed_shape ds
  · rw [h]
    exact .edited _ (.inl ha) g
  · rw [h]
    exact .opened _ g
  · rw [h]
    exact .broken err ha ht g

theorem turn_pressOther {key : Key} (hk : key ≠ .equals) (s : Session) :
    Turn s (s.pressOther key).1 (s.pressOther key).2 none := by
  unfold Session.pressOther
  dsimp only
  split
  · next err _ => exact .refused err _
  · next reply e he =>
    exact .edited _ ((Editor.pressed_of_press? (e := s.editor) he).edits hk) s.guard.reset

theorem turn_pressEquals (now : Time.Present) (s : Session) (store : Store) :
    Turn s (s.pressEquals now store).1 (s.pressEquals now store).2.1
      (calculation? s.editor .equals) := by
  unfold Session.pressEquals calculation?
  dsimp only
  show Turn s _ _ (match s.editor.equals with | .ok (v, _) => v | .error _ => none)
  rw [show s.endAttempt.editor = s.editor from rfl]
  cases he : s.editor.equals with
  | error err => exact .refused err _
  | ok p =>
    obtain ⟨v | v, e⟩ := p
    · exact .idle _ (Editor.equals_none he).2 _
    · obtain ⟨rfl, -⟩ := Editor.equals_some he
      dsimp only
      split
      · exact .calculated _ v _
      · split <;> exact .calculated _ v _

theorem turn_press (now : Time.Present) (key : Key) (s : Session) (store : Store) :
    Turn s (s.press now key store).1 (s.press now key store).2.1 (calculation? s.editor key) := by
  cases key with
  | digit text =>
    show Turn s (s.pressDigit text).1 (s.pressDigit text).2 none
    unfold Session.pressDigit
    split
    · next err _ => exact .refused err s.guard
    · next acted e he =>
      obtain ⟨ha, ht⟩ := Editor.afterEquals_digit he
      exact turn_feed ha ht _
  | doubleZero =>
    exact turn_feed (Editor.afterEquals_doubleZero s.editor) (Editor.trail_doubleZero s.editor) _
  | backspace =>
    exact .edited _ (Editor.backspace_edits s.editor) _
  | equals => exact turn_pressEquals now s store
  | _ => exact turn_pressOther (by simp) s

/-- With a digest that can be compared with, the guard does not fail. -/
theorem Session.feed_ne_guard {s : Session} (hc : Pin.Comparable s.guard.storedDigest)
    (ds : List Char) (err : Pin.GuardError) : (s.feed ds).1 ≠ .error (.guard err) := by
  induction ds generalizing s with
  | nil => simp [feed]
  | cons d ds ih =>
    unfold feed
    by_cases hs : s.guard.buffer.length + 1 < Pin.pinLength
    · rw [Pin.Guard.feed_short hs]
      exact ih hc
    · obtain ⟨-, hf⟩ | ⟨-, hf⟩ := Pin.Guard.feed_full (d := d) hc (Nat.not_lt.1 hs)
      · rw [hf]
        simp
      · rw [hf]
        exact ih hc

theorem Session.press_ne_guard (hc : Pin.Comparable s.guard.storedDigest) (now : Time.Present)
    (key : Key) (store : Store) (err : Pin.GuardError) :
    (s.press now key store).1 ≠ .error (.guard err) := by
  cases key with
  | digit text =>
    show (s.pressDigit text).1 ≠ _
    unfold pressDigit
    split
    · simp
    · next acted e _ => exact feed_ne_guard (s := s.withEditor e) hc _ err
  | doubleZero => exact feed_ne_guard (s := s.withEditor s.editor.doubleZero.2) hc _ err
  | backspace => simp [press, pressBackspace]
  | equals =>
    show (s.pressEquals now store).1 ≠ _
    unfold pressEquals
    dsimp only
    split
    · simp
    · simp
    · split
      · simp
      · split <;> simp
  | _ =>
    show (s.pressOther _).1 ≠ _
    unfold pressOther
    dsimp only
    split <;> simp

/-- A key press does to the editor what the key does, or it unlocks and clears it. -/
theorem Session.editor_press (now : Time.Present) (key : Key) (s : Session) (store : Store) :
    (s.press now key store).2.1.editor = (s.editor.press key).2 ∨
      (s.press now key store).2.1.editor = .empty := by
  have hf (e : Editor) (ds : List Char) : ((s.withEditor e).feed ds).2.editor = e ∨
      ((s.withEditor e).feed ds).2.editor = .empty := by
    obtain ⟨g, h | ⟨pin, h⟩ | ⟨err, h⟩⟩ := (s.withEditor e).feed_shape ds
    · rw [h]
      exact .inl (editor_refresh _)
    · rw [h]
      exact .inr rfl
    · rw [h]
      exact .inl rfl
  cases key with
  | digit text =>
    show (s.pressDigit text).2.editor = _ ∨ (s.pressDigit text).2.editor = _
    unfold pressDigit Editor.press Editor.press?
    dsimp only
    cases s.editor.digit text with
    | error e => exact .inl rfl
    | ok p => exact hf p.2 _
  | doubleZero => exact hf s.editor.doubleZero.2 _
  | backspace => exact .inl (editor_refresh _)
  | equals =>
    left
    show (s.pressEquals now store).2.1.editor = _
    unfold pressEquals Editor.press Editor.press?
    dsimp only
    rw [show s.endAttempt.editor = s.editor from rfl]
    cases he : s.editor.equals with
    | error e => rfl
    | ok p =>
      obtain ⟨v | v, e⟩ := p
      · exact (Editor.equals_none he).1.symm
      · dsimp only [Except.map]
        split
        · rfl
        · split <;> rfl
  | _ =>
    left
    show (s.pressOther _).2.editor = _
    unfold pressOther Editor.press
    dsimp only
    rw [show s.endAttempt.editor = s.editor from rfl]
    split
    · next h =>
      rw [h]
      rfl
    · next h =>
      rw [h, editor_refresh]
      rfl

/-- The lines show what the editor holds, or right behind equals the calculation made last. -/
structure Session.Shows (s : Session) (last : Option Evaluation) : Prop where
  editing : s.editor.afterEquals = false → s.expressionLine = [] ∧
    s.mainDisplay = if s.editor.shownText = [] then ['0'] else s.editor.shownText
  result : s.editor.afterEquals = true → s.editor.tokens = [] ∧
    s.editor.carry = some s.mainDisplay ∧
    ∃ v, last = some v ∧ s.expressionLine = v.expression ∧ s.mainDisplay = v.result

/-- The lines are still those of an earlier session, and an expression is being typed. -/
structure Session.Behind (earlier s : Session) : Prop where
  expressionLine : s.expressionLine = earlier.expressionLine
  mainDisplay : s.mainDisplay = earlier.mainDisplay
  editing : s.editor.afterEquals = false
  trail_ne : s.editor.trail ≠ []

variable {s' : Session} {r : Except Error Reply} {c last : Option Evaluation}

theorem Session.shows_ofDigest (digest : Option String) (last : Option Evaluation) :
    (ofDigest digest).Shows last :=
  ⟨fun _ => ⟨rfl, rfl⟩, fun h => by cases h⟩

theorem Session.shows_refresh {e : Editor} (h : e.afterEquals = false) (g : Pin.Guard)
    (last : Option Evaluation) : ((s.withEditor e).withGuard g).refresh.Shows last := by
  have hr : ((s.withEditor e).withGuard g).refresh =
      ⟨e, g, [], if e.shownText = [] then ['0'] else e.shownText⟩ := by
    unfold refresh
    rw [if_neg (by simpa [withEditor, withGuard] using h)]
    rfl
  rw [hr]
  exact ⟨fun _ => ⟨rfl, rfl⟩, fun ha => by rw [h] at ha; cases ha⟩

/-- A press shows what it has made, unless the guard fails: then it shows what was shown before. -/
theorem Turn.shows (t : Turn s r s' c) (h : s.Shows last) :
    s'.Shows (c.or last) ∨ (∃ err, r = .error (.guard err)) ∧ s.Behind s' := by
  cases t with
  | refused | idle => exact .inl ⟨h.editing, h.result⟩
  | @edited e reply he g =>
    left
    cases ha : e.afterEquals with
    | false => exact Session.shows_refresh ha g _
    | true =>
      obtain rfl : e = s.editor := he.resolve_left (by simp [ha])
      unfold Session.refresh
      rw [if_pos (by simpa [Session.withEditor, Session.withGuard] using ha)]
      exact ⟨h.editing, h.result⟩
  | opened => exact .inl (Session.shows_ofDigest _ _)
  | broken err ha ht g => exact .inr ⟨⟨err, rfl⟩, rfl, rfl, ha, ht⟩
  | calculated r v g =>
    exact .inl ⟨fun ha => (by cases ha), fun _ => ⟨rfl, rfl, v, rfl, rfl, rfl⟩⟩

/-- Lines that are behind are so until a press returns or calculates. -/
theorem Turn.shows_of_behind {earlier : Session} (t : Turn s r s' c) (h : earlier.Behind s)
    (last : Option Evaluation) :
    s'.Shows (c.or last) ∨ (∃ e, r = .error e) ∧ c = none ∧ earlier.Behind s' := by
  cases t with
  | refused e g =>
    exact .inr ⟨⟨_, rfl⟩, rfl, h.expressionLine, h.mainDisplay, h.editing, h.trail_ne⟩
  | idle reply hn =>
    obtain ha | ht := hn
    · rw [h.editing] at ha
      cases ha
    · exact absurd ht h.trail_ne
  | @edited e reply he g =>
    have ha : e.afterEquals = false := he.elim id fun he => he ▸ h.editing
    exact .inl (Session.shows_refresh ha g _)
  | opened => exact .inl (Session.shows_ofDigest _ _)
  | broken err ha ht g =>
    exact .inr ⟨⟨_, rfl⟩, rfl, h.expressionLine, h.mainDisplay, ha, ht⟩
  | calculated r v g =>
    exact .inl ⟨fun ha => (by cases ha), fun _ => ⟨rfl, rfl, v, rfl, rfl, rfl⟩⟩

/-- A session at work on a store, and the calculation that was made last. -/
structure Desk where
  session : Session
  store : Store
  last : Option Evaluation

namespace Desk

/-- A calculator that was just switched on, for a stored digest. -/
def ofDigest (digest : Option String) (store : Store) : Desk := ⟨.ofDigest digest, store, none⟩

def answer (d : Desk) (p : Time.Present × Key) : Except Error Reply :=
  (d.session.press p.1 p.2 d.store).1

def calculates (d : Desk) (p : Time.Present × Key) : Option Evaluation :=
  calculation? d.session.editor p.2

def press (d : Desk) (p : Time.Present × Key) : Desk :=
  let (_, s, store) := d.session.press p.1 p.2 d.store
  ⟨s, store, (d.calculates p).or d.last⟩

def after (d : Desk) (presses : List (Time.Present × Key)) : Desk := presses.foldl press d

/-- What is shown is what is held. -/
def Shows (d : Desk) : Prop := d.session.Shows d.last

/-- Every press fails, and none calculates. -/
def Stalls : Desk → List (Time.Present × Key) → Prop
  | _, [] => True
  | d, p :: presses =>
    (∃ e, d.answer p = .error e) ∧ d.calculates p = none ∧ (d.press p).Stalls presses

/-- The guard has failed at a press, no later one has returned or calculated, and both lines are
those from before it. -/
def Interrupted (start : Desk) (presses : List (Time.Present × Key)) : Prop :=
  ∃ before p since, presses = before ++ p :: since ∧
    (∃ err, (start.after before).answer p = .error (.guard err)) ∧
    ((start.after before).press p).Stalls since ∧
    (start.after before).session.Behind (start.after presses).session

variable {d start : Desk} {presses : List (Time.Present × Key)}

theorem turn (d : Desk) (p : Time.Present × Key) :
    Turn d.session (d.answer p) (d.press p).session (d.calculates p) :=
  turn_press p.1 p.2 d.session d.store

theorem after_append (d : Desk) (before since : List (Time.Present × Key)) :
    d.after (before ++ since) = (d.after before).after since := List.foldl_append

theorem after_snoc (d : Desk) (presses : List (Time.Present × Key)) (p : Time.Present × Key) :
    d.after (presses ++ [p]) = (d.after presses).press p := after_append d presses [p]

theorem Stalls.snoc {p : Time.Present × Key} (h : d.Stalls presses)
    (ha : ∃ e, (d.after presses).answer p = .error e)
    (hc : (d.after presses).calculates p = none) : d.Stalls (presses ++ [p]) := by
  induction presses generalizing d with
  | nil => exact ⟨ha, hc, trivial⟩
  | cons q presses ih => exact ⟨h.1, h.2.1, ih h.2.2 ha hc⟩

theorem storedDigest_after (d : Desk) (presses : List (Time.Present × Key)) :
    (d.after presses).session.guard.storedDigest = d.session.guard.storedDigest := by
  induction presses generalizing d with
  | nil => rfl
  | cons p presses ih => exact (ih _).trans (Session.storedDigest_press p.1 p.2 d.session d.store)

theorem shows_or_interrupted (h : start.Shows) (presses : List (Time.Present × Key)) :
    (start.after presses).Shows ∨ start.Interrupted presses := by
  -- The last press decides, from the lines that those before it have left.
  induction presses using List.reverseRecOn with
  | nil => exact .inl h
  | append_singleton presses p ih =>
    have ht := (start.after presses).turn p
    rw [Shows, Interrupted, after_snoc]
    -- Lines that were left behind stay as they are until a press is answered, and then catch up.
    obtain hs | ⟨before, q, since, rfl, hg, hst, hb⟩ := ih
    · obtain hs | ⟨hg, hb⟩ := ht.shows hs
      · exact .inl hs
      · exact .inr ⟨presses, p, [], rfl, hg, trivial, hb⟩
    · obtain hs | ⟨ha, hc, hb⟩ := ht.shows_of_behind hb (start.after (before ++ q :: since)).last
      · exact .inl hs
      · rw [after_append] at ha hc
        refine .inr ⟨before, q, since ++ [p], by simp, hg, hst.snoc ha hc, ?_⟩
        exact hb

/-- The guard of a digest in ASCII does not fail, at no press. -/
theorem Interrupted.not_comparable (h : start.Interrupted presses) :
    ¬ Pin.Comparable start.session.guard.storedDigest := by
  intro hc
  obtain ⟨before, p, since, -, ⟨err, hg⟩, -⟩ := h
  rw [← storedDigest_after start before] at hc
  exact Session.press_ne_guard hc _ _ _ _ hg

/-- What is shown is what is held, after any presses, those that fail or unlock included. Only
where the guard has failed on a stored digest that is not ASCII are the lines those from before that
press, up to the next press that returns or calculates. -/
theorem shows_after (digest : Option String) (store : Store)
    (presses : List (Time.Present × Key)) :
    (((ofDigest digest store).after presses).Shows ∨ (ofDigest digest store).Interrupted presses) ∧
      (Pin.Comparable digest → ((ofDigest digest store).after presses).Shows) := by
  have hs : (ofDigest digest store).Shows := Session.shows_ofDigest digest none
  have h := shows_or_interrupted hs presses
  exact ⟨h, fun hc => h.resolve_right fun hi => hi.not_comparable hc⟩

/-- Presses of one digit each. -/
def digitPresses (text : String) : List (Time.Present × Key) :=
  text.toList.map fun c => (.ok "", .digit [c])

/-- The PIN, behind which nothing is shown any more. -/
theorem shows_after_pin :
    Pin.Comparable (some (Pin.digest "12345")) ∧
      ((ofDigest (some (Pin.digest "12345")) .empty).after (digitPresses "12345")).Shows :=
  ⟨Pin.comparable_digest _, (shows_after _ _ _).2 (Pin.comparable_digest _)⟩

/-- Of five digits for a digest that is not ASCII four are shown, and the editor holds them all. -/
theorem not_shows_after_accented :
    ¬ ((ofDigest (some "é") .empty).after (digitPresses "12345")).Shows := by
  intro h
  have hs := (h.editing (by rfl)).2
  exact absurd hs (by decide)

end Desk

end CovertVault.Calculator
