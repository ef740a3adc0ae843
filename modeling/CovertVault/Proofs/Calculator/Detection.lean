import CovertVault.Calculator.Session
import CovertVault.Proofs.Pin.Attempt
import Mathlib.Data.Nat.Find

namespace CovertVault.Calculator
open Keypad Pin

/-- The five digits of a number, counted from zero. -/
def block (a : List Char) (j : Nat) : List Char := (a.drop (5 * j)).take 5

/-- The digits behind the last five that are complete. -/
def remainder (a : List Char) : List Char := a.drop (5 * (a.length / 5))

/-- None of the complete fives is the PIN. -/
def Missed (stored : Option String) (a : List Char) : Prop :=
  ∀ j, 5 * j + 5 ≤ a.length → ¬ Opens stored (String.ofList (block a j))

/-- The first five that are the PIN have a number. -/
structure OpensFirst (stored : Option String) (a : List Char) (j : Nat) : Prop where
  complete : 5 * j + 5 ≤ a.length
  opens : Opens stored (String.ofList (block a j))
  first : ∀ i < j, ¬ Opens stored (String.ofList (block a i))

variable {stored : Option String} {a b : List Char} {d : Char} {j : Nat}

/-- Digits that come later change nothing about those that are complete. -/
theorem block_append (h : 5 * j + 5 ≤ a.length) : block (a ++ b) j = block a j := by
  unfold block
  rw [List.drop_append_of_le_length (by omega),
    List.take_append_of_le_length (by rw [List.length_drop]; omega)]

theorem length_remainder (a : List Char) : (remainder a).length = a.length % 5 := by
  rw [remainder, List.length_drop]
  omega

theorem remainder_short (h : a.length % 5 + 1 < 5) : remainder (a ++ [d]) = remainder a ++ [d] := by
  have hq : (a.length + 1) / 5 = a.length / 5 := by omega
  unfold remainder
  rw [List.length_append, List.length_singleton, hq, List.drop_append_of_le_length (by omega)]

theorem remainder_full (h : a.length % 5 = 4) : remainder (a ++ [d]) = [] := by
  apply List.eq_nil_of_length_eq_zero
  rw [length_remainder, List.length_append, List.length_singleton]
  omega

theorem block_full (h : a.length % 5 = 4) :
    block (a ++ [d]) (a.length / 5) = remainder a ++ [d] := by
  have hl : (remainder a ++ [d]).length = 5 := by
    rw [List.length_append, length_remainder, List.length_singleton, h]
  unfold block
  rw [List.drop_append_of_le_length (by omega)]
  exact List.take_of_length_le (Nat.le_of_eq hl)

theorem missed_nil : Missed stored [] := fun j h => absurd h (by simp)

theorem Missed.short (h : Missed stored a) (hl : a.length % 5 + 1 < 5) :
    Missed stored (a ++ [d]) := fun j hj => by
  have hj' : 5 * j + 5 ≤ a.length := by
    rw [List.length_append, List.length_singleton] at hj
    omega
  rw [block_append hj']
  exact h j hj'

theorem Missed.full (h : Missed stored a) (hl : a.length % 5 = 4)
    (hd : ¬ Opens stored (String.ofList (remainder a ++ [d]))) :
    Missed stored (a ++ [d]) := fun j hj => by
  rw [List.length_append, List.length_singleton] at hj
  by_cases hj' : 5 * j + 5 ≤ a.length
  · rw [block_append hj']
    exact h j hj'
  · obtain rfl : j = a.length / 5 := by omega
    rwa [block_full hl]

theorem Missed.opensFirst (h : Missed stored a) (hl : a.length % 5 = 4)
    (hd : Opens stored (String.ofList (remainder a ++ [d]))) :
    OpensFirst stored (a ++ [d]) (a.length / 5) where
  complete := by
    rw [List.length_append, List.length_singleton]
    omega
  opens := by rwa [block_full hl]
  first i hi := by
    have hi' : 5 * i + 5 ≤ a.length := by omega
    rw [block_append hi']
    exact h i hi'

theorem OpensFirst.append (h : OpensFirst stored a j) (b : List Char) :
    OpensFirst stored (a ++ b) j where
  complete := by
    have := h.complete
    rw [List.length_append]
    omega
  opens := by
    rw [block_append h.complete]
    exact h.opens
  first i hi := by
    have := h.complete
    rw [block_append (by omega)]
    exact h.first i hi

theorem OpensFirst.unique {i : Nat} (h : OpensFirst stored a i) (h' : OpensFirst stored a j) :
    i = j := by
  obtain hl | he | hl := Nat.lt_trichotomy i j
  · exact absurd h.opens (h'.first i hl)
  · exact he
  · exact absurd h'.opens (h.first j hl)

/-- Fives that have been missed are not the PIN later on. -/
theorem Missed.lt (h : Missed stored a) (ho : OpensFirst stored (a ++ b) j) :
    a.length < 5 * j + 5 := by
  by_contra hl
  have hj : 5 * j + 5 ≤ a.length := by omega
  refine h j hj ?_
  rw [← block_append (b := b) hj]
  exact ho.opens

namespace Session

variable {s : Session}

theorem feed_cases (hm : Missed s.guard.storedDigest a) (hb : s.guard.buffer = remainder a)
    (hc : Comparable s.guard.storedDigest) (ds : List Char) :
    (∃ j, OpensFirst s.guard.storedDigest (a ++ ds) j ∧
        s.feed ds = (.ok (.unlocked (some (String.ofList (block (a ++ ds) j)))), s.clear)) ∨
      Missed s.guard.storedDigest (a ++ ds) ∧
        s.feed ds = (.ok (.unlocked none),
          (s.withGuard { s.guard with buffer := remainder (a ++ ds) }).refresh) := by
  induction ds generalizing s a with
  | nil =>
    rw [List.append_nil, ← hb]
    exact .inr ⟨hm, rfl⟩
  | cons d ds ih =>
    have hl : s.guard.buffer.length = a.length % 5 := by rw [hb, length_remainder]
    rw [← List.singleton_append, ← List.append_assoc]
    -- The digit fills up the buffer to five, or it does not.
    by_cases hs : a.length % 5 + 1 < 5
    · have hf := Guard.feed_short (g := s.guard) (d := d) (by rw [hl]; exact hs)
      rw [List.singleton_append, feed, hf]
      dsimp only
      rw [hb, ← remainder_short hs]
      exact ih (s := s.withGuard { s.guard with buffer := remainder (a ++ [d]) }) (hm.short hs) rfl
        hc
    · have hl4 : a.length % 5 = 4 := by omega
      have hg := Guard.feed_full (d := d) hc (by rw [hl, hl4]; decide)
      rw [hb] at hg
      obtain ⟨ho, hf⟩ | ⟨ho, hf⟩ := hg
      · have hj := hm.opensFirst hl4 ho
        refine .inl ⟨_, hj.append ds, ?_⟩
        rw [List.singleton_append, feed, hf, block_append hj.complete, block_full hl4]
        rfl
      · rw [List.singleton_append, feed, hf]
        exact ih (s := s.withGuard s.guard.reset) (hm.full hl4 ho) (remainder_full hl4).symm hc

end Session

inductive NumberKey where
  | digit (text : List Char)
  | doubleZero
deriving Repr, DecidableEq

def NumberKey.key : NumberKey → Key
  | .digit text => .digit text
  | .doubleZero => .doubleZero

/-- Whether zeros are left out: the number being typed is a lone zero. -/
def dropsZeros (e : Editor) : Bool :=
  !e.afterEquals && match e.trail with
    | .operand (.literal t) :: _ => Editor.isLoneZero t
    | _ => false

/-- The digits that a key brings to the screen; none if its text is no digit. -/
def typed (e : Editor) : NumberKey → List Char
  | .digit text =>
    match digitKey? text with
    | none => []
    | some d => if d = '0' ∧ dropsZeros e then [] else [d]
  | .doubleZero => if dropsZeros e then [] else ['0', '0']

/-- The digits that keys bring to the screen one after another. -/
def typedBy : Editor → List NumberKey → List Char
  | _, [] => []
  | e, k :: ks => typed e k ++ typedBy (e.press k.key).2 ks

theorem putDigit_acted (e : Editor) (d : Char) :
    ((e.leaveEquals false).putDigit d).1 = !decide (d = '0' ∧ dropsZeros e) := by
  obtain ⟨trail, carry, after⟩ := e
  cases after with
  | true => simp [dropsZeros, Editor.leaveEquals, Editor.putDigit, Editor.empty]
  | false =>
    rcases trail with _ | ⟨⟨t | _⟩ | _ | _ | _, r⟩
    · simp [dropsZeros, Editor.leaveEquals, Editor.putDigit]
    · cases hz : Editor.isLoneZero t
      · simp [dropsZeros, Editor.leaveEquals, Editor.putDigit, hz]
      · by_cases hd : d = '0' <;>
          simp [dropsZeros, Editor.leaveEquals, Editor.putDigit, hz, hd]
    all_goals simp [dropsZeros, Editor.leaveEquals, Editor.putDigit]

theorem doubleZero_acted (e : Editor) : e.doubleZero.1 = !dropsZeros e := by
  obtain ⟨trail, carry, after⟩ := e
  cases after with
  | true => simp [dropsZeros, Editor.leaveEquals, Editor.doubleZero, Editor.empty]
  | false =>
    rcases trail with _ | ⟨⟨t | _⟩ | _ | _ | _, r⟩
    · simp [dropsZeros, Editor.leaveEquals, Editor.doubleZero]
    · cases hz : Editor.isLoneZero t <;>
        simp [dropsZeros, Editor.leaveEquals, Editor.doubleZero, hz]
    all_goals simp [dropsZeros, Editor.leaveEquals, Editor.doubleZero]

theorem eq_singleton_of_digitKey? {text : List Char} (h : digitKey? text = some d) :
    text = [d] := by
  unfold digitKey? at h
  split at h
  · split at h
    · cases h
      rfl
    · cases h
  · cases h

/-- A key that types digits hands them to the guard, unless its text is no digit: then it is
refused and nothing happens. -/
theorem press_number (now : Time.Present) (k : NumberKey) (s : Session) (store : Store) :
    (typed s.editor k = [] ∧ (s.editor.press k.key).2 = s.editor ∧
        ∃ e, s.press now k.key store = (.error (.key e), s, store)) ∨
      s.press now k.key store =
        (((s.withEditor (s.editor.press k.key).2).feed (typed s.editor k)).1,
          ((s.withEditor (s.editor.press k.key).2).feed (typed s.editor k)).2, store) := by
  cases k with
  | digit text =>
    simp only [NumberKey.key, Session.press, Session.pressDigit, typed, Editor.press,
      Editor.press?, Editor.digit]
    cases hd : digitKey? text with
    | none => exact .inl ⟨rfl, rfl, _, rfl⟩
    | some d =>
      obtain rfl := eq_singleton_of_digitKey? hd
      right
      dsimp only [Except.map]
      rw [putDigit_acted]
      by_cases hz : d = '0' ∧ dropsZeros s.editor <;> simp [hz]
  | doubleZero =>
    right
    simp only [NumberKey.key, Session.press, Session.pressDoubleZero, typed, Editor.press,
      Editor.press?]
    rw [doubleZero_acted]
    cases dropsZeros s.editor <;> rfl

theorem editor_refresh (s : Session) : s.refresh.editor = s.editor := by
  unfold Session.refresh
  split <;> rfl

theorem guard_refresh (s : Session) : s.refresh.guard = s.guard := by
  unfold Session.refresh
  split <;> rfl

/-- Not the answer of a key that unlocks. -/
def Silent (r : Except Error Reply) : Prop := ∀ pin, r ≠ .ok (.unlocked (some pin))

/-- One key, behind digits none of whose complete fives is the PIN. -/
theorem press_cases {s : Session} (hm : Missed s.guard.storedDigest a)
    (hb : s.guard.buffer = remainder a) (hc : Comparable s.guard.storedDigest) (now : Time.Present)
    (k : NumberKey) (store : Store) :
    (∃ j, OpensFirst s.guard.storedDigest (a ++ typed s.editor k) j ∧
        s.press now k.key store =
          (.ok (.unlocked (some (String.ofList (block (a ++ typed s.editor k) j)))),
            .ofDigest s.guard.storedDigest, store)) ∨
      Missed s.guard.storedDigest (a ++ typed s.editor k) ∧
        ∃ r s', s.press now k.key store = (r, s', store) ∧ Silent r ∧
          s'.editor = (s.editor.press k.key).2 ∧
          s'.guard = { s.guard with buffer := remainder (a ++ typed s.editor k) } := by
  obtain ⟨ht, he, e, hp⟩ | hp := press_number now k s store
  · rw [ht, List.append_nil, ← hb]
    exact .inr ⟨hm, _, _, hp, by simp [Silent], he.symm, rfl⟩
  · have hf := Session.feed_cases (s := s.withEditor (s.editor.press k.key).2) hm hb hc
      (typed s.editor k)
    obtain ⟨j, hj, hf⟩ | ⟨hn, hf⟩ := hf
    · rw [hf] at hp
      exact .inl ⟨j, hj, hp⟩
    · rw [hf] at hp
      exact .inr ⟨hn, _, _, hp, by simp [Silent], editor_refresh _, guard_refresh _⟩

/-- What a key answers, and the session and the store after it. -/
abbrev Moment := Except Error Reply × Session × Store

/-- The moments of keys pressed at given times. -/
def moments : List (Time.Present × NumberKey) → Session → Store → List Moment
  | [], _, _ => []
  | (now, k) :: presses, s, store =>
    let m := s.press now k.key store
    m :: moments presses m.2.1 m.2.2

/-- The first unlocking is that of press number `n`. -/
structure UnlocksFirst (ms : List Moment) (n : Nat) (pin : String) : Prop where
  unlocks : ∃ m, ms[n]? = some m ∧ m.1 = .ok (.unlocked (some pin))
  first : ∀ i < n, ∀ m, ms[i]? = some m → Silent m.1

/-- Press number `n` brings the digit that makes them `i`. -/
def Supplies (e : Editor) (ks : List NumberKey) (n i : Nat) : Prop :=
  (typedBy e (ks.take n)).length < i ∧ i ≤ (typedBy e (ks.take (n + 1))).length

theorem not_unlocksFirst_nil {n : Nat} {pin : String} : ¬ UnlocksFirst [] n pin := by
  rintro ⟨⟨m, hm, -⟩, -⟩
  simp at hm

theorem unlocksFirst_cons {m : Moment} (h : Silent m.1) {ms : List Moment} {n : Nat}
    {pin : String} :
    UnlocksFirst (m :: ms) n pin ↔ ∃ k, n = k + 1 ∧ UnlocksFirst ms k pin := by
  constructor
  · rintro ⟨⟨m', hm, hr⟩, hf⟩
    cases n with
    | zero =>
      obtain rfl : m = m' := Option.some.inj hm
      exact absurd hr (h pin)
    | succ k => exact ⟨k, rfl, ⟨m', hm, hr⟩, fun i hi => hf (i + 1) (by omega)⟩
  · rintro ⟨k, rfl, hu, hf⟩
    refine ⟨hu, fun i hi m' hm => ?_⟩
    cases i with
    | zero =>
      obtain rfl : m = m' := Option.some.inj hm
      exact h
    | succ i => exact hf i (by omega) m' hm

/-- Behind an unlocking there is no other first one. -/
theorem unlocksFirst_cons_unlocked {s : Session} {store : Store} {ms : List Moment} {n : Nat}
    {p pin : String} :
    UnlocksFirst ((.ok (.unlocked (some p)), s, store) :: ms) n pin ↔ n = 0 ∧ pin = p := by
  constructor
  · rintro ⟨⟨m, hm, hr⟩, hf⟩
    obtain rfl | hn := Nat.eq_zero_or_pos n
    · obtain rfl := Option.some.inj hm
      cases hr
      exact ⟨rfl, rfl⟩
    · exact absurd rfl (hf 0 hn _ rfl p)
  · rintro ⟨rfl, rfl⟩
    exact ⟨⟨_, rfl, rfl⟩, fun i hi => absurd hi (Nat.not_lt_zero i)⟩

theorem unlocksFirst_moments {s : Session} (hm : Missed s.guard.storedDigest a)
    (hb : s.guard.buffer = remainder a) (hc : Comparable s.guard.storedDigest)
    (presses : List (Time.Present × NumberKey)) (store : Store) (n : Nat) (pin : String) :
    UnlocksFirst (moments presses s store) n pin ↔
      ∃ j, OpensFirst s.guard.storedDigest (a ++ typedBy s.editor (presses.map (·.2))) j ∧
        pin = String.ofList (block (a ++ typedBy s.editor (presses.map (·.2))) j) ∧
        a.length + (typedBy s.editor ((presses.map (·.2)).take n)).length < 5 * j + 5 ∧
        5 * j + 5 ≤ a.length + (typedBy s.editor ((presses.map (·.2)).take (n + 1))).length := by
  induction presses generalizing s a n store with
  | nil =>
    refine iff_of_false not_unlocksFirst_nil ?_
    rintro ⟨j, -, -, hl, hg⟩
    simp only [List.map_nil, List.take_nil, typedBy] at hl hg
    omega
  | cons p presses ih =>
    obtain ⟨now, k⟩ := p
    simp only [moments, List.map_cons, List.take_succ_cons, typedBy]
    rw [← List.append_assoc]
    obtain ⟨j, hj, hp⟩ | ⟨hn, r, s', hp, hr, he, hg⟩ := press_cases hm hb hc now k store
    · -- The key unlocks: the five that it completes are the first, whatever is typed later.
      have hlt := hm.lt hj
      have hle := hj.complete
      rw [List.length_append] at hle
      rw [hp]
      dsimp only
      rw [unlocksFirst_cons_unlocked]
      constructor
      · rintro ⟨rfl, rfl⟩
        refine ⟨j, hj.append _, by rw [block_append hj.complete], ?_, ?_⟩
        · simpa [typedBy] using hlt
        · rw [List.length_append]
          omega
      · rintro ⟨i, hi, rfl, hl, -⟩
        obtain rfl := hi.unique (hj.append _)
        refine ⟨?_, by rw [block_append hj.complete]⟩
        by_contra hn
        obtain ⟨n, rfl⟩ := Nat.exists_eq_succ_of_ne_zero hn
        rw [Nat.succ_eq_add_one, List.take_succ_cons, typedBy, List.length_append] at hl
        omega
    · have hd : s'.guard.storedDigest = s.guard.storedDigest := by rw [hg]
      have hi := @ih (a ++ typed s.editor k) s' (by rwa [hd]) (by rw [hg]) (by rwa [hd]) store
      rw [hd, he] at hi
      rw [hp]
      dsimp only
      rw [unlocksFirst_cons hr]
      constructor
      · rintro ⟨n, rfl, hu⟩
        obtain ⟨j, hj, hq, hl, hg⟩ := (hi n).1 hu
        rw [List.length_append] at hl hg
        refine ⟨j, hj, hq, ?_, ?_⟩
        · rw [List.take_succ_cons, typedBy, List.length_append]
          omega
        · rw [List.length_append]
          omega
      · rintro ⟨j, hj, hq, hl, hg⟩
        have hlt := hn.lt hj
        rw [List.length_append] at hlt hg
        cases n with
        | zero =>
          simp only [List.take_zero, typedBy, List.length_nil] at hg
          omega
        | succ n =>
          rw [List.take_succ_cons, typedBy, List.length_append] at hl
          refine ⟨n, rfl, (hi n).2 ⟨j, hj, hq, ?_, ?_⟩⟩
          · rw [List.length_append]
            omega
          · rw [List.length_append]
            omega

/-- A digit that is brought is brought by some press. -/
theorem exists_supplies (e : Editor) (ks : List NumberKey) {i : Nat} (hi : 0 < i)
    (hl : i ≤ (typedBy e ks).length) : ∃ n, Supplies e ks n i := by
  have hx : ∃ n, i ≤ (typedBy e (ks.take n)).length := ⟨ks.length, by rwa [List.take_length]⟩
  have hz : Nat.find hx ≠ 0 := by
    intro h
    have hs := Nat.find_spec hx
    rw [h, List.take_zero, typedBy, List.length_nil] at hs
    omega
  obtain ⟨n, hn⟩ := Nat.exists_eq_succ_of_ne_zero hz
  refine ⟨n, Nat.lt_of_not_le (Nat.find_min hx (by omega)), ?_⟩
  have hs := Nat.find_spec hx
  rwa [hn] at hs

/-- The guard keeps its digest, and where it lets in, a new session is left. -/
theorem feed_keeps (ds : List Char) (s : Session) :
    (s.feed ds).2.guard.storedDigest = s.guard.storedDigest ∧
      ∀ pin, (s.feed ds).1 = .ok (.unlocked (some pin)) →
        (s.feed ds).2 = .ofDigest s.guard.storedDigest := by
  induction ds generalizing s with
  | nil => exact ⟨congrArg _ (guard_refresh s), fun pin h => by cases h⟩
  | cons d ds ih =>
    -- No outcome of a digit touches the digest.
    have hd : (s.guard.feed d).2.storedDigest = s.guard.storedDigest := by
      unfold Guard.feed
      dsimp only
      split
      · rfl
      · split <;> rfl
    unfold Session.feed
    split
    · next e g hf =>
      rw [hf] at hd
      exact ⟨hd, fun pin h => by cases h⟩
    · next pin g hf =>
      rw [hf] at hd
      exact ⟨hd, fun _ _ => congrArg Session.ofDigest hd⟩
    · next g hf =>
      rw [hf] at hd
      obtain ⟨hi, hu⟩ := ih (s.withGuard g)
      exact ⟨hi.trans hd, fun pin h => (hu pin h).trans (congrArg Session.ofDigest hd)⟩

theorem press_keeps (now : Time.Present) (k : NumberKey) (s : Session) (store : Store) :
    (s.press now k.key store).2.2 = store ∧
      (s.press now k.key store).2.1.guard.storedDigest = s.guard.storedDigest ∧
      ∀ pin, (s.press now k.key store).1 = .ok (.unlocked (some pin)) →
        (s.press now k.key store).2.1 = .ofDigest s.guard.storedDigest := by
  obtain ⟨-, -, e, hp⟩ | hp := press_number now k s store
  · rw [hp]
    exact ⟨rfl, rfl, fun pin h => by cases h⟩
  · rw [hp]
    exact ⟨rfl, feed_keeps _ _⟩

/-- A key press keeps the digest of the guard. -/
theorem Session.storedDigest_press (now : Time.Present) (key : Key) (s : Session) (store : Store) :
    (s.press now key store).2.1.guard.storedDigest = s.guard.storedDigest := by
  cases key with
  | digit text =>
    unfold Session.press Session.pressDigit
    dsimp only
    split
    · rfl
    · exact (feed_keeps _ _).1
  | doubleZero => exact (feed_keeps _ _).1
  | backspace =>
    unfold Session.press Session.pressBackspace
    dsimp only
    rw [guard_refresh]
    split <;> rfl
  | equals =>
    unfold Session.press Session.pressEquals
    dsimp only
    split
    · rfl
    · rfl
    · split
      · rfl
      · split <;> rfl
  | _ =>
    unfold Session.press Session.pressOther
    dsimp only
    split
    · rfl
    · rw [guard_refresh]
      rfl

/-- Digits are stored nowhere, and whenever they unlock, a new session is left. -/
theorem moments_keep {presses : List (Time.Present × NumberKey)} {s : Session} {store : Store}
    {m : Moment} (hm : m ∈ moments presses s store) :
    m.2.2 = store ∧ ∀ pin, m.1 = .ok (.unlocked (some pin)) →
      m.2.1 = .ofDigest s.guard.storedDigest := by
  induction presses generalizing s store with
  | nil => cases hm
  | cons p presses ih =>
    obtain ⟨hs, hd, hu⟩ := press_keeps p.1 p.2 s store
    obtain rfl | hm := List.mem_cons.1 hm
    · exact ⟨hs, hu⟩
    · have hi := ih hm
      rwa [hs, hd] at hi

/-- From an empty buffer on, typed digits unlock exactly if five of them that stand together,
counted off from the first, are the PIN. The first such five unlock with the press that brings the
last of them, and leave a new session behind; nothing is stored. -/
theorem unlocksFirst_iff_opensFirst {s : Session} (hb : s.guard.buffer = [])
    (hc : Comparable s.guard.storedDigest) (presses : List (Time.Present × NumberKey))
    (store : Store) :
    (∀ n pin, UnlocksFirst (moments presses s store) n pin ↔
      ∃ j, OpensFirst s.guard.storedDigest (typedBy s.editor (presses.map (·.2))) j ∧
        pin = String.ofList (block (typedBy s.editor (presses.map (·.2))) j) ∧
        Supplies s.editor (presses.map (·.2)) n (5 * j + 5)) ∧
    ((∃ n pin, UnlocksFirst (moments presses s store) n pin) ↔
      ∃ j, OpensFirst s.guard.storedDigest (typedBy s.editor (presses.map (·.2))) j) ∧
    ∀ m ∈ moments presses s store, m.2.2 = store ∧
      ∀ pin, m.1 = .ok (.unlocked (some pin)) → m.2.1 = .ofDigest s.guard.storedDigest := by
  have hf (n : Nat) (pin : String) := unlocksFirst_moments missed_nil hb hc presses store n pin
  simp only [List.nil_append, List.length_nil, Nat.zero_add] at hf
  refine ⟨hf, ⟨?_, ?_⟩, fun m => moments_keep⟩
  · rintro ⟨n, pin, hu⟩
    obtain ⟨j, hj, -⟩ := (hf n pin).1 hu
    exact ⟨j, hj⟩
  · rintro ⟨j, hj⟩
    obtain ⟨n, hn⟩ := exists_supplies s.editor (presses.map (·.2)) (Nat.succ_pos _) hj.complete
    exact ⟨n, _, (hf n _).2 ⟨j, hj, rfl, hn⟩⟩

/-- Two zeros, the second of which is left out, five digits that are not the PIN, and the PIN, whose
last digit is the first of a double zero. -/
def zeroedPresses : List (Time.Present × NumberKey) :=
  [.digit ['0'], .digit ['0'], .digit ['1'], .digit ['2'], .digit ['x'], .digit ['3'], .digit ['4'],
    .digit ['5'], .digit ['6'], .digit ['7'], .digit ['8'], .doubleZero].map (.ok "", ·)

theorem zeroedPresses_unlocksFirst :
    (Session.ofDigest (some (digest "56780"))).guard.buffer = [] ∧
      Comparable (Session.ofDigest (some (digest "56780"))).guard.storedDigest ∧
      UnlocksFirst (moments zeroedPresses (.ofDigest (some (digest "56780"))) .empty) 11
        "56780" := by
  refine ⟨rfl, comparable_digest _, ?_⟩
  have ht : typedBy (Session.ofDigest (some (digest "56780"))).editor (zeroedPresses.map (·.2)) =
      ['0', '1', '2', '3', '4', '5', '6', '7', '8', '0', '0'] := by rfl
  refine ((unlocksFirst_iff_opensFirst rfl (comparable_digest _) zeroedPresses .empty).1 11 _).2
    ⟨1, ?_, ?_, ?_⟩
  · rw [ht]
    refine ⟨by decide, ?_, ?_⟩
    · show verify (some "56780") (some (digest "56780")) = .ok true
      simp [verify_digest]
    · intro i hi
      obtain rfl : i = 0 := by omega
      show ¬ verify (some "01234") (some (digest "56780")) = .ok true
      decide +kernel
  · rw [ht]
    rfl
  · exact ⟨by decide, by decide⟩

end CovertVault.Calculator
