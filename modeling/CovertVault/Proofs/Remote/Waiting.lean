import CovertVault.Proofs.Remote.Grants
import CovertVault.Remote.ManualClock
import Mathlib.Algebra.Order.Archimedean.Basic
import Mathlib.Order.Bounds.Basic

namespace CovertVault.Remote

/-- Sleeping moves the clock by the time slept. -/
def Clock.Moves {ω : Type} (c : Clock ω ℚ) : Prop := ∀ t w, c.now (c.sleep t w) = c.now w + t

/-- Sleeping does not move the clock. -/
def Clock.Stands {ω : Type} (c : Clock ω ℚ) : Prop := ∀ t w, c.now (c.sleep t w) = c.now w

/-- What naps make of the surroundings, the first nap first. -/
def Clock.sleeps {ω T : Type} (c : Clock ω T) (naps : List T) (w : ω) : ω :=
  naps.foldl (fun w t => c.sleep t w) w

namespace Limiter
open TimeScale

/-- The spans from now on after which fewer grants than allowed are younger than the window. -/
def openings (maxCalls : ℕ) (window : ℚ) (grants : List ℚ) (now : ℚ) : Set ℚ :=
  {d | 0 ≤ d ∧ (grants.filter (now + d - window < ·)).length < maxCalls}

variable {l : Limiter ℚ} {grants : List ℚ} {last now d : ℚ}

theorem Tracks.expire_expire (h : l.Tracks grants last) (hn : last ≤ now) {later : ℚ}
    (hl : now ≤ later) : (l.expire now).expire later = l.expire later := by
  have hstamps : ((l.expire now).expire later).stamps = (l.expire later).stamps :=
    ((h.expire hn).expire hl).young.trans (h.expire (hn.trans hl)).young.symm
  unfold Limiter.expire at hstamps ⊢
  exact congrArg (Limiter.mk l.maxCalls l.window) hstamps

/-- The delay that the limiter reckons is the time until a slot frees. -/
theorem Tracks.isLeast_delay (h : l.Tracks grants now) :
    IsLeast (openings l.maxCalls l.window grants now) (l.delay now) := by
  obtain hf | hf := Nat.lt_or_ge l.stamps.length l.maxCalls
  · rw [delay_free hf]
    exact ⟨⟨le_rfl, by rwa [add_zero, ← h.young]⟩, fun _ hd => hd.1⟩
  · obtain ⟨s, rest, hs, hnow, hd⟩ := h.delay_full hf
    have hyoung : grants.filter (now - l.window < ·) = s :: rest := h.young.symm.trans hs
    have hsorted : (s :: rest).Pairwise (· ≤ ·) := hyoung ▸ h.sorted.filter _
    -- Later on, what is left of the young grants is what is younger still.
    have hlater {t : ℚ} (ht : 0 ≤ t) : grants.filter (now + t - l.window < ·) =
        (s :: rest).filter (now + t - l.window < ·) := by
      rw [← hyoung, List.filter_filter]
      refine List.filter_congr fun g _ => ?_
      rw [← Bool.decide_and]
      refine decide_eq_decide.2 ⟨fun hg => ⟨hg, ?_⟩, And.left⟩
      linarith
    have hpos : 0 ≤ s + l.window - now := (sub_pos.2 hnow).le
    rw [hd]
    refine ⟨⟨hpos, ?_⟩, fun t ht => ?_⟩
    · rw [hlater hpos, List.filter_cons_of_neg (by simp)]
      have hle := h.length_stamps
      rw [hs, List.length_cons] at hle
      exact (List.length_filter_le _ _).trans_lt hle
    · by_contra! hlt
      have hall : (s :: rest).filter (now + t - l.window < ·) = s :: rest := by
        refine List.filter_eq_self.2 fun g hg => decide_eq_true ?_
        have hsg : s ≤ g := by
          obtain rfl | hg := List.mem_cons.1 hg
          · exact le_rfl
          · exact List.rel_of_pairwise_cons hsorted hg
        linarith
      have hfew := ht.2
      rw [hlater ht.1, hall, ← hs] at hfew
      exact absurd hf (not_le.2 hfew)

/-- As time goes by, the time that is left grows shorter. -/
theorem isLeast_openings_add {maxCalls : ℕ} {window t : ℚ}
    (hd : IsLeast (openings maxCalls window grants now) d) (ht : 0 ≤ t) (htd : t ≤ d) :
    IsLeast (openings maxCalls window grants (now + t)) (d - t) := by
  have he (x : ℚ) : now + t + x = now + (t + x) := add_assoc _ _ _
  refine ⟨⟨sub_nonneg.2 htd, ?_⟩, fun x hx => ?_⟩
  · rw [he, add_sub_cancel]
    exact hd.1.2
  · have hle := hd.2 ⟨add_nonneg ht hx.1, he x ▸ hx.2⟩
    linarith

/-- The delay at a reading of the clock is the time until a slot frees. -/
theorem Tracks.delay_eq (h : l.Tracks grants last) (hn : last ≤ now)
    (hd : IsLeast (openings l.maxCalls l.window grants now) d) : (l.expire now).delay now = d :=
  (h.expire hn).isLeast_delay.unique hd

section Turn
variable {ω : Type} {c : Clock ω ℚ} {timeout waited : ℚ} {w : ω}

theorem acquire_free (hd : (l.expire (c.now w)).delay (c.now w) = 0) (timeout : Option ℚ)
    (naps : ℕ) (waited : ℚ) : acquire c timeout naps waited l w =
      (.granted, (l.expire (c.now w)).grant (c.now w), w) := by
  rw [acquire.eq_def]
  dsimp only
  rw [hd, lt_eq_decide, zero_eq]
  rfl

theorem acquire_refused (hd : (l.expire (c.now w)).delay (c.now w) = d) (hpos : 0 < d)
    (ht : timeout < waited + d) (naps : ℕ) :
    acquire c (some timeout) naps waited l w = (.refused, l.expire (c.now w), w) := by
  rw [acquire.eq_def]
  dsimp only
  rw [hd, lt_eq_decide, zero_eq, decide_eq_true hpos, Bool.not_true, if_neg Bool.false_ne_true,
    Option.any_some, lt_eq_decide, if_pos (decide_eq_true ht)]

theorem acquire_nap (hd : (l.expire (c.now w)).delay (c.now w) = d) (hpos : 0 < d)
    (ht : waited + d ≤ timeout) (naps : ℕ) : acquire c (some timeout) (naps + 1) waited l w =
      acquire c (some timeout) naps (waited + min d 1) (l.expire (c.now w))
        (c.sleep (min d 1) w) := by
  have hm : minimum d (ofMillis 1000) = min d 1 := by
    have h1 : (ofMillis 1000 : ℚ) = 1 := by
      rw [ofMillis_eq]
      norm_num
    unfold minimum
    rw [h1, lt_eq_decide]
    by_cases hlt : 1 < d
    · rw [if_pos (decide_eq_true hlt), min_eq_right hlt.le]
    · rw [if_neg (by simpa using hlt), min_eq_left (not_lt.1 hlt)]
  rw [acquire.eq_def]
  dsimp only
  rw [hd, lt_eq_decide, zero_eq, decide_eq_true hpos, Bool.not_true, if_neg Bool.false_ne_true,
    Option.any_some, lt_eq_decide, if_neg (by simpa using ht), hm]

end Turn

section Wait
variable {ω : Type} {c : Clock ω ℚ}

/-- A wait within its timeout lasts as long as it has to, in naps of at most a second. -/
theorem acquire_moving (hc : c.Moves) {timeout waited : ℚ} {w : ω} (h : l.Tracks grants last)
    (hn : last ≤ c.now w) (hd : IsLeast (openings l.maxCalls l.window grants (c.now w)) d)
    (ht : waited + d ≤ timeout) :
    ∃ slept : List ℚ, slept.sum = d ∧ (∀ t ∈ slept, 0 < t ∧ t ≤ 1) ∧
      ∀ naps, slept.length ≤ naps → acquire c (some timeout) naps waited l w =
        (.granted, (l.expire (c.now w + d)).grant (c.now w + d), c.sleeps slept w) := by
  obtain ⟨n, hdn⟩ := exists_nat_ge d
  -- A nap takes a second off the time that is left, or all of it.
  induction n generalizing l last waited w d with
  | zero =>
    obtain rfl : d = 0 := le_antisymm (by simpa using hdn) hd.1.1
    refine ⟨[], rfl, by simp, fun naps _ => ?_⟩
    rw [acquire_free (h.delay_eq hn hd), add_zero]
    rfl
  | succ n ih =>
    obtain hz | hpos := hd.1.1.eq_or_lt
    · obtain rfl := hz
      refine ⟨[], rfl, by simp, fun naps _ => ?_⟩
      rw [acquire_free (h.delay_eq hn hd), add_zero]
      rfl
    · have hnap : 0 < min d 1 := lt_min hpos one_pos
      have hleft := isLeast_openings_add hd hnap.le (min_le_left d 1)
      rw [← hc] at hleft
      have hforward : c.now w ≤ c.now (c.sleep (min d 1) w) := by
        rw [hc]
        linarith
      have hshort : d - min d 1 ≤ n := by
        push_cast at hdn
        obtain hle | hle := le_total d 1
        · rw [min_eq_left hle, sub_self]
          exact n.cast_nonneg
        · rw [min_eq_right hle]
          linarith
      have hwait : waited + min d 1 + (d - min d 1) ≤ timeout := by linarith
      obtain ⟨slept, hsum, hslept, ha⟩ := ih (h.expire hn) hforward hleft hwait hshort
      refine ⟨min d 1 :: slept, ?_, ?_, fun naps hnaps => ?_⟩
      · rw [List.sum_cons, hsum, add_sub_cancel]
      · rintro t (_ | ⟨_, ht⟩)
        · exact ⟨hnap, min_le_right _ _⟩
        · exact hslept t ht
      · obtain ⟨naps, rfl⟩ := Nat.exists_eq_add_of_le' (Nat.one_le_of_lt hnaps)
        have hend : c.now (c.sleep (min d 1) w) + (d - min d 1) = c.now w + d := by
          rw [hc]
          ring
        rw [acquire_nap (h.delay_eq hn hd) hpos ht, ha naps (Nat.le_of_succ_le_succ hnaps), hend,
          h.expire_expire hn (by linarith)]
        rfl

/-- Where the clock stands still, a wait for a slot that is not free is given up after naps within
its timeout. -/
theorem acquire_standing (hc : c.Stands) {timeout waited : ℚ} {w : ω} (h : l.Tracks grants last)
    (hn : last ≤ c.now w) (hd : IsLeast (openings l.maxCalls l.window grants (c.now w)) d)
    (hpos : 0 < d) (ht : waited ≤ timeout) :
    ∃ slept : List ℚ, waited + slept.sum ≤ timeout ∧
      ∀ naps, slept.length ≤ naps → acquire c (some timeout) naps waited l w =
        (.refused, l.expire (c.now w), c.sleeps slept w) := by
  have hnap : 0 < min d 1 := lt_min hpos one_pos
  obtain ⟨n, hdn⟩ := Archimedean.arch (timeout - waited) hnap
  -- All naps are equally long, so there is time for so many only.
  induction n generalizing l last waited w with
  | zero =>
    rw [zero_nsmul] at hdn
    refine ⟨[], by simpa using ht, fun naps _ => ?_⟩
    exact acquire_refused (h.delay_eq hn hd) hpos (by linarith) naps
  | succ n ih =>
    obtain hlt | hle := lt_or_ge timeout (waited + d)
    · refine ⟨[], by simpa using ht, fun naps _ => ?_⟩
      exact acquire_refused (h.delay_eq hn hd) hpos hlt naps
    · have hstill : c.now (c.sleep (min d 1) w) = c.now w := hc _ _
      have hforward : c.now w ≤ c.now (c.sleep (min d 1) w) := hstill.ge
      have hleft := hd
      rw [← hstill] at hleft
      have hwaited : waited + min d 1 ≤ timeout := by linarith [min_le_left d 1]
      rw [succ_nsmul] at hdn
      obtain ⟨slept, hsum, ha⟩ := ih (h.expire hn) hforward hleft hwaited (by linarith)
      refine ⟨min d 1 :: slept, ?_, fun naps hnaps => ?_⟩
      · rw [List.sum_cons]
        linarith
      · obtain ⟨naps, rfl⟩ := Nat.exists_eq_add_of_le' (Nat.one_le_of_lt hnaps)
        rw [acquire_nap (h.delay_eq hn hd) hpos hle, ha naps (Nat.le_of_succ_le_succ hnaps), hstill,
          h.expire_expire hn le_rfl]
        rfl

end Wait

/-- What is asked of a wait that begins at a moment, a while before a slot frees. As many naps as it
takes are as good as any more. -/
structure Waits (l : Limiter ℚ) (now delay timeout : ℚ) : Prop where
  refuses : timeout < delay → ∀ {ω : Type} (c : Clock ω ℚ) (w : ω), c.now w = now → ∀ naps,
    acquire c (some timeout) naps zero l w = (.refused, l.expire now, w)
  takes : delay ≤ timeout → ∀ {ω : Type} (c : Clock ω ℚ) (w : ω), c.Moves → c.now w = now →
    ∃ slept : List ℚ, slept.sum = delay ∧ (∀ t ∈ slept, 0 < t ∧ t ≤ 1) ∧
      ∀ naps, slept.length ≤ naps → acquire c (some timeout) naps zero l w =
        (.granted, (l.expire (now + delay)).grant (now + delay), c.sleeps slept w)
  ends : ∀ {ω : Type} (c : Clock ω ℚ) (w : ω), c.Stands → c.now w = now →
    ∃ slept : List ℚ, slept.sum ≤ timeout ∧ (delay = 0 → slept = []) ∧
      ∀ naps, slept.length ≤ naps → acquire c (some timeout) naps zero l w =
        if delay = 0 then (.granted, (l.expire now).grant now, w)
        else (.refused, l.expire now, c.sleeps slept w)

theorem Tracks.waits (h : l.Tracks grants last) (hn : last ≤ now)
    (hd : IsLeast (openings l.maxCalls l.window grants now) d) {timeout : ℚ} (ht : 0 ≤ timeout) :
    l.Waits now d timeout where
  refuses hlt ω c w hw naps := by
    subst hw
    exact acquire_refused (h.delay_eq hn hd) (ht.trans_lt hlt) (by rwa [zero_eq, zero_add]) naps
  takes hle ω c w hc hw := by
    subst hw
    exact acquire_moving hc h hn hd (by rwa [zero_eq, zero_add])
  ends c w hc hw := by
    subst hw
    obtain rfl | hpos := hd.1.1.eq_or_lt
    · exact ⟨[], by simpa using ht, fun _ => rfl, fun naps _ =>
        acquire_free (h.delay_eq hn hd) _ _ _⟩
    · obtain ⟨slept, hsum, ha⟩ := acquire_standing hc h hn hd hpos (zero_eq.trans_le ht)
      rw [zero_eq, zero_add] at hsum
      exact ⟨slept, hsum, fun h0 => absurd h0 hpos.ne', fun naps hle => by
        rw [if_neg hpos.ne', ha naps hle]⟩

/-- After any calls there is a time until a slot frees: the least after which fewer grants than
allowed are younger than the window. A wait that may not take so long is refused at once and takes
no slot. Any other, with a clock that moves by what is slept, sleeps just so long, in naps of at
most a second, and takes a slot then. With a clock that stands still a wait ends as well, and sleeps
no longer than its timeout. -/
theorem waits_run {maxCalls : ℕ} (hm : 0 < maxCalls) {window : ℚ} (hw : 0 < window)
    {readings : ℕ → ℚ} (hr : Monotone readings) (calls : List Call) :
    ∃ l, Limiter.make maxCalls window = .ok l ∧
      ∀ now, (∀ e ∈ (Course.run readings calls l).ended.getLast?, e.time ≤ now) →
        ∃ delay, IsLeast (openings maxCalls window (Course.run readings calls l).grants now) delay ∧
          ∀ timeout, 0 ≤ timeout →
            (Course.run readings calls l).limiter.Waits now delay timeout := by
  have hmake := make_of_pos hm hw
  have ht (last : ℚ) := (tracks_of_make hmake last).2.2
  have hexact : Course.Exact readings maxCalls window (Course.run readings calls _) :=
    Course.exact_run hr hw rfl rfl ht calls
  refine ⟨_, hmake, fun now hnow => ?_⟩
  -- Of the course only what the limiter knows of it is needed.
  generalize Course.run readings calls _ = s at hexact hnow
  obtain ⟨last, hlast, hs⟩ := hexact.tracks_of_le hnow
  have hd := (hs.expire hlast).isLeast_delay
  refine ⟨_, ?_, fun timeout h0 => hs.waits hlast hd h0⟩
  rw [← hexact.maxCalls_eq, ← hexact.window_eq]
  exact hd

/-- A clock that is read every half second. -/
def halfSeconds (n : ℕ) : ℚ := n / 2

/-- A slot is taken, and half a second later another is waited for. There is one in nine quarters
of a second. -/
theorem waits_after_attempt :
    0 < 1 ∧ (0 : ℚ) < 9 / 4 ∧ Monotone halfSeconds ∧
      ∃ l, Limiter.make (1 : ℕ) (9 / 4 : ℚ) = .ok l ∧
        (∀ e ∈ (Course.run halfSeconds [.attempt] l).ended.getLast?, e.time ≤ 1 / 2) ∧
        (0 : ℚ) ≤ 2 ∧
        (Course.run halfSeconds [.attempt] l).limiter.Waits (1 / 2) (7 / 4) 2 ∧
        acquire ManualClock.clock (some 2) 10 zero
            (Course.run halfSeconds [.attempt] l).limiter ⟨1 / 2, false, []⟩ =
          (.granted, ⟨1, 9 / 4, [9 / 4]⟩, ⟨9 / 4, false, [3 / 4, 1]⟩) := by
  have hr : Monotone halfSeconds := fun m n h => by
    have hq : (m : ℚ) ≤ n := by exact_mod_cast h
    unfold halfSeconds
    linarith
  obtain ⟨l, hl, hwaits⟩ :=
    waits_run (by decide : 0 < 1) (by norm_num : (0 : ℚ) < 9 / 4) hr [.attempt]
  have hmade := hl
  rw [make_of_pos (by decide) (by norm_num)] at hmade
  cases hmade
  have hnow : ∀ e ∈ (Course.run halfSeconds [.attempt] ⟨1, 9 / 4, []⟩).ended.getLast?,
      e.time ≤ 1 / 2 := by decide +kernel
  obtain ⟨delay, hd, hw⟩ := hwaits (1 / 2) hnow
  have hgrants : (Course.run halfSeconds [.attempt] ⟨1, 9 / 4, []⟩).grants = [0] := by
    decide +kernel
  have hdelay : IsLeast (openings 1 (9 / 4) [0] (1 / 2)) (7 / 4 : ℚ) := by
    refine ⟨⟨by norm_num, by decide +kernel⟩, fun t ht => ?_⟩
    by_contra! hlt
    have hold : (1 / 2 + t - 9 / 4 : ℚ) < 0 := by linarith
    have hfew := ht.2
    rw [List.filter_cons_of_pos (by simpa using hold)] at hfew
    exact absurd hfew (by simp)
  rw [hgrants] at hd
  obtain rfl := hd.unique hdelay
  exact ⟨by decide, by norm_num, hr, _, hl, hnow, by norm_num, hw 2 (by norm_num),
    by decide +kernel⟩

end Limiter

end CovertVault.Remote
