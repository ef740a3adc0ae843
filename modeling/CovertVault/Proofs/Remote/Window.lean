import CovertVault.Remote.Limiter
import Mathlib.Algebra.Order.Field.Rat
import Mathlib.Data.List.Basic
import Mathlib.Tactic.Linarith
import Mathlib.Tactic.NormNum

namespace CovertVault.Remote

namespace TimeScale

theorem lt_eq_decide (a b : ℚ) : lt a b = decide (a < b) := rfl

theorem le_eq_decide (a b : ℚ) : le a b = decide (a ≤ b) := rfl

theorem ofMillis_eq (ms : Int) : (ofMillis ms : ℚ) = ms / 1000 := rfl

theorem zero_eq : (zero : ℚ) = 0 := by
  rw [zero, ofMillis_eq]
  norm_num

end TimeScale

open TimeScale

/-- Times within a stretch, its ends included. -/
def within (a b : ℚ) (times : List ℚ) : List ℚ := times.filter fun t => a ≤ t ∧ t ≤ b

theorem within_append (a b : ℚ) (times later : List ℚ) :
    within a b (times ++ later) = within a b times ++ within a b later := List.filter_append _ _

namespace Limiter

/-- A limiter that granted slots at these times, oldest first, and whose clock was read last at the
given time. -/
structure Tracks (l : Limiter ℚ) (grants : List ℚ) (last : ℚ) : Prop where
  calls : 0 < l.maxCalls
  sorted : grants.Pairwise (· ≤ ·)
  past : ∀ t ∈ grants, t ≤ last
  young : l.stamps = grants.filter (last - l.window < ·)
  crowd : ∀ a b, b < a + l.window → (within a b grants).length ≤ l.maxCalls

theorem tracks_of_make {maxCalls : Int} {window : ℚ} {l : Limiter ℚ}
    (h : Limiter.make maxCalls window = .ok l) (last : ℚ) :
    l.maxCalls = maxCalls.toNat ∧ l.window = window ∧ l.Tracks [] last := by
  unfold Limiter.make at h
  split at h
  · cases h
  · next hn =>
    split at h
    · cases h
    · cases h
      exact ⟨rfl, rfl, by simpa using hn, .nil, by simp, rfl, fun _ _ _ => Nat.zero_le _⟩

theorem dropWhile_le_of_sorted {times : List ℚ} (h : times.Pairwise (· ≤ ·)) (cut : ℚ) :
    times.dropWhile (fun t => le t cut) = times.filter (cut < ·) := by
  induction times with
  | nil => rfl
  | cons t times ih =>
    obtain ⟨ht, hs⟩ := List.pairwise_cons.1 h
    by_cases hc : t ≤ cut
    · rw [List.dropWhile_cons_of_pos (by simpa [le_eq_decide] using hc),
        List.filter_cons_of_neg (by simpa using hc)]
      exact ih hs
    · have hall : ∀ s ∈ t :: times, decide (cut < s) = true := by
        intro s hs
        refine decide_eq_true ((not_le.1 hc).trans_le ?_)
        obtain rfl | hs := List.mem_cons.1 hs
        · exact le_rfl
        · exact ht s hs
      rw [List.dropWhile_cons_of_neg (by simpa [le_eq_decide] using hc), List.filter_eq_self.2 hall]

variable {l : Limiter ℚ} {grants : List ℚ} {last now : ℚ}

/-- Reading the clock again drops the grants that have grown old since. -/
theorem Tracks.expire (h : l.Tracks grants last) (hn : last ≤ now) :
    (l.expire now).Tracks grants now where
  calls := h.calls
  sorted := h.sorted
  past t ht := (h.past t ht).trans hn
  young := by
    change l.stamps.dropWhile (fun s => le s (now - l.window)) = grants.filter (now - l.window < ·)
    have hsorted : l.stamps.Pairwise (· ≤ ·) := by
      rw [h.young]
      exact h.sorted.filter _
    rw [dropWhile_le_of_sorted hsorted, h.young, List.filter_filter]
    refine List.filter_congr fun t _ => ?_
    rw [← Bool.decide_and]
    refine decide_eq_decide.2 ⟨And.left, fun ht => ⟨ht, ?_⟩⟩
    linarith
  crowd := h.crowd

theorem delay_free (hf : l.stamps.length < l.maxCalls) (now : ℚ) : l.delay now = 0 := by
  unfold Limiter.delay
  rw [if_pos hf, zero_eq]

/-- While no slot is free, the next one frees when the oldest grant that is young grows old. -/
theorem Tracks.delay_full (h : l.Tracks grants now) (hf : l.maxCalls ≤ l.stamps.length) :
    ∃ s rest, l.stamps = s :: rest ∧ now < s + l.window ∧
      l.delay now = s + l.window - now := by
  cases hs : l.stamps with
  | nil =>
    rw [hs] at hf
    exact absurd h.calls (not_lt.2 hf)
  | cons s rest =>
    have hyoung : now < s + l.window := by
      have hmem : s ∈ l.stamps := hs ▸ List.mem_cons_self
      rw [h.young] at hmem
      have := of_decide_eq_true (List.mem_filter.1 hmem).2
      linarith
    refine ⟨s, rest, rfl, hyoung, ?_⟩
    unfold Limiter.delay
    rw [if_neg (not_lt.2 hf), hs]
    change maximum zero (s + l.window - now) = _
    unfold maximum
    rw [zero_eq, lt_eq_decide, if_pos (decide_eq_true (sub_pos.2 hyoung))]

/-- A slot is free exactly while fewer grants than allowed are younger than the window. -/
theorem Tracks.delay_pos_iff (h : l.Tracks grants now) :
    lt zero (l.delay now) = true ↔ l.maxCalls ≤ l.stamps.length := by
  rw [lt_eq_decide, decide_eq_true_iff, zero_eq]
  obtain hf | hf := Nat.lt_or_ge l.stamps.length l.maxCalls
  · rw [delay_free hf]
    exact ⟨fun h0 => absurd h0 (lt_irrefl _), fun hle => absurd hf (not_lt.2 hle)⟩
  · obtain ⟨s, rest, -, hyoung, hd⟩ := h.delay_full hf
    rw [hd]
    exact ⟨fun _ => hf, fun _ => sub_pos.2 hyoung⟩

theorem Tracks.grant (h : l.Tracks grants now) (hf : l.stamps.length < l.maxCalls)
    (hw : 0 < l.window) : (l.grant now).Tracks (grants ++ [now]) now where
  calls := h.calls
  sorted := by
    refine List.pairwise_append.2 ⟨h.sorted, List.pairwise_singleton _ _, fun t ht s hs => ?_⟩
    rw [List.mem_singleton.1 hs]
    exact h.past t ht
  past t ht := by
    obtain ht | ht := List.mem_append.1 ht
    · exact h.past t ht
    · exact (List.mem_singleton.1 ht).le
  young := by
    change l.stamps ++ [now] = (grants ++ [now]).filter (now - l.window < ·)
    rw [List.filter_append, ← h.young, List.filter_cons_of_pos (by simpa using hw), List.filter_nil]
  crowd a b hab := by
    change (within a b (grants ++ [now])).length ≤ l.maxCalls
    have hab' : b < a + l.window := hab
    rw [within_append, List.length_append]
    by_cases hin : a ≤ now ∧ now ≤ b
    · -- Every other grant of the stretch is still young now, and of those there are too few.
      have hsub : (within a b grants).length ≤ l.stamps.length := by
        rw [h.young]
        refine (List.monotone_filter_right grants fun t ht => ?_).length_le
        have ht' := of_decide_eq_true ht
        exact decide_eq_true (by linarith [ht'.1, hin.2])
      have hone : (within a b [now]).length ≤ 1 := List.length_filter_le _ _
      omega
    · have hnone : within a b [now] = [] := by simpa [within] using hin
      rw [hnone]
      exact h.crowd a b hab'

section Waiting
variable {ω T : Type} [TimeScale T]

/-- A wait is over at once, with a slot or without one, or it goes on after a nap. -/
theorem acquire_cases (c : Clock ω T) (timeout : Option T) (naps : Nat) (waited : T)
    (l : Limiter T) (w : ω) :
    (lt zero ((l.expire (c.now w)).delay (c.now w)) = false ∧
      acquire c timeout naps waited l w =
        (.granted, (l.expire (c.now w)).grant (c.now w), w)) ∨
    (∃ got, got ≠ .granted ∧ acquire c timeout naps waited l w = (got, l.expire (c.now w), w)) ∨
    ∃ naps' nap, naps = naps' + 1 ∧ lt zero ((l.expire (c.now w)).delay (c.now w)) = true ∧
      nap = minimum ((l.expire (c.now w)).delay (c.now w)) (ofMillis 1000) ∧
      acquire c timeout naps waited l w =
        acquire c timeout naps' (waited + nap) (l.expire (c.now w)) (c.sleep nap w) := by
  rw [acquire.eq_def]
  dsimp only
  cases hd : lt zero ((l.expire (c.now w)).delay (c.now w)) with
  | false => exact .inl ⟨rfl, rfl⟩
  | true =>
    refine .inr ?_
    rw [Bool.not_true, if_neg Bool.false_ne_true]
    split
    · exact .inl ⟨.refused, by simp, rfl⟩
    · cases naps with
      | zero => exact .inl ⟨.tired, by simp, rfl⟩
      | succ naps => exact .inr ⟨naps, _, rfl, rfl, rfl, rfl⟩

/-- Waiting changes nothing of a limiter but its stamps. -/
theorem acquire_limits (c : Clock ω T) (timeout : Option T) (naps : Nat) (waited : T)
    (l : Limiter T) (w : ω) :
    (acquire c timeout naps waited l w).2.1.maxCalls = l.maxCalls ∧
      (acquire c timeout naps waited l w).2.1.window = l.window := by
  induction naps using Nat.strongRecOn generalizing waited l w with
  | ind naps ih =>
    obtain ⟨-, h⟩ | ⟨got, -, h⟩ | ⟨naps', nap, rfl, -, -, h⟩ :=
      acquire_cases c timeout naps waited l w
    · rw [h]
      exact ⟨rfl, rfl⟩
    · rw [h]
      exact ⟨rfl, rfl⟩
    · rw [h]
      exact ih naps' (Nat.lt_succ_self _) _ _ _

end Waiting

variable {ω : Type} {c : Clock ω ℚ}

/-- What was granted once a wait is over: if it was for a slot, one at the present. -/
def granted (grants : List ℚ) (now : ℚ) (got : Acquired) : List ℚ :=
  if got = .granted then grants ++ [now] else grants

theorem nap_pos {nap : ℚ} (hd : lt zero (l.delay now) = true)
    (hn : nap = minimum (l.delay now) (ofMillis 1000)) : 0 < nap := by
  rw [lt_eq_decide, zero_eq] at hd
  rw [hn]
  unfold minimum
  split
  · rw [ofMillis_eq]
    norm_num
  · exact of_decide_eq_true hd

/-- A wait during which the clock does not run back. -/
theorem acquire_tracks (hc : ∀ t w, 0 ≤ t → c.now w ≤ c.now (c.sleep t w)) (timeout : Option ℚ)
    (naps : Nat) (waited : ℚ) {w : ω} (h : l.Tracks grants last) (hl : last ≤ c.now w)
    (hw : 0 < l.window) :
    (acquire c timeout naps waited l w).2.1.Tracks
        (granted grants (c.now (acquire c timeout naps waited l w).2.2)
          (acquire c timeout naps waited l w).1)
        (c.now (acquire c timeout naps waited l w).2.2) ∧
      c.now w ≤ c.now (acquire c timeout naps waited l w).2.2 := by
  induction naps using Nat.strongRecOn generalizing waited l last w with
  | ind naps ih =>
    have he := h.expire hl
    -- A slot is free and is taken, or the wait is given up, or a nap comes before the next look.
    obtain ⟨hfree, ha⟩ | ⟨got, hgot, ha⟩ | ⟨naps', nap, rfl, hd, hnap, ha⟩ :=
      acquire_cases c timeout naps waited l w
    · rw [ha]
      have hf := not_le.1 (mt he.delay_pos_iff.2 (by rw [hfree]; exact Bool.false_ne_true))
      exact ⟨he.grant hf hw, le_rfl⟩
    · rw [ha]
      unfold granted
      rw [if_neg hgot]
      exact ⟨he, le_rfl⟩
    · rw [ha]
      have hle := hc nap w (nap_pos hd hnap).le
      obtain ⟨ht, hlast⟩ := ih naps' (Nat.lt_succ_self _) (waited + nap) he hle hw
      exact ⟨ht, hle.trans hlast⟩

end Limiter

end CovertVault.Remote
