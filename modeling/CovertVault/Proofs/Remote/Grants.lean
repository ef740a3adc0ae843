import CovertVault.Proofs.Remote.Window
import Mathlib.Data.List.Sort

namespace CovertVault.Remote.Limiter
open TimeScale

/-- A call for a slot. -/
inductive Call where
  /-- Takes a slot if one is free. -/
  | attempt
  /-- Waits for one. A wait between whose naps others call counts as one call for each part of it,
  the later ones with the time waited so far. -/
  | wait (timeout : Option ℚ) (naps : Nat) (waited : ℚ)

/-- How a call ended: the last reading of the clock, and whether there was a slot. -/
structure Ended where
  time : ℚ
  slot : Bool
deriving Repr, DecidableEq

/-- A clock with given readings. Its state is the number of the next one. -/
def scripted (readings : ℕ → ℚ) : Clock ℕ ℚ := ⟨readings, fun _ n => n + 1⟩

/-- A limiter, and the number of the next reading, after the calls that have ended, oldest first. -/
structure Course where
  ended : List Ended
  limiter : Limiter ℚ
  next : ℕ

namespace Course

/-- The times of the slots that were granted. -/
def grants (s : Course) : List ℚ := (s.ended.filter (·.slot)).map (·.time)

def call (readings : ℕ → ℚ) (s : Course) : Call → Course
  | .attempt =>
    let (slot, l) := s.limiter.tryAcquire (readings s.next)
    ⟨s.ended ++ [⟨readings s.next, slot⟩], l, s.next + 1⟩
  | .wait timeout naps waited =>
    let (got, l, n) := acquire (scripted readings) timeout naps waited s.limiter s.next
    ⟨s.ended ++ [⟨readings n, decide (got = .granted)⟩], l, n + 1⟩

def run (readings : ℕ → ℚ) (calls : List Call) (l : Limiter ℚ) : Course :=
  calls.foldl (call readings) ⟨[], l, 0⟩

theorem grants_snoc (s : Course) (e : Ended) (l : Limiter ℚ) (n : ℕ) :
    (⟨s.ended ++ [e], l, n⟩ : Course).grants = s.grants ++ if e.slot then [e.time] else [] := by
  unfold grants
  rw [List.filter_append, List.map_append]
  cases he : e.slot <;> simp [he]

end Course

variable {l : Limiter ℚ} {grants : List ℚ} {last now : ℚ}

/-- What is still young lies within a stretch shorter than the window, so there is not much of
it. -/
theorem Tracks.length_stamps (h : l.Tracks grants last) : l.stamps.length ≤ l.maxCalls := by
  cases hs : l.stamps with
  | nil => exact Nat.zero_le _
  | cons s rest =>
    have hyoung : grants.filter (last - l.window < ·) = s :: rest := h.young.symm.trans hs
    have hsorted : (s :: rest).Pairwise (· ≤ ·) := hyoung ▸ h.sorted.filter _
    have hfirst : last < s + l.window := by
      have hmem : s ∈ grants.filter (last - l.window < ·) := hyoung ▸ List.mem_cons_self
      have := of_decide_eq_true (List.mem_filter.1 hmem).2
      linarith
    have hsub : (s :: rest).Sublist (within s last grants) := by
      have hin : within s last (s :: rest) = s :: rest := by
        refine List.filter_eq_self.2 fun t ht => decide_eq_true ⟨?_, ?_⟩
        · obtain rfl | ht := List.mem_cons.1 ht
          · exact le_rfl
          · exact List.rel_of_pairwise_cons hsorted ht
        · exact h.past t (List.mem_filter.1 (hyoung ▸ ht)).1
      rw [← hin, ← hyoung]
      exact List.filter_sublist.filter _
    exact hsub.length_le.trans (h.crowd s last hfirst)

theorem length_within_of_sorted {times : List ℚ} (h : times.SortedLE) {i j : ℕ}
    (hj : i + j < times.length) : j < (within times[i] times[i + j] times).length := by
  let stretch := (times.drop i).take (j + 1)
  have hlength : stretch.length = j + 1 := by
    simp only [stretch, List.length_take, List.length_drop]
    omega
  have hin : within times[i] times[i + j] stretch = stretch := by
    refine List.filter_eq_self.2 fun t ht => decide_eq_true ?_
    obtain ⟨k, hk, rfl⟩ := List.getElem_of_mem ht
    simp only [stretch, List.getElem_take, List.getElem_drop]
    exact ⟨h.getElem_le_getElem_of_le (by omega), h.getElem_le_getElem_of_le (by omega)⟩
  have hsub : stretch.Sublist (within times[i] times[i + j] times) := by
    rw [← hin]
    exact ((List.take_sublist _ _).trans (List.drop_sublist _ _)).filter _
  have hle := hsub.length_le
  omega

/-- Grants with as many others between them as the limiter allows at once are a window apart. -/
theorem Tracks.window_le (h : l.Tracks grants last) {i : ℕ}
    (hi : i + l.maxCalls < grants.length) :
    l.window ≤ grants[i + l.maxCalls] - grants[i] := by
  by_contra! hlt
  have hcrowd := h.crowd grants[i] grants[i + l.maxCalls] (by linarith)
  have hmany := length_within_of_sorted h.sorted.sortedLE hi
  omega

/-- An attempt is refused exactly while as many grants as allowed are younger than the window. -/
theorem Tracks.refuses_iff (h : l.Tracks grants last) (hn : last ≤ now) :
    (l.tryAcquire now).1 = false ↔
      (grants.filter fun t => now - l.window < t ∧ t ≤ now).length = l.maxCalls := by
  have he := h.expire hn
  have hyoung : (l.expire now).stamps = grants.filter fun t => now - l.window < t ∧ t ≤ now := by
    rw [he.young]
    refine List.filter_congr fun t ht => decide_eq_decide.2 ⟨fun hy => ⟨hy, ?_⟩, And.left⟩
    exact (h.past t ht).trans hn
  have hle : (l.expire now).stamps.length ≤ l.maxCalls := he.length_stamps
  have hdelay : lt zero ((l.expire now).delay now) = true ↔
      l.maxCalls ≤ (l.expire now).stamps.length := he.delay_pos_iff
  rw [← hyoung]
  unfold tryAcquire
  dsimp only
  split
  · next hd => exact ⟨fun _ => le_antisymm hle (hdelay.1 hd), fun _ => rfl⟩
  · next hd =>
    refine ⟨fun hf => absurd hf (by simp), fun heq => ?_⟩
    exact absurd (hdelay.2 heq.ge) hd

theorem Tracks.tryAcquire (h : l.Tracks grants last) (hn : last ≤ now) (hw : 0 < l.window) :
    (l.tryAcquire now).2.Tracks (grants ++ if (l.tryAcquire now).1 then [now] else []) now ∧
      (l.tryAcquire now).2.maxCalls = l.maxCalls ∧ (l.tryAcquire now).2.window = l.window := by
  have he := h.expire hn
  unfold Limiter.tryAcquire
  dsimp only
  split
  · exact ⟨by simpa using he, rfl, rfl⟩
  · next hd =>
    have hfree := not_le.1 (mt he.delay_pos_iff.2 hd)
    exact ⟨by simpa using he.grant hfree hw, rfl, rfl⟩

theorem granted_eq (grants : List ℚ) (now : ℚ) (got : Acquired) :
    granted grants now got = grants ++ if decide (got = .granted) then [now] else [] := by
  unfold granted
  split
  · next hg => rw [if_pos (decide_eq_true hg)]
  · next hg => rw [if_neg (by simpa using hg), List.append_nil]

theorem make_of_pos {maxCalls : ℕ} (hm : 0 < maxCalls) {window : ℚ} (hw : 0 < window) :
    Limiter.make maxCalls window = .ok ⟨maxCalls, window, []⟩ := by
  unfold Limiter.make
  rw [if_neg (by omega), le_eq_decide, zero_eq, decide_eq_false (not_le.2 hw)]
  rfl

/-- The limiter at the end of a course knows what it granted. Before the first call no reading is
the last one. -/
structure Course.Exact (readings : ℕ → ℚ) (maxCalls : ℕ) (window : ℚ) (s : Course) : Prop where
  maxCalls_eq : s.limiter.maxCalls = maxCalls
  window_eq : s.limiter.window = window
  past : ∀ e ∈ s.ended.getLast?, e.time ≤ readings s.next
  tracks : ∀ last, (∀ e ∈ s.ended.getLast?, e.time = last) → s.limiter.Tracks s.grants last

variable {readings : ℕ → ℚ} {maxCalls : ℕ} {window : ℚ} {s : Course}

/-- By a reading that is not before the last. -/
theorem Course.Exact.tracks_of_le (h : s.Exact readings maxCalls window)
    (hn : ∀ e ∈ s.ended.getLast?, e.time ≤ now) :
    ∃ last ≤ now, s.limiter.Tracks s.grants last := by
  cases he : s.ended.getLast? with
  | none => exact ⟨now, le_rfl, h.tracks now (by simp [he])⟩
  | some e => exact ⟨e.time, hn e he, h.tracks e.time (by simp [he])⟩

theorem Course.exact_snoc {e : Ended} {n : ℕ} (hm : l.maxCalls = maxCalls)
    (hw : l.window = window) (hp : e.time ≤ readings n)
    (ht : l.Tracks (s.grants ++ if e.slot then [e.time] else []) e.time) :
    (⟨s.ended ++ [e], l, n⟩ : Course).Exact readings maxCalls window where
  maxCalls_eq := hm
  window_eq := hw
  past := by simpa using hp
  tracks last hlast := by
    obtain rfl : e.time = last := by simpa using hlast
    rwa [grants_snoc]

theorem Course.Exact.call (h : s.Exact readings maxCalls window) (hr : Monotone readings)
    (hw : 0 < window) (k : Call) : (s.call readings k).Exact readings maxCalls window := by
  obtain ⟨last, hlast, ht⟩ := h.tracks_of_le h.past
  have hpos : 0 < s.limiter.window := h.window_eq ▸ hw
  cases k with
  | attempt =>
    obtain ⟨ht', hm, hw'⟩ := ht.tryAcquire hlast hpos
    exact exact_snoc (hm.trans h.maxCalls_eq) (hw'.trans h.window_eq) (hr (Nat.le_succ _)) ht'
  | wait timeout naps waited =>
    have hforward : ∀ t n, 0 ≤ t → (scripted readings).now n ≤
        (scripted readings).now ((scripted readings).sleep t n) := fun _ n _ => hr (Nat.le_succ n)
    obtain ⟨hm, hw'⟩ := acquire_limits (scripted readings) timeout naps waited s.limiter s.next
    obtain ⟨ht', -⟩ := acquire_tracks hforward timeout naps waited ht hlast hpos
    rw [granted_eq] at ht'
    exact exact_snoc (hm.trans h.maxCalls_eq) (hw'.trans h.window_eq) (hr (Nat.le_succ _)) ht'

theorem Course.exact_run (hr : Monotone readings) (hw : 0 < window) (hl : l.maxCalls = maxCalls)
    (hlw : l.window = window) (ht : ∀ last, l.Tracks [] last) (calls : List Call) :
    (run readings calls l).Exact readings maxCalls window := by
  refine List.foldlRecOn calls _ ⟨hl, hlw, by simp, fun last _ => ht last⟩ ?_
  exact fun s hs k _ => hs.call hr hw k

/-- What is asked of a limiter that allows so many calls in a window. -/
structure Course.Slides (maxCalls : ℕ) (window : ℚ) (s : Course) : Prop where
  stamps : ∀ e ∈ s.ended.getLast?, s.limiter.stamps = s.grants.filter (e.time - window < ·)
  few : s.limiter.stamps.length ≤ maxCalls
  apart : ∀ i (_ : i + maxCalls < s.grants.length), window ≤ s.grants[i + maxCalls] - s.grants[i]
  refuses : ∀ t, (∀ e ∈ s.ended.getLast?, e.time ≤ t) →
    ((s.limiter.tryAcquire t).1 = false ↔
      (s.grants.filter fun g => t - window < g ∧ g ≤ t).length = maxCalls)

theorem Course.Exact.slides (h : s.Exact readings maxCalls window) : s.Slides maxCalls window := by
  obtain ⟨last, -, ht⟩ := h.tracks_of_le h.past
  refine ⟨fun e he => ?_, ?_, fun i hi => ?_, fun t hle => ?_⟩
  · have hyoung := (h.tracks e.time (by simp [Option.mem_def.1 he])).young
    rwa [h.window_eq] at hyoung
  · exact h.maxCalls_eq ▸ ht.length_stamps
  · have hapart := ht.window_le (i := i) (by rwa [h.maxCalls_eq])
    simpa only [h.maxCalls_eq, h.window_eq] using hapart
  · obtain ⟨last, hlast, ht⟩ := h.tracks_of_le hle
    rw [ht.refuses_iff hlast, h.maxCalls_eq, h.window_eq]

/-- After any calls a limiter keeps, in order, just the grants that are younger than the window at
the last reading of the clock, and no more of them than it allows. Of its grants, any that have as
many others between them are a window apart. And it refuses an attempt exactly if as many grants as
it allows lie within the window that ends there. -/
theorem slides_run {maxCalls : ℕ} (hm : 0 < maxCalls) {window : ℚ} (hw : 0 < window)
    {readings : ℕ → ℚ} (hr : Monotone readings) (calls : List Call) :
    ∃ l, Limiter.make maxCalls window = .ok l ∧
      (Course.run readings calls l).Slides maxCalls window := by
  have hmake := make_of_pos hm hw
  have ht (last : ℚ) := (tracks_of_make hmake last).2.2
  exact ⟨_, hmake, (Course.exact_run hr hw rfl rfl ht calls).slides⟩

/-- Two slots are taken, a third is refused and then waited for, for a quarter of a second at
most. -/
def crowdedCalls : List Call := [.attempt, .attempt, .attempt, .wait (some (1 / 4)) 10 0]

theorem crowdedCalls_slides_run :
    0 < 2 ∧ (0 : ℚ) < 1 ∧ Monotone (fun n : ℕ => (n / 4 : ℚ)) ∧
      ∃ l, Limiter.make (2 : ℕ) (1 : ℚ) = .ok l ∧
        (Course.run (fun n : ℕ => (n / 4 : ℚ)) crowdedCalls l).Slides 2 1 ∧
        (Course.run (fun n : ℕ => (n / 4 : ℚ)) crowdedCalls l).ended =
          [⟨0, true⟩, ⟨1 / 4, true⟩, ⟨1 / 2, false⟩, ⟨1, true⟩] := by
  have hr : Monotone (fun n : ℕ => (n / 4 : ℚ)) := fun m n h => by
    have : (m : ℚ) ≤ n := by exact_mod_cast h
    linarith
  obtain ⟨l, hl, hs⟩ := slides_run (by decide : 0 < 2) (by norm_num : (0 : ℚ) < 1) hr crowdedCalls
  refine ⟨by decide, by norm_num, hr, l, hl, hs, ?_⟩
  rw [make_of_pos (by decide) (by norm_num)] at hl
  cases hl
  decide +kernel

end CovertVault.Remote.Limiter
