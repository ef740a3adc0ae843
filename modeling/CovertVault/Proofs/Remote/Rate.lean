import CovertVault.Proofs.Remote.Service
import CovertVault.Proofs.Remote.Window
import Mathlib.Data.NNRat.Defs

namespace CovertVault.Remote
open TimeScale

/-- A request that went out, and what came of it. -/
structure Sent where
  time : ℚ
  outcome : Outcome
deriving Repr, DecidableEq

/-- No answer or failure asks for another try. -/
def Conclusive (log : List Sent) : Prop := ∀ s ∈ log, s.outcome.verdict? ≠ none

variable {ω : Type}

namespace Link

/-- A connection that notes what goes out over it, newest first. -/
def noting (link : Link ω ℚ) : Link (ω × List Sent) ℚ where
  now w := link.now w.1
  sleep t w := (link.sleep t w.1, w.2)
  millis w := link.millis w.1
  send q w :=
    let (outcome, v) := link.send q w.1
    (outcome, v, ⟨link.now w.1, outcome⟩ :: w.2)

theorem noting_send (link : Link ω ℚ) (q : Request) (w : ω) (log : List Sent) :
    link.noting.send q (w, log) =
      ((link.send q w).1, (link.send q w).2, ⟨link.now w, (link.send q w).1⟩ :: log) := rfl

theorem noting_sleep (link : Link ω ℚ) (t : ℚ) (w : ω) (log : List Sent) :
    link.noting.sleep t (w, log) = (link.sleep t w, log) := rfl

/-- A clock that sleeping moves by just the slept time. Sending may take its time. -/
structure Exact (link : Link ω ℚ) : Prop where
  sleep : ∀ t w, 0 ≤ t → link.now (link.sleep t w) = link.now w + t
  send : ∀ q w, link.now w ≤ link.now (link.send q w).2

end Link

namespace Client

/-- What a client is asked to do, or time that goes by. -/
inductive Act where
  | send (k : Command)
  | fetchHistory
  | rest (span : ℚ≥0)

def act (link : Link ω ℚ) (s : Client ℚ × ω) : Act → Client ℚ × ω
  | .send k => (s.1.send link k s.2).2
  | .fetchHistory => (s.1.fetchHistory link s.2).2
  | .rest span => (s.1, link.sleep span s.2)

theorem act_send (link : Link ω ℚ) (c : Client ℚ) (w : ω) (k : Command) :
    act link (c, w) (.send k) = (c.ask link k.method k.node k.body w).2 := rfl

def run (link : Link ω ℚ) (acts : List Act) (s : Client ℚ × ω) : Client ℚ × ω :=
  acts.foldl (act link) s

/-- All that goes out while a client is asked to do these things, newest first. -/
def sent (link : Link ω ℚ) (acts : List Act) (c : Client ℚ) (w : ω) : List Sent :=
  (run link.noting acts (c, w, [])).2.2

end Client

/-- Half a second or more apart. -/
def Apart (later earlier : ℚ) : Prop := earlier + 1 / 2 ≤ later

theorem Apart.le {later earlier : ℚ} (h : Apart later earlier) : earlier ≤ later := by
  unfold Apart at h
  linarith

/-- The times of all that went out, told apart: first tries, oldest first, each of which the limiter
granted, and later tries, newest first. -/
structure Paced (firsts retries : List ℚ) (l : Limiter ℚ) (now : ℚ) (log : List Sent) : Prop where
  parts : (log.map Sent.time).Perm (firsts ++ retries)
  window : l.window = 1
  tracks : ∃ last ≤ now, l.Tracks firsts last
  apart : retries.Pairwise Apart
  past : ∀ t ∈ retries, t ≤ now
  conclusive : Conclusive log → retries = []

theorem within_apart {times : List ℚ} (h : times.Pairwise Apart) {a b : ℚ} (hab : b < a + 1) :
    (within a b times).length ≤ 2 := by
  have hin : ∀ t ∈ within a b times, a ≤ t ∧ t ≤ b := fun t ht =>
    of_decide_eq_true (List.mem_filter.1 ht).2
  have hp : (within a b times).Pairwise Apart := h.filter _
  match hw : within a b times with
  | [] | [_] | [_, _] => simp
  | t :: s :: r :: rest =>
    rw [hw] at hin hp
    have hts : Apart t s := List.rel_of_pairwise_cons hp (by simp)
    have hsr : Apart s r := List.rel_of_pairwise_cons (List.pairwise_cons.1 hp).2 (by simp)
    have ht := (hin t (by simp)).2
    have hr := (hin r (by simp)).1
    unfold Apart at hts hsr
    linarith

theorem Paced.length_within {firsts retries : List ℚ} {l : Limiter ℚ} {now : ℚ} {log : List Sent}
    (h : Paced firsts retries l now log) {a b : ℚ} (hab : b < a + 1) :
    (within a b (log.map Sent.time)).length ≤ l.maxCalls + 2 ∧
      (Conclusive log → (within a b (log.map Sent.time)).length ≤ l.maxCalls) := by
  obtain ⟨last, -, ht⟩ := h.tracks
  have hfirsts := ht.crowd a b (by rwa [h.window])
  have hretries := within_apart h.apart hab
  have hparts : (within a b (log.map Sent.time)).length =
      (within a b firsts).length + (within a b retries).length := by
    rw [← List.length_append, ← within_append]
    exact (h.parts.filter _).length_eq
  refine ⟨by omega, fun hs => ?_⟩
  rw [hparts, h.conclusive hs]
  exact hfirsts

variable {link : Link ω ℚ} {w : ω} {log : List Sent} {firsts retries : List ℚ}

/-- A try that comes behind a pause. -/
theorem apart_of_pause (hl : link.Exact) (q : Request) {pause : Int} (hp : 500 ≤ pause) {t : ℚ}
    (ht : t ≤ link.now w) :
    Apart (link.now (link.sleep (ofMillis pause) (link.send q w).2)) t := by
  have h500 : (500 : ℚ) ≤ pause := by exact_mod_cast hp
  have hhalf : (1 / 2 : ℚ) ≤ ofMillis pause := by
    rw [ofMillis_eq]
    linarith
  have hsent := hl.send q w
  have hslept := hl.sleep (ofMillis pause) (link.send q w).2 (by linarith)
  unfold Apart
  linarith

/-- Tries that go on half a second and more after the try before. -/
theorem tryAll_apart (hl : link.Exact) (q : Request) (pauses : List Int) (log : List Sent)
    (hp : ∀ pause ∈ pauses, 500 ≤ pause) (ha : retries.Pairwise Apart)
    (hr : ∀ t ∈ retries, Apart (link.now w) t) :
    ∃ more, (Client.tryAll link.noting q pauses (w, log)).2.2 = more ++ log ∧
      (more.map Sent.time ++ retries).Pairwise Apart ∧
      (∀ t ∈ more.map Sent.time ++ retries,
        t ≤ link.now (Client.tryAll link.noting q pauses (w, log)).2.1) ∧
      link.now w ≤ link.now (Client.tryAll link.noting q pauses (w, log)).2.1 := by
  induction pauses generalizing retries w log with
  | nil => exact ⟨[], rfl, ha, fun t ht => (hr t ht).le, le_rfl⟩
  | cons pause pauses ih =>
    have hsend := link.noting_send q w log
    have hsent := hl.send q w
    have ha' : (link.now w :: retries).Pairwise Apart := List.pairwise_cons.2 ⟨hr, ha⟩
    have hpast : ∀ t ∈ link.now w :: retries, t ≤ link.now w :=
      List.forall_mem_cons.2 ⟨le_rfl, fun t ht => (hr t ht).le⟩
    cases hv : (link.send q w).1.verdict? with
    | some r =>
      rw [tryAll_cons_some hsend hv]
      exact ⟨[⟨link.now w, (link.send q w).1⟩], rfl, ha',
        fun t ht => (hpast t ht).trans hsent, hsent⟩
    | none =>
      rw [tryAll_cons_none hsend hv, Link.noting_sleep]
      -- The pause puts the next try half a second or more behind all those before it.
      have hpause := hp pause List.mem_cons_self
      obtain ⟨more, hlog, hmore, hpast', hle⟩ :=
        ih _ (fun p h => hp p (List.mem_cons_of_mem _ h)) ha'
          fun t ht => apart_of_pause hl q hpause (hpast t ht)
      refine ⟨more ++ [⟨link.now w, (link.send q w).1⟩], hlog.trans (by simp), ?_, ?_, ?_⟩
      · simpa using hmore
      · intro t ht
        exact hpast' t (by simpa [or_assoc] using ht)
      · exact (apart_of_pause hl q hpause le_rfl).le.trans hle

/-- A request for which the limiter has just granted a slot. -/
theorem pauses_paced (hl : link.Exact) (q : Request) {l₀ l : Limiter ℚ} {now : ℚ}
    (h : Paced firsts retries l₀ now log) (hnow : now ≤ link.now w) (hw : l.window = 1)
    (ht : l.Tracks (firsts ++ [link.now w]) (link.now w)) :
    ∃ retries', Paced (firsts ++ [link.now w]) retries' l
      (link.now (Client.tryAll link.noting q Client.pauses (w, log)).2.1)
      (Client.tryAll link.noting q Client.pauses (w, log)).2.2 := by
  have hsend := link.noting_send q w log
  have hsent := hl.send q w
  have hpast : ∀ t ∈ retries, t ≤ link.now w := fun t h' => (h.past t h').trans hnow
  have hparts : (link.now w :: log.map Sent.time).Perm (firsts ++ [link.now w] ++ retries) := by
    rw [List.append_assoc]
    exact (h.parts.cons _).trans List.perm_middle.symm
  unfold Client.pauses
  cases hv : (link.send q w).1.verdict? with
  | some r =>
    rw [tryAll_cons_some hsend hv]
    exact ⟨retries, hparts, hw, ⟨_, hsent, ht⟩, h.apart, fun t h' => (hpast t h').trans hsent,
      fun hs => h.conclusive fun s hs' => hs s (List.mem_cons_of_mem _ hs')⟩
  | none =>
    rw [tryAll_cons_none hsend hv, Link.noting_sleep]
    obtain ⟨more, hlog, hmore, hpast', hle⟩ := tryAll_apart hl q [1000, 2000, 4000]
      (⟨link.now w, (link.send q w).1⟩ :: log) (by decide) h.apart
      fun t h' => apart_of_pause hl q (le_refl 500) (hpast t h')
    rw [hlog]
    refine ⟨more.map Sent.time ++ retries, ?_, hw, ⟨_, ?_, ht⟩, hmore, hpast', fun hs => ?_⟩
    · rw [List.map_append, List.map_cons]
      exact (hparts.append_left _).trans (List.perm_append_comm_assoc _ _ _)
    · exact (apart_of_pause hl q (le_refl 500) le_rfl).le.trans hle
    · exact absurd hv (hs _ (List.mem_append_right _ List.mem_cons_self))

/-- Waiting for a slot sends nothing. -/
theorem acquire_noting (hl : link.Exact) (timeout : Option ℚ) (naps : Nat) (waited : ℚ)
    {l : Limiter ℚ} {last : ℚ} (hw : l.window = 1) (ht : l.Tracks firsts last)
    (hlast : last ≤ link.now w) (log : List Sent) :
    ∃ got l' w', Limiter.acquire link.noting.toClock timeout naps waited l (w, log) =
        (got, l', w', log) ∧
      l'.maxCalls = l.maxCalls ∧ l'.window = 1 ∧
      l'.Tracks (Limiter.granted firsts (link.now w') got) (link.now w') ∧
      link.now w ≤ link.now w' := by
  have hforward (t : ℚ) (v : ω × List Sent) (h0 : 0 ≤ t) :
      link.noting.now v ≤ link.noting.now (link.noting.sleep t v) := by
    change link.now v.1 ≤ link.now (link.sleep t v.1)
    rw [hl.sleep t v.1 h0]
    linarith
  have hlimits := Limiter.acquire_limits link.noting.toClock timeout naps waited l (w, log)
  have hlog := acquire_keeps (c := link.noting.toClock) (P := fun v => v.2 = log)
    (fun _ _ h => h) timeout naps waited l (w := (w, log)) rfl
  have htracks := Limiter.acquire_tracks (c := link.noting.toClock) (w := (w, log)) hforward
    timeout naps waited ht hlast (hw ▸ one_pos)
  generalize Limiter.acquire link.noting.toClock timeout naps waited l (w, log) = a
    at hlimits hlog htracks
  obtain ⟨got, l', w', log'⟩ := a
  dsimp only at hlog
  subst hlog
  exact ⟨got, l', w', rfl, hlimits.1, hlimits.2.trans hw, htracks.1, htracks.2⟩

/-- What a client with a rate has sent so far, the newest first, keeps to its pace. -/
def Obeys (link : Link ω ℚ) (rate : Nat) (s : Client ℚ × ω × List Sent) : Prop :=
  s.1.limiter.maxCalls = rate ∧
    ∃ firsts retries, Paced firsts retries s.1.limiter (link.now s.2.1) s.2.2

variable {rate : Nat} {c : Client ℚ}

/-- A call adds a first try that the limiter grants, and later ones. -/
theorem ask_obeys (hl : link.Exact) (method : Method) (node : List String)
    (body : Int → Option Json) (h : Obeys link rate (c, w, log)) :
    Obeys link rate (c.ask link.noting method node body (w, log)).2 := by
  obtain ⟨hrate, firsts, retries, h⟩ := h
  dsimp only at hrate h
  unfold Client.ask
  cases link.noting.millis (w, log) with
  | error e => exact ⟨hrate, firsts, retries, h⟩
  | ok now =>
    obtain ⟨last, hlast, ht⟩ := h.tracks
    obtain ⟨got, l, w', ha, hcalls, hwindow, ht', hle⟩ := acquire_noting hl
      (some (ofMillis Client.slotTimeout)) Client.slotNaps zero h.window ht hlast log
    dsimp only
    rw [ha]
    cases got with
    | granted =>
      obtain ⟨retries', hp⟩ := pauses_paced hl (c.request method node (body now)) h hle hwindow ht'
      exact ⟨hcalls.trans hrate, _, retries', hp⟩
    | refused | tired =>
      exact ⟨hcalls.trans hrate, firsts, retries, h.parts, hwindow, ⟨_, le_rfl, ht'⟩, h.apart,
        fun t h' => (h.past t h').trans hle, h.conclusive⟩

theorem act_obeys (hl : link.Exact) (a : Client.Act) (h : Obeys link rate (c, w, log)) :
    Obeys link rate (Client.act link.noting (c, w, log) a) := by
  cases a with
  | send k => exact ask_obeys hl k.method k.node k.body h
  | fetchHistory => exact ask_obeys hl .get ["calculation_history"] (fun _ => none) h
  | rest span =>
    obtain ⟨hrate, firsts, retries, h⟩ := h
    have hnow : link.now w ≤ link.now (link.sleep (span : ℚ) w) := by
      rw [hl.sleep _ _ span.coe_nonneg]
      exact le_add_of_nonneg_right span.coe_nonneg
    obtain ⟨last, hlast, ht⟩ := h.tracks
    exact ⟨hrate, firsts, retries, h.parts, h.window, ⟨last, hlast.trans hnow, ht⟩, h.apart,
      fun t h' => (h.past t h').trans hnow, h.conclusive⟩

theorem run_obeys (hl : link.Exact) (acts : List Client.Act) (h : Obeys link rate (c, w, log)) :
    Obeys link rate (Client.run link.noting acts (c, w, log)) :=
  List.foldlRecOn acts _ h fun _ hs a _ => act_obeys hl a hs

theorem limiter_of_make {address user : String} {token : Option String} {rate : Int} {given : Bool}
    {c : Client ℚ} (h : Client.make address user token rate given = .ok c) :
    Limiter.make rate (ofMillis 1000) = .ok c.limiter := by
  have hlast (h : (do
      let limiter ← (Limiter.make rate (ofMillis 1000)).mapError ClientError.limiter
      return (⟨user, token.filter (· ≠ ""), limiter⟩ : Client ℚ)) = .ok c) :
      Limiter.make rate (ofMillis 1000) = .ok c.limiter := by
    obtain ⟨l, hl, h⟩ := bind_eq_ok h
    cases h
    exact mapError_eq_ok hl
  unfold Client.make at h
  dsimp only at h
  split at h
  · cases h
  · split at h
    · cases h
    · split at h
      · obtain ⟨_, -, h⟩ := bind_eq_ok h
        exact hlast h
      · exact hlast h

structure Ticking where
  now : ℚ
  /-- What comes of the next requests. -/
  outcomes : List Outcome

/-- A connection over which requests come to given ends and take no time. -/
def ticking : Link Ticking ℚ where
  now := Ticking.now
  sleep t w := { w with now := w.now + t }
  millis _ := .ok 0
  send _ w := (w.outcomes.headD (.response 200 []), { w with outcomes := w.outcomes.tail })

theorem ticking_exact : ticking.Exact := ⟨fun _ _ _ => rfl, fun _ _ => le_rfl⟩

def busy : Outcome := .response 503 []

def done : Outcome := .response 200 []

def perSecond (rate : Nat) : Client ℚ := ⟨"u1", none, ⟨rate, ofMillis 1000, []⟩⟩

theorem make_perSecond {rate : Nat} (h : 0 < rate) :
    Client.make "https://db.test" "u1" none rate true = .ok (perSecond rate) := by
  have hwindow : le (ofMillis 1000 : ℚ) zero = false := by
    rw [le_eq_decide, ofMillis_eq, zero_eq]
    norm_num
  have hl : Limiter.make rate (ofMillis 1000 : ℚ) = .ok ⟨rate, ofMillis 1000, []⟩ := by
    unfold Limiter.make
    rw [if_neg (by omega), hwindow]
    rfl
  unfold Client.make
  rw [hl]
  rfl

/-- In less than a second a client sends at most two requests more than its rate, whatever it is
asked to do and whatever comes of its requests; and no more than its rate as long as none of them
has to be tried again. -/
theorem sent_in_less_than_second (hl : link.Exact) {address user : String} {token : Option String}
    {rate : Int} {given : Bool} {c : Client ℚ}
    (hc : Client.make address user token rate given = .ok c) (acts : List Client.Act) (w : ω)
    {a b : ℚ} (hab : b < a + 1) :
    (within a b ((c.sent link acts w).map Sent.time)).length ≤ rate + 2 ∧
      (Conclusive (c.sent link acts w) →
        (within a b ((c.sent link acts w).map Sent.time)).length ≤ rate) := by
  obtain ⟨hcalls, hwindow, ht⟩ := Limiter.tracks_of_make (limiter_of_make hc) (link.now w)
  have hsecond : c.limiter.window = 1 := hwindow.trans (by rw [ofMillis_eq]; norm_num)
  have hnew : Obeys link rate.toNat (c, w, []) :=
    ⟨hcalls, [], [], .nil, hsecond, ⟨_, le_rfl, ht⟩, .nil, by simp, fun _ => rfl⟩
  obtain ⟨hrate, firsts, retries, hp⟩ := run_obeys hl acts hnew
  obtain ⟨hmost, hfew⟩ := hp.length_within hab
  have hpos : 0 < rate.toNat := hcalls ▸ ht.calls
  rw [hrate] at hmost hfew
  refine ⟨?_, fun hs => ?_⟩
  · have : (within a b ((c.sent link acts w).map Sent.time)).length ≤ _ := hmost
    omega
  · have : (within a b ((c.sent link acts w).map Sent.time)).length ≤ _ := hfew hs
    omega

theorem busyOnce_sent_in_less_than_second :
    Client.make "https://db.test" "u1" none 1 true = .ok (perSecond 1) ∧ (1 / 2 : ℚ) < 0 + 1 ∧
      (within 0 (1 / 2) (((perSecond 1).sent ticking [.send .clearHistory]
        ⟨0, [busy, done]⟩).map Sent.time)).length ≤ (1 : Int) + 2 :=
  ⟨make_perSecond one_pos, by norm_num,
    (sent_in_less_than_second ticking_exact (make_perSecond one_pos) _ _ (by norm_num)).1⟩

/-- A request that is tried again half a second later, at a rate of one in a second. -/
theorem busyOnce_sent_twice :
    Client.make "https://db.test" "u1" none 1 true = .ok (perSecond 1) ∧
      (1 / 2 : ℚ) < 0 + 1 ∧
      (within 0 (1 / 2) (((perSecond 1).sent ticking [.send .clearHistory]
        ⟨0, [busy, done]⟩).map Sent.time)).length = 2 :=
  ⟨make_perSecond one_pos, by norm_num, by decide +kernel⟩

/-- A client whose limiter granted a number of slots just now, and none before that still counts. -/
def Fresh (rate granted : Nat) (now : ℚ) (c : Client ℚ) : Prop :=
  ∃ old, (∀ t ∈ old, t ≤ now - 1) ∧ c.limiter = ⟨rate, 1, old ++ List.replicate granted now⟩

theorem Fresh.expire {rate granted : Nat} {now : ℚ} {c : Client ℚ} (h : Fresh rate granted now c) :
    c.limiter.expire now = ⟨rate, 1, List.replicate granted now⟩ := by
  obtain ⟨old, hold, hl⟩ := h
  have hyoung : (List.replicate granted now).dropWhile (fun t => le t (now - 1)) =
      List.replicate granted now := by
    cases granted with
    | zero => rfl
    | succ granted =>
      rw [List.replicate_succ, List.dropWhile_cons_of_neg]
      simp [le_eq_decide]
  rw [hl]
  unfold Limiter.expire
  dsimp only
  have hdrop : (old ++ List.replicate granted now).dropWhile (fun t => le t (now - 1)) =
      List.replicate granted now :=
    (List.dropWhile_append_of_pos fun t ht => decide_eq_true (hold t ht)).trans hyoung
  rw [hdrop]

theorem Fresh.later {rate granted : Nat} {now later : ℚ} {c : Client ℚ}
    (h : Fresh rate granted now c) (hl : now + 1 ≤ later) : Fresh rate 0 later c := by
  obtain ⟨old, hold, hlimiter⟩ := h
  refine ⟨old ++ List.replicate granted now, fun t ht => ?_, by rw [hlimiter]; simp⟩
  obtain ht | ht := List.mem_append.1 ht
  · have := hold t ht
    linarith
  · rw [List.eq_of_mem_replicate ht]
    linarith

/-- A call for which a slot is free. -/
theorem ask_free {T : Type} [TimeScale T] (link : Link ω T) {c : Client T} {w : ω} {now : Int}
    (hm : link.millis w = .ok now)
    (hfree : lt zero ((c.limiter.expire (link.now w)).delay (link.now w)) = false)
    (method : Method) (node : List String) (body : Int → Option Json) :
    (c.ask link method node body w).2 =
      ({ c with limiter := (c.limiter.expire (link.now w)).grant (link.now w) },
        (Client.tryAll link (c.request method node (body now)) Client.pauses w).2) := by
  unfold Client.ask
  rw [hm]
  dsimp only
  rw [acquire_free (c := link.toClock) hfree]

theorem act_fresh {rate granted : Nat} {now : ℚ} {c : Client ℚ} (hc : Fresh rate granted now c)
    (hg : granted < rate) (outcomes : List Outcome) (log : List Sent) :
    ∃ c' q, Fresh rate (granted + 1) now c' ∧
      Client.act ticking.noting (c, ⟨now, outcomes⟩, log) (.send .clearHistory) =
        (c', (Client.tryAll ticking.noting q Client.pauses (⟨now, outcomes⟩, log)).2) := by
  have hfree : lt zero ((c.limiter.expire now).delay now) = false := by
    rw [hc.expire]
    unfold Limiter.delay
    rw [if_pos (by simpa using hg)]
    exact decide_eq_false (lt_irrefl _)
  refine ⟨{ c with limiter := (c.limiter.expire now).grant now },
    c.request .delete ["calculation_history"] none, ⟨[], by simp, ?_⟩, ?_⟩
  · rw [hc.expire]
    unfold Limiter.grant
    dsimp only
    rw [List.nil_append]
    exact congrArg _ (List.replicate_append_replicate (m := 1))
  · rw [Client.act_send]
    exact ask_free ticking.noting (w := (⟨now, outcomes⟩, log)) rfl hfree _ _ _

theorem tryAll_busy (q : Request) (pause : Int) (pauses : List Int) (now : ℚ)
    (outcomes : List Outcome) (log : List Sent) :
    Client.tryAll ticking.noting q (pause :: pauses) (⟨now, busy :: outcomes⟩, log) =
      Client.tryAll ticking.noting q pauses
        (⟨now + ofMillis pause, outcomes⟩, ⟨now, busy⟩ :: log) :=
  tryAll_cons_none (Link.noting_send _ _ _ _) rfl _ _

theorem tryAll_done (q : Request) (pause : Int) (pauses : List Int) (now : ℚ)
    (outcomes : List Outcome) (log : List Sent) :
    (Client.tryAll ticking.noting q (pause :: pauses) (⟨now, done :: outcomes⟩, log)).2 =
      (⟨now, outcomes⟩, ⟨now, done⟩ :: log) :=
  congrArg Prod.snd (tryAll_cons_some (Link.noting_send _ _ _ _) rfl _ _)

/-- As many calls as there are slots, all of them answered. -/
theorem run_fresh {rate granted : Nat} {now : ℚ} {c : Client ℚ} (hc : Fresh rate granted now c)
    (calls : Nat) (hg : granted + calls ≤ rate) (outcomes : List Outcome) (log : List Sent) :
    ∃ c', Fresh rate (granted + calls) now c' ∧
      Client.run ticking.noting (List.replicate calls (.send .clearHistory))
          (c, ⟨now, List.replicate calls done ++ outcomes⟩, log) =
        (c', ⟨now, outcomes⟩, List.replicate calls ⟨now, done⟩ ++ log) := by
  induction calls generalizing granted c log with
  | zero => exact ⟨c, hc, rfl⟩
  | succ calls ih =>
    obtain ⟨c₁, q, hc₁, hact⟩ := act_fresh hc (by omega)
      (done :: (List.replicate calls done ++ outcomes)) log
    rw [Client.pauses, tryAll_done] at hact
    obtain ⟨c₂, hc₂, hrun⟩ := ih hc₁ (by omega) (⟨now, done⟩ :: log)
    refine ⟨c₂, by rwa [Nat.add_right_comm] at hc₂, ?_⟩
    have hlog : List.replicate (calls + 1) (⟨now, done⟩ : Sent) ++ log =
        List.replicate calls ⟨now, done⟩ ++ ⟨now, done⟩ :: log := by
      rw [List.replicate_succ', List.append_assoc, List.singleton_append]
    rw [hlog, List.replicate_succ, List.replicate_succ, List.cons_append, Client.run,
      List.foldl_cons, hact]
    exact hrun

/-- For every rate there is a client that sends two requests more in half a second. -/
theorem rate_exceeded (rate : Nat) (h : 0 < rate) :
    ∃ acts w, (within (3 / 2) 2 (((perSecond rate).sent ticking acts w).map Sent.time)).length =
      rate + 2 := by
  obtain ⟨calls, rfl⟩ := Nat.exists_eq_add_of_lt h
  rw [Nat.zero_add]
  have hnew : Fresh (calls + 1) 0 0 (perSecond (calls + 1)) := by
    refine ⟨[], by simp, ?_⟩
    change (⟨calls + 1, ofMillis 1000, []⟩ : Limiter ℚ) = _
    rw [ofMillis_eq]
    norm_num
  -- A call that is answered at its third try, as many others as there are slots but one, and a call
  -- that is answered at its second try.
  obtain ⟨c₁, q, hc₁, hfirst⟩ := act_fresh hnew (Nat.succ_pos _)
    (busy :: busy :: done :: (List.replicate calls done ++ [busy, done])) []
  have hlate : (0 : ℚ) + ofMillis 500 + ofMillis 1000 = 3 / 2 := by
    rw [ofMillis_eq, ofMillis_eq]
    norm_num
  rw [Client.pauses, tryAll_busy, tryAll_busy, tryAll_done, hlate] at hfirst
  have hlater : Fresh (calls + 1) 0 (3 / 2) c₁ := hc₁.later (by norm_num)
  obtain ⟨c₂, hc₂, hothers⟩ := run_fresh hlater calls (by omega)
    [busy, done] [⟨3 / 2, done⟩, ⟨0 + ofMillis 500, busy⟩, ⟨0, busy⟩]
  obtain ⟨c₃, q', -, hlast⟩ := act_fresh hc₂ (by omega) [busy, done]
    (List.replicate calls ⟨3 / 2, done⟩ ++
      [⟨3 / 2, done⟩, ⟨0 + ofMillis 500, busy⟩, ⟨0, busy⟩])
  rw [Client.pauses, tryAll_busy, tryAll_done] at hlast
  refine ⟨.send .clearHistory :: List.replicate calls (.send .clearHistory) ++
    [.send .clearHistory], ⟨0, busy :: busy :: done :: (List.replicate calls done ++ [busy, done])⟩,
    ?_⟩
  unfold Client.sent Client.run at *
  rw [List.cons_append, List.foldl_cons, hfirst, List.foldl_append, hothers, List.foldl_cons, hlast,
    List.foldl_nil]
  have hhalf : (0 : ℚ) + ofMillis 500 = 1 / 2 := by
    rw [ofMillis_eq]
    norm_num
  have hend : (3 / 2 : ℚ) + ofMillis 500 = 2 := by
    rw [ofMillis_eq]
    norm_num
  rw [hhalf, hend]
  have hthree : within (3 / 2) 2 (List.replicate calls (3 / 2)) = List.replicate calls (3 / 2) :=
    List.filter_eq_self.2 fun t ht => by
      rw [List.eq_of_mem_replicate ht]
      norm_num
  have hmap : ((⟨2, done⟩ :: ⟨3 / 2, busy⟩ :: (List.replicate calls ⟨3 / 2, done⟩ ++
      [⟨3 / 2, done⟩, ⟨1 / 2, busy⟩, ⟨0, busy⟩]) : List Sent)).map Sent.time =
      [2, 3 / 2] ++ (List.replicate calls (3 / 2) ++ [3 / 2, 1 / 2, 0]) := by
    simp
  have hbefore : within (3 / 2) 2 [3 / 2, 1 / 2, 0] = [3 / 2] := by decide +kernel
  have hafter : within (3 / 2) 2 [2, 3 / 2] = [2, 3 / 2] := by decide +kernel
  rw [hmap, within_append, within_append, hthree, hbefore, hafter]
  simp only [List.length_append, List.length_replicate, List.length_cons, List.length_nil]
  omega

end CovertVault.Remote
