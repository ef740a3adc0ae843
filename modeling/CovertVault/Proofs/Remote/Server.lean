import CovertVault.Proofs.Json.Reader
import CovertVault.Proofs.Remote.Service
import CovertVault.Surroundings
import Mathlib.Tactic.Linarith

namespace CovertVault

namespace Json

theorem field?_of_mem {ms : List (String × Json)} (hk : (ms.map Prod.fst).Nodup) {key : String}
    {v : Json} (h : (key, v) ∈ ms) : field? ms key = some v := by
  induction ms with
  | nil => cases h
  | cons m ms ih =>
    obtain ⟨k, c⟩ := m
    obtain ⟨hn, hk⟩ := List.nodup_cons.1 hk
    rw [field?_cons]
    obtain he | hm := List.mem_cons.1 h
    · cases he
      exact if_pos rfl
    · have hne : key ≠ k := by
        rintro rfl
        exact hn (List.mem_map.2 ⟨_, hm, rfl⟩)
      rw [if_neg hne, ih hk hm]

def isText : Json → Bool
  | .str _ => true
  | _ => false

/-- An object without a key twice, all of whose members are of a kind. -/
def isRecord (kind : Json → Bool) : Json → Bool
  | .obj ms => decide (ms.map Prod.fst).Nodup && ms.all fun m => kind m.2
  | _ => false

/-- Records of texts by their keys, as calculations are kept. -/
def isTable : Json → Bool := isRecord (isRecord isText)

variable {kind : Json → Bool} {v : Json}

theorem plain_of_isText (h : isText v = true) : Plain 0 v := by
  cases v with
  | str s => exact .str 0 s
  | _ => cases h

theorem isRecord_cases (h : isRecord kind v = true) :
    ∃ ms, v = .obj ms ∧ (ms.map Prod.fst).Nodup ∧ ∀ m ∈ ms, kind m.2 = true := by
  cases v with
  | obj ms =>
    obtain ⟨hk, ha⟩ := Bool.and_eq_true_iff.1 h
    exact ⟨ms, rfl, of_decide_eq_true hk, List.all_eq_true.1 ha⟩
  | _ => cases h

theorem plain_of_isRecord {depth : Nat} (hp : ∀ v, kind v = true → Plain depth v)
    (h : isRecord kind v = true) : Plain (depth + 1) v := by
  obtain ⟨ms, rfl, hk, ha⟩ := isRecord_cases h
  exact .obj hk fun m hm => hp _ (ha m hm)

end Json

namespace Remote
open Json

theorem shows_of_isText {v : Json} (h : isText v = true) : Shows (some v) v := by
  cases v with
  | str s => exact .leaf rfl
  | _ => cases h

theorem shows_of_isRecord {kind : Json → Bool} {v : Json}
    (hp : ∀ v, kind v = true → Shows (some v) v) (h : isRecord kind v = true) :
    Shows (some v) v := by
  obtain ⟨ms, rfl, hk, ha⟩ := isRecord_cases h
  refine .members (fun m hm => ?_) fun _ h => h
  rw [field?_of_mem hk hm]
  exact hp _ (ha m hm)

/-- The tree, the tries so far, and the time in seconds. -/
structure Server where
  tree : Json
  tries : Nat
  now : Rat

namespace Server

/-- What an answer says of a node. Only tables are shown. -/
def body : Option Json → Bytes
  | none => Bytes.utf8 null.write
  | some node => if isTable node then Bytes.utf8 node.write else []

theorem shows_body {node : Option Json} {v : Json} (h : ofBody? (body node) = some v) :
    Shows node v := by
  cases node with
  | none =>
    have he := ofBody?_null.symm.trans h
    cases he
    exact .missing
  | some node =>
    unfold body at h
    dsimp only at h
    split at h
    · next ht =>
      obtain ⟨ms, rfl, -, -⟩ := isRecord_cases ht
      have hp :=
        plain_of_isRecord (fun _ h => plain_of_isRecord (fun _ h => plain_of_isText h) h) ht
      have he := (ofBody?_obj hp).symm.trans h
      cases he
      exact shows_of_isRecord (fun _ h => shows_of_isRecord (fun _ h => shows_of_isText h) h) ht
    · cases ofBody?_nil.symm.trans h

def send (q : Request) (w : Server) : Outcome × Server :=
  match w.tries % 3 with
  | 0 => (.response 503 [], { w with tries := w.tries + 1 })
  | 1 => (.fault (.transport "connection lost"), ⟨q.apply w.tree, w.tries + 1, w.now⟩)
  | _ => (.response 200 (body (w.tree.at? q.node)), ⟨q.apply w.tree, w.tries + 1, w.now⟩)

theorem serves_send (q : Request) (w : Server) :
    Serves q w.tree (send q w).1 (send q w).2.tree := by
  unfold send
  split
  · exact ⟨.inl rfl, by simp, by simp⟩
  · exact ⟨.inr rfl, by simp, by simp⟩
  · refine ⟨.inr rfl, fun _ _ => rfl, fun _ b v hb hv => ?_⟩
    cases hb
    exact shows_body hv

/-- Surroundings with such a service, where it is always the same time of the day. -/
def surroundings : Surroundings Server Rat where
  now := now
  sleep t w := { w with now := w.now + t }
  millis w := .ok (w.now * 1000).floor
  send _ := send
  stamp _ := .ok "2024-01-01 12:00:00"
  sealing _ := .error .tooLarge
  callBucket c w := (.error (.refused c.operation none), w)
  freshName w := ("", w)
  connect _ w := (0, w)
  disconnect _ w := w
  fileContent _ _ := .error .missing
  keepFile _ _ _ := .error .missing
  openDatabase _ _ := none
  useDatabase _ _ w := w
  holdsDatabase _ _ := true
  saveDatabase _ _ w := w

theorem keeps (user : String) (n : Nat) : (surroundings.link n).Keeps user tree :=
  ⟨fun q w _ => serves_send q w, fun _ _ => rfl⟩

/-- Answers at once. What cannot be shown is not found. -/
def answer (q : Request) (w : Server) : Outcome × Server :=
  match q.method, w.tree.at? q.node with
  | .get, some node =>
    if isTable node then (.response 200 (body node), w) else (.response 404 [], w)
  | _, _ => (.response 200 (body none), { w with tree := q.apply w.tree })

theorem answer_get {q : Request} (hq : q.method = .get) {w : Server} {b : Bytes}
    (hb : (answer q w).1 = .response 200 b) :
    b = body (w.tree.at? q.node) ∧ ∃ v, ofBody? b = some v := by
  unfold answer at hb
  rw [hq] at hb
  cases hn : w.tree.at? q.node with
  | none =>
    rw [hn] at hb
    cases hb
    exact ⟨rfl, _, ofBody?_null⟩
  | some node =>
    rw [hn] at hb
    dsimp only at hb
    split at hb
    · next ht =>
      cases hb
      refine ⟨rfl, ?_⟩
      obtain ⟨ms, rfl, -, -⟩ := isRecord_cases ht
      rw [body, if_pos ht]
      exact ⟨_, ofBody?_obj
        (plain_of_isRecord (fun _ h => plain_of_isRecord (fun _ h => plain_of_isText h) h) ht)⟩
    · cases hb

theorem serves_answer (q : Request) (w : Server) :
    Serves q w.tree (answer q w).1 (answer q w).2.tree := by
  have ht : (answer q w).2.tree = q.apply w.tree := by
    unfold answer
    split
    · next node hq _ =>
      have ha : q.apply w.tree = w.tree := by rw [Request.apply, hq]
      split <;> exact ha.symm
    · rfl
  refine ⟨.inr ht, fun _ _ => ht, fun hq b v hb hv => ?_⟩
  obtain ⟨rfl, -⟩ := answer_get hq hb
  exact shows_body hv

/-- Surroundings with such a line. -/
def nearby : Surroundings Server Rat := { surroundings with send := fun _ => answer }

theorem nearby_keeps (user : String) (n : Nat) : (nearby.link n).Keeps user tree :=
  ⟨fun q w _ => serves_answer q w, fun _ _ => rfl⟩

/-- A client whose calls before are a window ago, when the next try is the first of three. -/
structure Rested (c : Client Rat) (w : Server) : Prop where
  tries : w.tries % 3 = 0
  calls : 0 < c.limiter.maxCalls
  window : c.limiter.window ≤ 1
  stamps : ∀ s ∈ c.limiter.stamps, s ≤ w.now - c.limiter.window

theorem Rested.expire {c : Client Rat} {w : Server} (h : Rested c w) :
    c.limiter.expire w.now = ⟨c.limiter.maxCalls, c.limiter.window, []⟩ := by
  unfold Limiter.expire
  congr 1
  rw [List.dropWhile_eq_nil_iff]
  exact fun s hs => decide_eq_true (h.stamps s hs)

theorem Rested.acquire {c : Client Rat} {w : Server} (h : Rested c w) (n : Nat)
    (timeout : Option Rat) (naps : Nat) (waited : Rat) :
    Limiter.acquire (surroundings.link n).toClock timeout naps waited c.limiter w =
      (.granted, ⟨c.limiter.maxCalls, c.limiter.window, [w.now]⟩, w) := by
  have hd : (c.limiter.expire w.now).delay w.now = TimeScale.zero := by
    rw [h.expire]
    exact if_pos h.calls
  have hf : TimeScale.lt TimeScale.zero ((c.limiter.expire w.now).delay w.now) = false := by
    rw [hd]
    exact decide_eq_false (lt_irrefl (TimeScale.zero : Rat))
  have hg : (c.limiter.expire w.now).grant w.now =
      ⟨c.limiter.maxCalls, c.limiter.window, [w.now]⟩ := by
    rw [h.expire]
    rfl
  rw [← hg]
  exact acquire_free (c := (surroundings.link n).toClock) hf timeout naps waited

theorem send_first {w : Server} (h : w.tries % 3 = 0) (q : Request) :
    send q w = (.response 503 [], { w with tries := w.tries + 1 }) := by
  unfold send
  rw [h]
  rfl

theorem send_second {w : Server} (h : w.tries % 3 = 1) (q : Request) :
    send q w = (.fault (.transport "connection lost"), ⟨q.apply w.tree, w.tries + 1, w.now⟩) := by
  unfold send
  rw [h]
  rfl

theorem send_third {w : Server} (h : w.tries % 3 = 2) (q : Request) :
    send q w =
      (.response 200 (body (w.tree.at? q.node)), ⟨q.apply w.tree, w.tries + 1, w.now⟩) := by
  unfold send
  rw [h]
  rfl

theorem verdict_answered (b : Bytes) :
    ∃ r, (Outcome.response 200 b).verdict? = some r ∧ Settled r := by
  unfold Outcome.verdict?
  dsimp only
  rw [if_pos rfl]
  split
  · exact ⟨_, rfl, .inr ⟨_, rfl⟩⟩
  · split
    · exact ⟨_, rfl, .inr ⟨_, rfl⟩⟩
    · exact ⟨_, rfl, .inl rfl⟩

/-- The third try is answered, after one and a half seconds. -/
theorem tryAll_rested {w : Server} (h : w.tries % 3 = 0) (n : Nat) (q : Request) :
    ∃ r, Client.tryAll (surroundings.link n) q Client.pauses w =
        (r, ⟨q.apply (q.apply w.tree), w.tries + 3, w.now + 500 / 1000 + 1000 / 1000⟩) ∧
      Settled r := by
  have h1 : (w.tries + 1) % 3 = 1 := by omega
  have h2 : (w.tries + 1 + 1) % 3 = 2 := by omega
  obtain ⟨r, hr, hs⟩ := verdict_answered (body ((q.apply w.tree).at? q.node))
  have hsend {w : Server} {x : Outcome × Server} (h : send q w = x) :
      (surroundings.link n).send q w = x := h
  refine ⟨r, ?_, hs⟩
  unfold Client.pauses
  rw [tryAll_cons_none (hsend (send_first h q)) rfl,
    tryAll_cons_none (hsend (send_second h1 q)) rfl, tryAll_cons_some (hsend (send_third h2 q)) hr]
  rfl

/-- Such a client is answered, and may ask again. -/
theorem ask_rested {c : Client Rat} {w : Server} (h : Rested c w) (n : Nat) (method : Method)
    (node : List String) (body : Int → Option Json) :
    Settled (c.ask (surroundings.link n) method node body w).1 ∧
      Rested (c.ask (surroundings.link n) method node body w).2.1
        (c.ask (surroundings.link n) method node body w).2.2 := by
  have ha := h.acquire n (some (TimeScale.ofMillis Client.slotTimeout)) Client.slotNaps
    TimeScale.zero
  obtain ⟨r, hr, hs⟩ := tryAll_rested h.tries n
    (c.request method node (body (w.now * 1000).floor))
  have hm : (surroundings.link n).millis w = .ok (w.now * 1000).floor := rfl
  unfold Client.ask
  rw [hm]
  dsimp only
  rw [ha]
  dsimp only
  rw [hr]
  refine ⟨hs, ?_, h.calls, h.window, ?_⟩
  · have := h.tries
    show (w.tries + 3) % 3 = 0
    omega
  · intro s hs
    obtain rfl := List.mem_singleton.1 hs
    have := h.window
    show w.now ≤ w.now + 500 / 1000 + 1000 / 1000 - c.limiter.window
    linarith

end Server

end Remote

end CovertVault
