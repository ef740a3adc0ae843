import CovertVault.Proofs.Json.Reader
import CovertVault.Proofs.Outcome
import CovertVault.Proofs.Remote.Mirror
import CovertVault.Remote.Copy

namespace CovertVault

/-- Neither an array nor an object. -/
def Json.isLeaf : Json → Bool
  | .arr _ | .obj _ => false
  | _ => true

namespace Remote

/-- What a request does to the tree of its user. -/
def Request.apply (q : Request) (tree : Json) : Json :=
  match q.method with
  | .get => tree
  | .put => Json.put (q.body.getD .null) q.node tree
  | .delete => Json.remove q.node tree

theorem Request.apply_apply (q : Request) (tree : Json) :
    q.apply (q.apply tree) = q.apply tree := by
  unfold Request.apply
  cases q.method with
  | get => rfl
  | put => exact Json.put_put _ tree q.node
  | delete => exact Json.remove_remove tree q.node

/-- An answer that shows a node, or that there is none. Members may come in any order, and those
with small numbers for keys as an array with nothing in its unused places. -/
inductive Shows : Option Json → Json → Prop
  | missing : Shows none .null
  | leaf {v : Json} : v.isLeaf = true → Shows (some v) v
  | members {ms shown : List (String × Json)} :
      (∀ m ∈ shown, Shows (Json.field? ms m.1) m.2) →
      (∀ key, (Json.field? ms key).isSome → (Json.field? shown key).isSome) →
      Shows (some (.obj ms)) (.obj shown)
  | places {ms : List (String × Json)} {items : List Json} :
      (∀ m ∈ items.zipIdx, Shows (Json.field? ms (idKey m.2)) m.1) →
      (∀ key, (Json.field? ms key).isSome → ∃ i < items.length, key = idKey i) →
      Shows (some (.obj ms)) (.arr items)

/-- What may come of a request, and of the tree before and after it. -/
structure Serves (q : Request) (before : Json) (o : Outcome) (after : Json) : Prop where
  /-- A failure says nothing about whether the request was carried out. -/
  once : after = before ∨ after = q.apply before
  done : ∀ body, o = .response 200 body → after = q.apply before
  shown : q.method = .get → ∀ body v, o = .response 200 body → Json.ofBody? body = some v →
    Shows (before.at? q.node) v

/-- The service has answered, though perhaps in a way that cannot be read. -/
def Settled (r : Except Error Json) : Prop := r = .error .unreadable ∨ ∃ v, r = .ok v

instance : DecidablePred Settled
  | .ok v => .isTrue (.inr ⟨v, rfl⟩)
  | .error e => decidable_of_iff (e = .unreadable) (by simp [Settled])

theorem Outcome.verdict_settled {o : Outcome} {r : Except Error Json} (h : o.verdict? = some r)
    (hs : Settled r) :
    ∃ body, o = .response 200 body ∧ ∀ v, r = .ok v → v = .null ∨ Json.ofBody? body = some v := by
  cases o with
  | fault f =>
    obtain ⟨e, rfl, he⟩ : ∃ e, r = .error e ∧ e ≠ .unreadable := by
      cases f with
      | transport text => cases h
      | _ => exact ⟨_, (Option.some.inj h).symm, by simp⟩
    obtain hs | ⟨v, hs⟩ := hs
    · exact absurd (Except.error.inj hs) he
    · cases hs
  | response status body =>
    unfold verdict? at h
    dsimp only at h
    by_cases h2 : status = 200
    · subst h2
      refine ⟨body, rfl, ?_⟩
      rintro v rfl
      rw [if_pos rfl] at h
      by_cases hn : body = []
      · rw [if_pos hn] at h
        cases h
        exact .inl rfl
      · rw [if_neg hn] at h
        split at h
        · next v' hv =>
          cases h
          exact .inr hv
        · cases h
    · rw [if_neg h2] at h
      split at h
      · cases h
      · cases h
        obtain hs | ⟨v, hs⟩ := hs <;> cases hs

theorem Outcome.verdict_readable {body : Bytes} {v : Json} (h : Json.ofBody? body = some v) :
    (Outcome.response 200 body).verdict? = some (.ok v) := by
  have hne : body ≠ [] := by
    rintro rfl
    cases Json.ofBody?_nil.symm.trans h
  unfold verdict?
  dsimp only
  rw [if_pos rfl, if_neg hne, h]

/-- What an answer that is read may be: nothing, or what the service shows of the node. -/
def ReadsAs (node : Option Json) (r : Except Error Json) : Prop :=
  ∀ v, r = .ok v → v = .null ∨ Shows node v

variable {ω T : Type}

/-- A connection to a service that keeps the tree of a user. -/
structure Link.Keeps (link : Link ω T) (user : String) (tree : ω → Json) : Prop where
  send : ∀ q w, q.user = user → Serves q (tree w) (link.send q w).1 (tree (link.send q w).2)
  sleep : ∀ t w, tree (link.sleep t w) = tree w

variable {link : Link ω T} {user : String} {tree : ω → Json} [TimeScale T]

theorem tryAll_cons_some {q : Request} {w w' : ω} {o : Outcome}
    (hs : link.send q w = (o, w')) {r : Except Error Json} (hv : o.verdict? = some r) (pause : Int)
    (pauses : List Int) : Client.tryAll link q (pause :: pauses) w = (r, w') := by
  rw [Client.tryAll, hs]
  dsimp only
  rw [hv]

theorem tryAll_cons_none {q : Request} {w w' : ω} {o : Outcome} (hs : link.send q w = (o, w'))
    (hv : o.verdict? = none) (pause : Int) (pauses : List Int) :
    Client.tryAll link q (pause :: pauses) w =
      Client.tryAll link q pauses (link.sleep (TimeScale.ofMillis pause) w') := by
  rw [Client.tryAll, hs]
  dsimp only
  rw [hv]

/-- A request that is settled by one of its tries has been carried out. -/
theorem tryAll_settled (hk : link.Keeps user tree) {q : Request} (hq : q.user = user)
    (pauses : List Int) (w : ω) (hs : Settled (Client.tryAll link q pauses w).1) :
    tree (Client.tryAll link q pauses w).2 = q.apply (tree w) ∧
      (q.method = .get →
        ReadsAs ((tree w).at? q.node) (Client.tryAll link q pauses w).1) := by
  induction pauses generalizing w with
  | nil =>
    obtain hs | ⟨v, hs⟩ := hs <;> cases hs
  | cons pause pauses ih =>
    have hv := hk.send q w hq
    cases hsend : link.send q w with
    | mk o w' =>
      rw [hsend] at hv
      dsimp only at hv
      cases ho : o.verdict? with
      | some r =>
        rw [tryAll_cons_some hsend ho] at hs ⊢
        obtain ⟨body, rfl, hr⟩ := Outcome.verdict_settled ho hs
        refine ⟨hv.done body rfl, fun hg v hv' => ?_⟩
        obtain hn | hb := hr v hv'
        · exact .inl hn
        · exact .inr (hv.shown hg body v rfl hb)
      | none =>
        rw [tryAll_cons_none hsend ho] at hs ⊢
        obtain ⟨ht, hg⟩ := ih _ hs
        rw [hk.sleep] at ht hg
        -- The try that failed has been carried out or not; the next one makes no difference to it.
        obtain hb | hb := hv.once
        · rw [hb] at ht hg
          exact ⟨ht, hg⟩
        · rw [hb] at ht hg
          refine ⟨ht.trans (q.apply_apply _), fun hm => ?_⟩
          have ha : q.apply (tree w) = tree w := by
            unfold Request.apply
            rw [hm]
          have hread := hg hm
          rwa [ha] at hread

/-- A free slot is taken at once. -/
theorem acquire_free {c : Clock ω T} {l : Limiter T} {w : ω}
    (h : TimeScale.lt TimeScale.zero ((l.expire (c.now w)).delay (c.now w)) = false)
    (timeout : Option T) (naps : Nat) (waited : T) :
    Limiter.acquire c timeout naps waited l w =
      (.granted, (l.expire (c.now w)).grant (c.now w), w) := by
  unfold Limiter.acquire
  dsimp only
  rw [h]
  rfl

/-- Waiting for a slot keeps whatever sleeping keeps. -/
theorem acquire_keeps {c : Clock ω T} {P : ω → Prop} (hc : ∀ t w, P w → P (c.sleep t w))
    (timeout : Option T) (naps : Nat) (waited : T) (l : Limiter T) {w : ω} (h : P w) :
    P (Limiter.acquire c timeout naps waited l w).2.2 := by
  induction naps generalizing waited l w with
  | zero =>
    unfold Limiter.acquire
    dsimp only
    split
    · exact h
    · split <;> exact h
  | succ naps ih =>
    unfold Limiter.acquire
    dsimp only
    split
    · exact h
    · split
      · exact h
      · exact ih _ _ (hc _ _ h)

/-- A call fails before anything is sent, or its request is tried after some sleep. -/
theorem ask_cases {P : ω → Prop} (hp : ∀ t w, P w → P (link.sleep t w)) (method : Method)
    (node : List String) (body : Int → Option Json) (c : Client T) {w : ω} (h : P w) :
    (∃ e, (c.ask link method node body w).1 = .error e ∧
        (e = .limited ∨ ∃ r, link.millis w = .error r ∧ e = .clock r) ∧
        P (c.ask link method node body w).2.2) ∨
      ∃ now w', P w' ∧
        (c.ask link method node body w).1 =
          (Client.tryAll link (c.request method node (body now)) Client.pauses w').1 ∧
        (c.ask link method node body w).2.2 =
          (Client.tryAll link (c.request method node (body now)) Client.pauses w').2 := by
  unfold Client.ask
  cases hm : link.millis w with
  | error r => exact .inl ⟨_, rfl, .inr ⟨r, rfl, rfl⟩, h⟩
  | ok now =>
    have hkept := acquire_keeps (c := link.toClock) hp
      (some (TimeScale.ofMillis Client.slotTimeout)) Client.slotNaps TimeScale.zero c.limiter h
    dsimp only
    generalize Limiter.acquire link.toClock (some (TimeScale.ofMillis Client.slotTimeout))
      Client.slotNaps TimeScale.zero c.limiter w = a at hkept
    obtain ⟨got, l, w'⟩ := a
    cases got with
    | granted => exact .inr ⟨now, w', hkept, rfl, rfl⟩
    | refused => exact .inl ⟨_, rfl, .inl rfl, hkept⟩
    | tired => exact .inl ⟨_, rfl, .inl rfl, hkept⟩

/-- The request of a call that is settled has been tried. -/
theorem ask_tried {P : ω → Prop} (hp : ∀ t w, P w → P (link.sleep t w)) {method : Method}
    {node : List String} {body : Int → Option Json} {c : Client T} {w : ω} (h : P w)
    (hs : Settled (c.ask link method node body w).1) :
    ∃ now w', P w' ∧
      (c.ask link method node body w).1 =
        (Client.tryAll link (c.request method node (body now)) Client.pauses w').1 ∧
      (c.ask link method node body w).2.2 =
        (Client.tryAll link (c.request method node (body now)) Client.pauses w').2 := by
  obtain ⟨e, he, hcase, -⟩ | ht := ask_cases hp method node body c h
  · rw [he] at hs
    obtain hs | ⟨v, hs⟩ := hs
    · cases hs
      obtain hcase | ⟨r, -, hcase⟩ := hcase <;> cases hcase
    · cases hs
  · exact ht

/-- A call that is settled has been carried out. -/
theorem ask_settled (hk : link.Keeps user tree) {method : Method} {node : List String}
    {body : Int → Option Json} {c : Client T} (hc : c.user = user) {w : ω}
    (hs : Settled (c.ask link method node body w).1) :
    (∃ now, tree (c.ask link method node body w).2.2 =
        (c.request method node (body now)).apply (tree w)) ∧
      (method = .get → ReadsAs ((tree w).at? node) (c.ask link method node body w).1) := by
  obtain ⟨now, w', hw, hr, hw'⟩ :=
    ask_tried (P := fun v => tree v = tree w) (fun t v h => (hk.sleep t v).trans h) rfl hs
  have hq : (c.request method node (body now)).user = user := hc
  rw [hr] at hs ⊢
  rw [hw', ← hw]
  obtain ⟨ht, hg⟩ := tryAll_settled hk hq Client.pauses w' hs
  exact ⟨⟨now, ht⟩, hg⟩

theorem ask_user (link : Link ω T) (method : Method) (node : List String) (body : Int → Option Json)
    (c : Client T) (w : ω) : (c.ask link method node body w).2.1.user = c.user := by
  unfold Client.ask
  split
  · rfl
  · split <;> rfl

omit [TimeScale T] in
theorem request_apply (c : Client T) (k : Command) (now : Int) (t : Json) :
    (c.request k.method k.node (k.body now)).apply t = k.apply now t := by
  cases k <;> rfl

/-- Whether all calls are settled that a client makes to tell of changes. -/
def Client.settlesAll (link : Link ω T) : List Command → Client T → ω → Bool
  | [], _, _ => true
  | k :: ks, c, w =>
    let (r, c, w) := c.ask link k.method k.node k.body w
    decide (Settled r) && settlesAll link ks c w

/-- Whether the call is settled that a client makes to fetch the calculations. -/
def Client.settlesFetch (link : Link ω T) (c : Client T) (w : ω) : Bool :=
  decide (Settled (c.ask link .get ["calculation_history"] (fun _ => none) w).1)

variable {links : Nat → Link ω T} {n : Nat} {c : Client T} {w : ω}

theorem attempt_settled {k : Command} (hs : Settled (c.ask (links n) k.method k.node k.body w).1) :
    (Client.copy links).attempt k (some (c, n), w) =
      (.ok (), some ((c.ask (links n) k.method k.node k.body w).2.1, n),
        (c.ask (links n) k.method k.node k.body w).2.2) := by
  unfold Copy.attempt Client.copy Client.send
  dsimp only
  generalize c.ask (links n) k.method k.node k.body w = a at hs
  obtain ⟨r, c', w'⟩ := a
  obtain hs | ⟨v, hs⟩ := hs
  all_goals
    dsimp only at hs
    subst hs
    rfl

/-- Changes that are told by settled calls have been carried out, each of them once. -/
theorem attemptAll_settled (hk : (links n).Keeps user tree) (hc : c.user = user)
    {ks : List Command} (hs : c.settlesAll (links n) ks w = true) :
    ∃ c' w', (Client.copy links).attemptAll ks (some (c, n), w) = (.ok (), some (c', n), w') ∧
      c'.user = user ∧ Carried ks (tree w) (tree w') := by
  induction ks generalizing c w with
  | nil => exact ⟨c, w, rfl, hc, .nil _⟩
  | cons k ks ih =>
    unfold Client.settlesAll at hs
    obtain ⟨hk', hs⟩ := Bool.and_eq_true_iff.1 hs
    have hset := of_decide_eq_true hk'
    obtain ⟨⟨now, ht⟩, -⟩ := ask_settled hk hc hset
    -- The first change is in the tree when the next one is told.
    obtain ⟨c', w', ha, hc', hd⟩ := ih ((ask_user _ _ _ _ c w).trans hc) hs
    refine ⟨c', w', ?_, hc', .cons now ?_⟩
    · unfold Copy.attemptAll
      rw [attempt_settled hset]
      exact ha
    · rwa [← request_apply c, ← ht]

/-- Fetching is one call, whatever it gives. -/
theorem historyOrNone_state (links : Nat → Link ω T) (n : Nat) (c : Client T) (w : ω) :
    ((Client.copy links).historyOrNone (some (c, n), w)).2 =
      (some ((c.ask (links n) .get ["calculation_history"] (fun _ => none) w).2.1, n),
        (c.ask (links n) .get ["calculation_history"] (fun _ => none) w).2.2) := by
  unfold Copy.historyOrNone Client.copy Client.fetchHistory
  dsimp only
  split
  · next h =>
    obtain ⟨-, rfl⟩ := Prod.mk.inj h
    rfl
  · rfl

end Remote

end CovertVault
