import CovertVault.Proofs.App.Effects
import CovertVault.Proofs.Remote.Service
import CovertVault.Surroundings

namespace CovertVault

namespace Remote

/-- What can come of a request over a network: any answer, or a failure on the way. -/
def Outcome.isOrdinary : Outcome → Bool
  | .response .. | .fault (.transport _) | .fault (.decoding _) | .fault (.redirects _) => true
  | .fault _ => false

/-- Not a failure, or one that is passed over. -/
def Passes {α : Type} (r : Except Error α) : Prop := ∀ e, r = .error e → e.ignorable = true

theorem passes_ok {α : Type} (a : α) : Passes (.ok a) := by
  intro e h
  cases h

theorem passes_error {α : Type} {e : Error} (h : e.ignorable = true) :
    Passes (.error e : Except Error α) := by
  intro e' he
  cases he
  exact h

/-- Whatever the status and the body of an answer are. -/
theorem Outcome.verdict_passes {o : Outcome} (ho : o.isOrdinary = true) {r : Except Error Json}
    (h : o.verdict? = some r) : Passes r := by
  cases o with
  | response status body =>
    unfold verdict? at h
    dsimp only at h
    split at h
    · split at h
      · cases h
        exact passes_ok _
      · split at h
        · cases h
          exact passes_ok _
        · cases h
          exact passes_error rfl
    · split at h
      · cases h
      · cases h
        exact passes_error rfl
  | fault f =>
    cases f with
    | transport => cases h
    | decoding | redirects =>
      cases h
      exact passes_error rfl
    | _ => cases ho

variable {ω T : Type}

/-- A connection over which only such outcomes come back, and a clock that can be read, as long as
a condition holds, which lasts. -/
structure Link.Ordinary (link : Link ω T) (P : ω → Prop) : Prop where
  millis : ∀ w, P w → ∃ now, link.millis w = .ok now
  outcome : ∀ q w, P w → (link.send q w).1.isOrdinary = true
  send : ∀ q w, P w → P (link.send q w).2
  sleep : ∀ t w, P w → P (link.sleep t w)

variable {link : Link ω T} {P : ω → Prop} {w : ω} [TimeScale T]

theorem tryAll_passes (ho : link.Ordinary P) (q : Request) (pauses : List Int) (h : P w) :
    Passes (Client.tryAll link q pauses w).1 ∧ P (Client.tryAll link q pauses w).2 := by
  induction pauses generalizing w with
  | nil => exact ⟨passes_error rfl, h⟩
  | cons pause pauses ih =>
    have hout := ho.outcome q w h
    have hsend := ho.send q w h
    cases hs : link.send q w with
    | mk o w' =>
      rw [hs] at hout hsend
      cases hv : o.verdict? with
      | some r =>
        rw [tryAll_cons_some hs hv]
        exact ⟨Outcome.verdict_passes hout hv, hsend⟩
      | none =>
        rw [tryAll_cons_none hs hv]
        exact ih (ho.sleep _ _ hsend)

/-- A call ends in an answer or in a failure that is passed over. -/
theorem ask_passes (ho : link.Ordinary P) (method : Method) (node : List String)
    (body : Int → Option Json) (c : Client T) (h : P w) :
    Passes (c.ask link method node body w).1 ∧ P (c.ask link method node body w).2.2 := by
  obtain ⟨e, he, hcase, hp⟩ | ⟨now, w', hw, hr, hw'⟩ :=
    ask_cases ho.sleep method node body c h
  · obtain ⟨now, hm⟩ := ho.millis w h
    rw [he]
    obtain rfl | ⟨r, hr, -⟩ := hcase
    · exact ⟨passes_error rfl, hp⟩
    · rw [hm] at hr
      cases hr
  · rw [hr, hw']
    exact tryAll_passes ho _ _ hw

/-- Over such a connection a change counts as carried out, whatever becomes of it. -/
theorem attempt_passes {links : Nat → Link ω T} {n : Nat} (ho : (links n).Ordinary P) (k : Command)
    (c : Client T) (h : P w) :
    ∃ c' w', (Client.copy links).attempt k (some (c, n), w) = (.ok (), some (c', n), w') ∧
      P w' := by
  obtain ⟨hr, hp⟩ := ask_passes ho k.method k.node k.body c h
  unfold Copy.attempt Client.copy Client.send
  dsimp only
  generalize c.ask (links n) k.method k.node k.body w = a at hr hp
  obtain ⟨r, c', w'⟩ := a
  refine ⟨c', w', ?_, hp⟩
  cases r with
  | error e => exact congrArg (·, some (c', n), w') (if_pos (hr e rfl))
  | ok v => rfl

/-- Surroundings in which requests come to given ends and then to none, and time stands still. -/
def scripted : Surroundings (List Outcome) Rat where
  now _ := 0
  sleep _ w := w
  millis _ := .ok 0
  send _ _ w := (w.headD (.fault (.transport "connection lost")), w.tail)
  stamp _ := .ok "2024-01-01 12:00:00"
  sealing _ := .error .tooLarge
  callBucket c w := (.error (.refused c.operation none), w)
  freshName w := ("", w)
  connect _ w := (0, w)
  disconnect _ w := w
  fileContent _ _ := .ok [104, 105]
  keepFile _ _ _ := .error .missing
  openDatabase _ _ := none
  useDatabase _ _ w := w
  holdsDatabase _ _ := true
  saveDatabase _ _ w := w

theorem scripted_ordinary : (scripted.link 0).Ordinary fun w => ∀ o ∈ w, o.isOrdinary = true where
  millis _ _ := ⟨0, rfl⟩
  outcome _ w h := by
    cases w with
    | nil => rfl
    | cons o w => exact h o List.mem_cons_self
  send _ _ h o ho := h o (List.mem_of_mem_tail ho)
  sleep _ _ h := h

/-- A client that has not called yet is answered with what comes first. -/
theorem ask_scripted {body : Bytes} {v : Json} (hread : Json.ofBody? body = some v)
    (user : String) (token : Option String) (node : List String) (rest : List Outcome) :
    (Client.ask (scripted.link 0) .get node (fun _ => none)
      ⟨user, token, ⟨10, TimeScale.ofMillis 1000, []⟩⟩ (.response 200 body :: rest)).1 = .ok v := by
  have hv := Outcome.verdict_readable hread
  have hs (q : Request) : (scripted.link 0).send q (.response 200 body :: rest) =
      (.response 200 body, rest) := rfl
  have hf : TimeScale.lt TimeScale.zero (Limiter.delay (Limiter.expire
      (⟨10, TimeScale.ofMillis 1000, []⟩ : Limiter Rat) 0) 0) = false := by decide +kernel
  have hm : (scripted.link 0).millis (.response 200 body :: rest) = .ok 0 := rfl
  unfold Client.ask
  rw [hm]
  dsimp only
  rw [acquire_free (c := (scripted.link 0).toClock) (w := .response 200 body :: rest) hf]
  unfold Client.pauses
  dsimp only
  rw [tryAll_cons_some (hs _) hv]

end Remote

namespace App

/-- An app with nothing in its store and nobody to tell. -/
def localApp : App Rat := ⟨Store.empty, none, .ofDigest none, none, none⟩

def sociableApp : App Rat :=
  { localApp with remote := some (⟨"u", none, ⟨10, Remote.TimeScale.ofMillis 1000, []⟩⟩, 0) }

end App

end CovertVault
