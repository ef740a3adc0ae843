import CovertVault.Proofs.Pin.Canary
import CovertVault.Proofs.Outcome
import CovertVault.Proofs.Pin.Digest
import CovertVault.Proofs.Store.Ready
import CovertVault.Proofs.Text.Points
import CovertVault.Vault.Session

namespace CovertVault

/-- The secret that a PIN leaves in the store. -/
def Secret.ofPin (pin : String) : Secret := ⟨some (Pin.digest pin), some (Pin.canary pin), false⟩

/-- The secret of a new store. -/
def Secret.unset : Secret := ⟨none, none, true⟩

namespace Store

/-- A store that is ready, with a PIN in force. -/
structure Secures (p : String) (s : Store) : Prop where
  ready : s.Ready
  valid : Pin.isValid p = true
  secret : s.db.secret = .ofPin p

variable {s : Store} {p : String}

theorem Secures.withDatabase (h : s.Secures p) {db : Database} (hf : db.faults = s.db.faults)
    (hs : db.secret = s.db.secret) : (s.withDatabase db).Secures p :=
  ⟨h.ready.withDatabase hf, h.valid, hs.trans h.secret⟩

theorem Secures.pinDigest (h : s.Secures p) : s.pinDigest = .ok (some (Pin.digest p)) := by
  have hf : (some (Pin.digest p)).filter (· ≠ "") = some (Pin.digest p) := by
    simp [Option.filter, Pin.digest_ne_empty]
  rw [h.ready.pinDigest, h.secret]
  exact congrArg _ hf

theorem Secures.canary (h : s.Secures p) : s.canary = .ok (some (Pin.canary p)) := by
  rw [h.ready.canary, h.secret]
  rfl

theorem Secures.isFirstRun (h : s.Secures p) : s.isFirstRun = .ok false := by
  rw [h.ready.isFirstRun, h.secret]
  rfl

/-- The PIN in force is the only one, and no other text has its digest. -/
theorem Secures.verify (h : s.Secures p) {pin : String}
    (hd : Pin.digest pin = Pin.digest p → pin = p) :
    Pin.verify (some pin) (some (Pin.digest p)) = .ok (decide (pin = p)) := by
  rw [Pin.verify_digest]
  congr 1
  by_cases hp : pin = p
  · simp [hp, Pin.ne_empty_of_isValid h.valid]
  · simp [hp, mt hd hp]

end Store

namespace Vault
open Store

variable {store : Store} {p : String}

theorem checkNew_eq (new confirm : String) :
    checkNew new confirm =
      if Pin.isValid new = false then .error (.pin .malformed)
      else if new ≠ confirm then .error (.pin .unconfirmed)
      else .ok () := by
  unfold checkNew
  cases Pin.isValid new <;> rfl

theorem isValid_of_checkNew {new confirm : String} (h : checkNew new confirm = .ok ()) :
    Pin.isValid new = true := by
  rw [checkNew_eq] at h
  by_contra hv
  rw [if_pos (by simpa using hv)] at h
  cases h

/-- Only the PIN in force opens the vault. -/
theorem unlock_eq (h : store.Secures p) {pin : String}
    (hd : Pin.digest pin = Pin.digest p → pin = p) :
    Session.unlock pin store = if pin = p then .ok ⟨pin⟩ else .error (.mismatch .door) := by
  unfold Session.unlock
  rw [h.pinDigest]
  simp only [mapError_ok, ok_bind, h.verify hd]
  by_cases hp : pin = p <;> simp [hp]

namespace Session

/-- The checks in their order. The canary never fails behind the digest. -/
theorem checkChange_eq (h : store.Secures p) {current : String}
    (hd : Pin.digest current = Pin.digest p → current = p) (new confirm : String) :
    checkChange current new confirm store =
      if Pin.isValid new = false then .error (.pin .malformed)
      else if new ≠ confirm then .error (.pin .unconfirmed)
      else if current = "" then .error (.pin .noCurrent)
      else if current ≠ p then .error (.mismatch .digest)
      else if current = new then .error (.pin .unchanged)
      else .ok () := by
  unfold checkChange
  rw [checkNew_eq, h.pinDigest, h.canary]
  cases hv : Pin.isValid new with
  | false => rfl
  | true =>
    by_cases hc : new ≠ confirm
    · simp [hc]
    by_cases he : current = ""
    · simp [hc, he]
    by_cases hp : current = p
    · subst hp
      by_cases hn : current = new
      · subst hn
        simp [hc, he, h.verify hd]
      · simp [hc, he, hn, h.verify hd, Pin.checkCanary_canary]
    · simp [hc, he, hp, h.verify hd]

/-- What lets a new PIN take the place of the one in force: five digits, typed twice, by someone
who knows that PIN, and not the same again. -/
structure Admits (p current new confirm : String) : Prop where
  length : new.toList.length = 5
  digits : ∀ c ∈ new.toList, '0' ≤ c ∧ c ≤ '9'
  confirmed : confirm = new
  known : current = p
  fresh : new ≠ p

theorem checkChange_ok_iff (h : store.Secures p) {current : String}
    (hd : Pin.digest current = Pin.digest p → current = p) (new confirm : String) :
    checkChange current new confirm store = .ok () ↔ Admits p current new confirm := by
  rw [checkChange_eq h hd]
  constructor
  · intro hk
    split_ifs at hk with hv hc he hp hn
    obtain ⟨hl, hs⟩ := Pin.isValid_iff.1 (by simpa using hv)
    simp only [ne_eq, not_not] at hc hp
    exact ⟨hl, hs, hc.symm, hp, fun hq => hn (hp.trans hq.symm)⟩
  · rintro ⟨hl, hs, rfl, rfl, hn⟩
    have hv := Pin.isValid_iff.2 ⟨hl, hs⟩
    simp [hv, Pin.ne_empty_of_isValid h.valid, hn.symm]

theorem checkChange_error (h : store.Secures p) {current : String}
    (hd : Pin.digest current = Pin.digest p → current = p) {new confirm : String} {e : Error}
    (hk : checkChange current new confirm store = .error e) :
    (∃ x, e = .pin x) ∨ ∃ x, e = .mismatch x := by
  rw [checkChange_eq h hd] at hk
  split_ifs at hk <;> cases hk <;> simp

/-- A new PIN that is admitted takes every file along. -/
theorem changePin_of_admits (h : store.Secures p) {current new confirm : String}
    (ha : Admits p current new confirm) (s : Session) :
    s.changePin current new confirm store =
      (.ok store.db.files.length, ⟨new⟩, store.withSecret (.ofPin new) (rekeyed p new)) := by
  have hk := (checkChange_ok_iff h (fun _ => ha.known) new confirm).2 ha
  have hr := h.ready.rekeyFiles (rekeyed current new) (some (Pin.digest new))
    (some (Pin.canary new))
  unfold changePin
  rw [hk]
  dsimp only
  rw [hr, ha.known]
  rfl

/-- One that is not changes nothing. -/
theorem changePin_of_not_admits (h : store.Secures p) {current : String}
    (hd : Pin.digest current = Pin.digest p → current = p) {new confirm : String}
    (ha : ¬ Admits p current new confirm) (s : Session) :
    ∃ e, s.changePin current new confirm store = (.error e, s, store) ∧
      ((∃ x, e = .pin x) ∨ ∃ x, e = .mismatch x) := by
  unfold changePin
  cases hk : checkChange current new confirm store with
  | ok => exact absurd ((checkChange_ok_iff h hd new confirm).1 hk) ha
  | error e => exact ⟨e, rfl, checkChange_error h hd hk⟩

/-- The same of texts as they were typed in, one of which may have no UTF-8 form. -/
structure AdmitsTyped (p : String) (current new confirm : List Text.Point) : Prop where
  length : new.length = 5
  digits : ∀ x ∈ new, ∃ c, x = .char c ∧ '0' ≤ c ∧ c ≤ '9'
  confirmed : confirm = new
  known : current = Text.points p
  fresh : new ≠ Text.points p

theorem admitsTyped_points {current new confirm : String} :
    AdmitsTyped p (Text.points current) (Text.points new) (Text.points confirm) ↔
      Admits p current new confirm := by
  have hl : (Text.points new).length = new.toList.length := List.length_map _
  have hd : (∀ x ∈ Text.points new, ∃ c, x = Text.Point.char c ∧ '0' ≤ c ∧ c ≤ '9') ↔
      ∀ c ∈ new.toList, '0' ≤ c ∧ c ≤ '9' := by
    simp [Text.points]
  constructor
  · intro h
    exact ⟨hl ▸ h.length, hd.1 h.digits, Text.points_injective h.confirmed,
      Text.points_injective h.known, fun hp => h.fresh (congrArg _ hp)⟩
  · intro h
    exact ⟨hl ▸ h.length, hd.2 h.digits, congrArg _ h.confirmed, congrArg _ h.known,
      fun hp => h.fresh (Text.points_injective hp)⟩

/-- Five digits are a text. -/
theorem AdmitsTyped.eq_points {current new confirm : List Text.Point}
    (h : AdmitsTyped p current new confirm) : ∃ pin, new = Text.points pin := by
  have hchars : new = (new.map Text.Point.charOrReplacement).map Text.Point.char := by
    rw [List.map_map]
    refine (List.map_id _).symm.trans (List.map_congr_left fun x hx => ?_)
    obtain ⟨c, rfl, -⟩ := h.digits x hx
    rfl
  refine ⟨String.ofList (new.map Text.Point.charOrReplacement), ?_⟩
  rw [Text.points, String.toList_ofList]
  exact hchars

/-- What fails of texts before they are compared with anything: a new PIN that is not taken, or a
current one that has no UTF-8 form. -/
theorem readTyped_error (h : store.Secures p) {current new confirm : List Text.Point} {e : Error}
    (hr : readTyped current new confirm store = .error e) :
    (∃ x, e = .pin x) ∨ ∃ x, Text.encodable current = .error x ∧ e = .unencodable x := by
  unfold readTyped at hr
  split at hr
  · cases hr
    exact .inl ⟨_, rfl⟩
  · cases hr
    exact .inl ⟨_, rfl⟩
  · next new confirm u _ _ hu =>
    rw [checkNew_eq, h.pinDigest] at hr
    split_ifs at hr
    · cases hr
      exact .inl ⟨_, rfl⟩
    · cases hr
      exact .inl ⟨_, rfl⟩
    · cases hr
      exact .inr ⟨u, hu, rfl⟩
  · cases hr

theorem readTyped_eq_ok {current new confirm : List Text.Point} {c n k : String}
    (hr : readTyped current new confirm store = .ok (c, n, k)) :
    current = Text.points c ∧ new = Text.points n ∧ confirm = Text.points k := by
  unfold readTyped at hr
  split at hr
  · cases hr
  · cases hr
  · obtain ⟨-, -, hr⟩ := bind_eq_ok hr
    obtain ⟨d, -, hr⟩ := bind_eq_ok hr
    cases d <;> cases hr
  · next hn hk hc =>
    cases hr
    exact ⟨Text.eq_points_of_encodable hc, Text.eq_points_of_encodable hn,
      Text.eq_points_of_encodable hk⟩

theorem readTyped_points (current new confirm : String) (store : Store) :
    readTyped (Text.points current) (Text.points new) (Text.points confirm) store =
      .ok (current, new, confirm) := by
  unfold readTyped
  rw [Text.encodable_points, Text.encodable_points, Text.encodable_points]

end Session

end Vault

end CovertVault
