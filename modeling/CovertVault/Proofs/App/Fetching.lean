import CovertVault.App.Opening
import CovertVault.Proofs.Remote.Showing

namespace CovertVault

namespace App
open Remote

variable {ω T : Type} [TimeScale T] (env : Surroundings ω T)

/-- An app whose client, if it has one, meets nothing but answers and failures on the way. -/
def Asks (s : App T × ω) : Prop :=
  ∀ c n, s.1.remote = some (c, n) → ∃ P : ω → Prop, (env.link n).Ordinary P ∧ P s.2

/-- What the remote copy shows of its calculations; nothing when it is not there or fails. -/
def payload (s : App T × ω) : Json :=
  match s.1.remote with
  | none => .null
  | some (c, n) => answered (c.ask (env.link n) .get ["calculation_history"] (fun _ => none) s.2).1

variable {env} {s : App T × ω} {records : List RawRecord}

theorem remoteHistory_payload (h : Asks env s) :
    (remoteHistory env s).1 =
      (shownHistory (payload env s)).mapError fun e => .remote (.time e) := by
  obtain ⟨app, w⟩ := s
  unfold remoteHistory payload
  dsimp only
  cases hr : app.remote with
  | none =>
    dsimp only
    rw [shownHistory_nothing rfl]
    rfl
  | some client =>
    obtain ⟨c, n⟩ := client
    obtain ⟨P, ho, hp⟩ := h c n hr
    dsimp only
    rw [historyOrNone_answered (ask_passes ho _ _ _ c hp).1]
    cases shownHistory _ <;> rfl

theorem remoteHistory_ok (h : Asks env s) (hr : (remoteHistory env s).1 = .ok records) :
    shownHistory (payload env s) = .ok records := by
  rw [remoteHistory_payload h] at hr
  exact mapError_eq_ok hr

theorem remoteHistory_ok_iff (h : Asks env s) :
    (∃ records, (remoteHistory env s).1 = .ok records) ↔ Dated (payload env s) := by
  rw [remoteHistory_payload h, ← shownHistory_ok_iff]
  cases shownHistory (payload env s) <;> simp

theorem remoteHistory_store (s : App T × ω) : (remoteHistory env s).2.1.store = s.1.store := rfl

/-- What is fetched is merged. -/
theorem outcome_syncHistory_ok (hr : (remoteHistory env s).1 = .ok records) :
    outcome (syncHistory env s) =
      (((s.1.store.mergeRaw records (env.stamp (remoteHistory env s).2.2)).1.mapError mergeFailure),
        (s.1.store.mergeRaw records (env.stamp (remoteHistory env s).2.2)).2) := by
  have hs : (remoteHistory env s).2.1.store = s.1.store := remoteHistory_store s
  unfold syncHistory andThen
  generalize remoteHistory env s = t at hr hs
  obtain ⟨r, app, w⟩ := t
  dsimp only at hr hs
  subst hr
  dsimp only
  rw [← hs]
  split
  · next he =>
    subst he
    rfl
  · exact onStore_outcome env _ _

theorem syncHistory_ok (hr : (remoteHistory env s).1 = .ok records) :
    (syncHistory env s).1 = (s.1.store.mergeRaw records
      (env.stamp (remoteHistory env s).2.2)).1.mapError mergeFailure :=
  congrArg Prod.fst (outcome_syncHistory_ok hr)

theorem syncHistory_error {e : Failure} (hr : (remoteHistory env s).1 = .error e) :
    (syncHistory env s).1 = .error e := by
  unfold syncHistory andThen
  generalize remoteHistory env s = t at hr
  obtain ⟨r, t⟩ := t
  dsimp only at hr
  subst hr
  rfl

theorem whole_payload_iff (h : Asks env s) (hr : (remoteHistory env s).1 = .ok records) :
    Whole (payload env s) ↔ ∀ r ∈ records, ∃ h, r = .ofRecord h := by
  have hm (r : RawRecord) := mem_shownHistory (r := r) (remoteHistory_ok h hr)
  constructor
  · intro hw r hr
    obtain ⟨e, he, hread⟩ := (hm r).1 hr
    exact (Entry.whole_iff hread).1 (hw e he)
  · intro hw e he
    obtain ⟨r, hread⟩ := ((remoteHistory_ok_iff h).1 ⟨_, hr⟩).read he
    exact (Entry.whole_iff hread).2 (hw r ((hm r).2 ⟨e, he, hread⟩))

/-- A count is given only for calculations that can be dated and kept. -/
theorem payload_of_syncHistory_ok (h : Asks env s) {n : Nat} (hs : (syncHistory env s).1 = .ok n) :
    Dated (payload env s) ∧ Whole (payload env s) := by
  cases hr : (remoteHistory env s).1 with
  | error e =>
    rw [syncHistory_error hr] at hs
    cases hs
  | ok records =>
    refine ⟨(remoteHistory_ok_iff h).1 ⟨_, hr⟩, (whole_payload_iff h hr).2 fun r hmem => ?_⟩
    rw [syncHistory_ok hr] at hs
    obtain ⟨kept, hk, -, -⟩ := Store.mergeRaw_eq_ok (mapError_eq_ok hs) (List.ne_nil_of_mem hmem)
    obtain ⟨h, -, he⟩ := Store.exists_of_keepableFront hk hmem
    exact ⟨h, he⟩

/-- For such calculations only the store and its clock can fail. -/
theorem syncHistory_error_of_payload (h : Asks env s) (hd : Dated (payload env s))
    (hw : Whole (payload env s)) {e : Failure} (hs : (syncHistory env s).1 = .error e) :
    ∃ e', e = .store e' := by
  obtain ⟨records, hr⟩ := (remoteHistory_ok_iff h).2 hd
  rw [syncHistory_ok hr] at hs
  cases hm : (s.1.store.mergeRaw records (env.stamp (remoteHistory env s).2.2)).1 with
  | ok n =>
    rw [hm] at hs
    cases hs
  | error e' =>
    rw [hm] at hs
    cases hs
    cases e' with
    | store e' => exact ⟨e', rfl⟩
    | unencodable u =>
      obtain ⟨r, hmem, hn⟩ := Store.mergeRaw_unencodable hm
      obtain ⟨h', he⟩ := (whole_payload_iff h hr).1 hw r hmem
      exact absurd he (hn h')

theorem syncHistory_ok_of_payload (h : Asks env s) (hd : Dated (payload env s))
    (hw : Whole (payload env s)) (hs : s.1.store.Ready)
    (hroom : s.1.store.HasRoom (entries (payload env s)).length) {time : String}
    (hn : env.stamp (remoteHistory env s).2.2 = .ok time) :
    ∃ n, (syncHistory env s).1 = .ok n := by
  obtain ⟨records, hr⟩ := (remoteHistory_ok_iff h).2 hd
  rw [← length_shownHistory (remoteHistory_ok h hr)] at hroom
  obtain ⟨n, hm⟩ := hs.mergeRaw hroom hn ((whole_payload_iff h hr).1 hw)
  rw [syncHistory_ok hr, hm]
  exact ⟨n, rfl⟩

/-- Whatever a copy answers: its calculations are fetched unless one of them has a number for a time
that is none, each of them once and the latest first, and they are taken in unless the store or the
clock fails or a text cannot be kept. -/
theorem fetching_answers (h : Asks env s) :
    ((∃ records, (remoteHistory env s).1 = .ok records) ↔ Dated (payload env s)) ∧
    (∀ records, (remoteHistory env s).1 = .ok records → ∃ read,
      List.Forall₂ Entry.Tells (entries (payload env s)) read ∧ records = latestFirst read) ∧
    (∀ n, (syncHistory env s).1 = .ok n → Dated (payload env s) ∧ Whole (payload env s)) ∧
    (Dated (payload env s) → Whole (payload env s) →
      (∀ e, (syncHistory env s).1 = .error e → ∃ e', e = .store e') ∧
      (s.1.store.Ready → s.1.store.HasRoom (entries (payload env s)).length →
        (∃ time, env.stamp (remoteHistory env s).2.2 = .ok time) →
        ∃ n, (syncHistory env s).1 = .ok n)) := by
  refine ⟨remoteHistory_ok_iff h, fun records hr => ?_, fun n hs => payload_of_syncHistory_ok h hs,
    fun hd hw => ⟨fun e hs => syncHistory_error_of_payload h hd hw hs, ?_⟩⟩
  · obtain ⟨read, hf, he⟩ := shownHistory_ok (remoteHistory_ok h hr)
    exact ⟨read, hf.imp fun _ _ => Entry.tells_of_read, he⟩
  · rintro hs hroom ⟨time, hn⟩
    exact syncHistory_ok_of_payload h hd hw hs hroom hn

theorem asks_scripted {outcomes : List Outcome} (h : ∀ o ∈ outcomes, o.isOrdinary = true) :
    Asks scripted (sociableApp, outcomes) := by
  intro c n hc
  cases hc
  exact ⟨_, scripted_ordinary, h⟩

theorem payload_scripted {depth : Nat} {members : List (String × Json)}
    (hp : Json.Plain depth (.obj members)) (rest : List Outcome) :
    payload scripted (sociableApp, .response 200 (Bytes.utf8 (Json.obj members).write) :: rest) =
      .obj members := by
  exact congrArg answered (ask_scripted (Json.ofBody?_obj hp) "u" none _ rest)

def oddEntry (time : Json) : Json :=
  .obj [("expression", .str "1+1"), ("result", .str "2"), ("calculated_at", time)]

/-- Two calculations, one of them without a time, among children that are none. -/
def oddMembers : List (String × Json) :=
  [("1", oddEntry (.str "2024-01-01 09:00:00")), ("two", oddEntry .null), ("3", .arr [.null]),
    ("4", oddEntry (.bool true))]

theorem plain_oddMembers : Json.Plain 2 (.obj oddMembers) := by
  have he (time : Json) (ht : Json.Plain 0 time) : Json.Plain 1 (oddEntry time) := by
    refine .obj (by simp) fun p hp => ?_
    simp only [List.mem_cons, List.not_mem_nil, or_false] at hp
    obtain rfl | rfl | rfl := hp
    · exact .str 0 _
    · exact .str 0 _
    · exact ht
  refine .obj (by decide) fun p hp => ?_
  simp only [oddMembers, List.mem_cons, List.not_mem_nil, or_false] at hp
  obtain rfl | rfl | rfl | rfl := hp
  · exact he _ (.str 0 _)
  · exact he _ (.null 0)
  · exact .arr fun v hv => by
      obtain rfl := List.mem_singleton.1 hv
      exact .null 0
  · exact he _ (.bool 0 true)

theorem entries_oddMembers : entries (.obj oddMembers) =
    [⟨1, Text.points "1+1", Text.points "2", .str "2024-01-01 09:00:00"⟩,
      ⟨4, Text.points "1+1", Text.points "2", .bool true⟩] := by
  rfl

theorem oddMembers_fetching_answers :
    Asks scripted (sociableApp, [.response 200 (Bytes.utf8 (Json.obj oddMembers).write)]) ∧
      ∃ n, (syncHistory scripted
        (sociableApp, [.response 200 (Bytes.utf8 (Json.obj oddMembers).write)])).1 = .ok n := by
  have ha : Asks scripted (sociableApp, [.response 200 (Bytes.utf8 (Json.obj oddMembers).write)]) :=
    asks_scripted (by simp [Outcome.isOrdinary])
  have hp := payload_scripted plain_oddMembers []
  have hd : Dated (payload scripted
      (sociableApp, [.response 200 (Bytes.utf8 (Json.obj oddMembers).write)])) := by
    rw [hp]
    intro e he hn
    rw [entries_oddMembers] at he
    simp only [List.mem_cons, List.not_mem_nil, or_false] at he
    obtain rfl | rfl := he <;> cases hn
  have hw : Whole (payload scripted
      (sociableApp, [.response 200 (Bytes.utf8 (Json.obj oddMembers).write)])) := by
    rw [hp]
    intro e he
    rw [entries_oddMembers] at he
    simp only [List.mem_cons, List.not_mem_nil, or_false] at he
    obtain rfl | rfl := he
    · exact ⟨⟨_, rfl⟩, ⟨_, rfl⟩, fun p hp => ⟨_, (Option.some.inj hp).symm⟩⟩
    · exact ⟨⟨_, rfl⟩, ⟨_, rfl⟩, fun p hp => by cases hp⟩
  refine ⟨ha, ((fetching_answers ha).2.2.2 hd hw).2 Store.ready_empty ?_ ⟨_, rfl⟩⟩
  rw [hp, entries_oddMembers]
  intro i _ hi
  have hl : (Store.empty.db.lastHistory : Int) = 0 := rfl
  simp only [List.length_cons, List.length_nil] at hi
  simp only [sociableApp, localApp, hl, Store.fitsColumn, Bool.and_eq_true, decide_eq_true_eq]
  omega

/-- A number that is no time, and half of a surrogate pair in an expression. -/
def undatedBody : Bytes :=
  Bytes.utf8 "\x7b\"1\":\x7b\"expression\":\"1\",\"result\":\"1\",\"calculated_at\":NaN\x7d\x7d".toList

def halfPairBody : Bytes :=
  Bytes.utf8 "\x7b\"1\":\x7b\"expression\":\"\\ud800\",\"result\":\"1\"\x7d\x7d".toList

/-- Neither failure is one that is passed over. -/
theorem oddBodies_not_taken :
    (remoteHistory scripted (sociableApp, [.response 200 undatedBody])).1 =
        .error (.remote (.time .notANumber)) ∧
      (syncHistory scripted (sociableApp, [.response 200 halfPairBody])).1 =
        .error (.unencodable ⟨.utf8, [.half 0xd800], 0⟩) := by
  decide +kernel

end App

end CovertVault
