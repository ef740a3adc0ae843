import CovertVault.Proofs.App.Fetching
import CovertVault.Proofs.App.Lockstep
import CovertVault.Proofs.Remote.Showing

namespace CovertVault

theorem Store.Ready.deleteHistory {s : Store} (hs : s.Ready) {id : Int}
    (hf : fitsColumn id = true) :
    s.deleteHistory id = .ok (s.removeCalculation id) := by
  unfold Store.deleteHistory
  rw [hs.guard, hs.allow]
  simp only [List.all_cons, List.all_nil, hf, Bool.and_self, if_true]
  split <;> rfl

namespace App
open Remote

variable {ω T : Type} [TimeScale T] {env : Surroundings ω T} {site : Site ω} {t : Json}
  {s : App T × ω}

/-- A fetch that is answered leaves the tree alone, and gives what is in it. -/
theorem Faces.remoteHistory (ha : Attached env site)
    (hl : (env.link site.connection).Readable site.user) (h : Faces site t s)
    (hs : settlesFetch env s = true) :
    Faces site t (remoteHistory env s).2 ∧ ∀ records, (remoteHistory env s).1 = .ok records →
      ∀ r, r ∈ records ↔ ∃ key, Entered t key r := by
  obtain ⟨app, w⟩ := s
  obtain ⟨c, hr, hu, rfl⟩ := h
  dsimp only at hr hu
  have hset : Settled (c.ask (env.link site.connection) .get ["calculation_history"]
      (fun _ => none) w).1 := by
    unfold settlesFetch at hs
    simp only [hr] at hs
    exact of_decide_eq_true hs
  obtain ⟨⟨now, ht⟩, -⟩ := ask_settled ha.keeps hu hset
  obtain ⟨v, hv, hshow⟩ := ask_shown ha.keeps hl hu hset
  have hp : Passes (c.ask (env.link site.connection) .get ["calculation_history"]
      (fun _ => none) w).1 := by
    rw [hv]
    exact passes_ok v
  have hanswer : ((Client.copy env.link).historyOrNone (some (c, site.connection), w)).1 = _ :=
    historyOrNone_answered hp
  have hstate := historyOrNone_state env.link site.connection c w
  have huser := ask_user (env.link site.connection) .get ["calculation_history"]
    (fun _ => none) c w
  rw [hv] at hanswer
  unfold App.remoteHistory
  dsimp only
  rw [hr]
  generalize (Client.copy env.link).historyOrNone (some (c, site.connection), w) = x
    at hanswer hstate
  obtain ⟨r, x⟩ := x
  dsimp only at hanswer hstate
  subst hstate
  refine ⟨⟨_, rfl, huser.trans hu, ht⟩, fun records ho => ?_⟩
  dsimp only at ho
  rw [hanswer] at ho
  exact mem_shownHistory_iff_entered hshow (mapError_eq_ok (mapError_eq_ok ho))

theorem Faces.syncHistory (ha : Attached env site)
    (hl : (env.link site.connection).Readable site.user) (h : Faces site t s)
    (hs : settlesFetch env s = true) : Faces site t (syncHistory env s).2 := by
  have hf := (h.remoteHistory ha hl hs).1
  unfold App.syncHistory andThen
  generalize App.remoteHistory env s = x at hf
  obtain ⟨r, app, w⟩ := x
  cases r with
  | error e => exact hf
  | ok records =>
    dsimp only
    split
    · exact hf
    · exact hf.onStore ha _

/-- A sync that gives a count has merged what is in the tree. -/
theorem Faces.syncHistory_ok (ha : Attached env site)
    (hl : (env.link site.connection).Readable site.user) (h : Faces site t s)
    (hs : settlesFetch env s = true) {n : Nat} (hn : (App.syncHistory env s).1 = .ok n) :
    ∃ records, (∀ r, r ∈ records ↔ ∃ key, Entered t key r) ∧
      (s.1.store.mergeRaw records (env.stamp (App.remoteHistory env s).2.2)).1 = .ok n ∧
      (App.syncHistory env s).2.1.store =
        (s.1.store.mergeRaw records (env.stamp (App.remoteHistory env s).2.2)).2 := by
  cases hr : (App.remoteHistory env s).1 with
  | error e =>
    rw [syncHistory_error hr] at hn
    cases hn
  | ok records =>
    rw [App.syncHistory_ok hr] at hn
    exact ⟨records, (h.remoteHistory ha hl hs).2 records hr, mapError_eq_ok hn,
      congrArg Prod.snd (outcome_syncHistory_ok hr)⟩

/-- A calculation is deleted from the store, and its id from the tree. -/
theorem Faces.deleteHistory (ha : Attached env site) (h : Faces site t s)
    (hready : s.1.store.Ready) {id : Int} (hf : Store.fitsColumn id = true)
    (hs : (Operation.deleteHistory id).settles env s = true) :
    (App.deleteHistory env id s).2.1.store = s.1.store.removeCalculation id ∧
      Faces site (Json.remove ["calculation_history", idKey id] t)
        (App.deleteHistory env id s).2 := by
  have hw : ((s.1.store.deleteHistory id).map ((), ·)).mapError Failure.store =
      .ok ((), s.1.store.removeCalculation id) := by
    rw [hready.deleteHistory hf]
    rfl
  have ho : outcome (dropHistory env id s) = (.ok (), s.1.store.removeCalculation id) :=
    change_ok env hw
  have hd : Faces site t (dropHistory env id s).2 := h.onStore ha _
  have hset : settlesAfter env (dropHistory env id) (fun () => [.deleteHistory id]) s = true := hs
  have hdelete : App.deleteHistory env id =
      andThen (dropHistory env id) fun () => App.tell env [.deleteHistory id] () := rfl
  rw [hdelete]
  unfold andThen
  unfold settlesAfter at hset
  generalize dropHistory env id s = x at ho hd hset
  obtain ⟨r, s'⟩ := x
  obtain ⟨rfl, hstore⟩ := Prod.mk.inj ho
  obtain ⟨-, u, hu, hc⟩ := hd.tell ha hset ()
  obtain ⟨now, rfl⟩ := hc.single
  exact ⟨(tell_outcome env _ () s').2.trans hstore, hu⟩

theorem entered_remove {key : String} {r : RawRecord} {id : Int} :
    Entered (Json.remove ["calculation_history", idKey id] t) key r ↔
      Entered t key r ∧ key ≠ idKey id := by
  unfold Entered
  rw [Json.at?_remove_member]
  by_cases hk : key = idKey id <;> simp [hk]

/-- After the deletion of the only row with its texts, nothing in the store has them, and the tree
has lost what lay under the id. -/
theorem Faces.deleteOnly (ha : Attached env site) (h : Faces site t s) (ho : s.1.store.Orderly)
    {row : HistoryRecord} (hrow : row ∈ s.1.store.db.history)
    (honly : ∀ q ∈ s.1.store.db.history, q.mergeKey = row.mergeKey → q = row)
    (hs : (Operation.deleteHistory row.id).settles env s = true) :
    (App.deleteHistory env row.id s).2.1.store.Orderly ∧
      (∀ q ∈ (App.deleteHistory env row.id s).2.1.store.db.history, q.mergeKey ≠ row.mergeKey) ∧
      Faces site (Json.remove ["calculation_history", idKey row.id] t)
        (App.deleteHistory env row.id s).2 := by
  obtain ⟨hstore, hf⟩ := h.deleteHistory ha ho.ready (ho.history.fits row hrow) hs
  rw [hstore]
  refine ⟨ho.removeCalculation row.id, fun q hq hk => ?_, hf⟩
  obtain ⟨hq, hid⟩ := List.mem_filter.1 hq
  obtain rfl := honly q hq hk
  simp at hid

/-- A sync after that brings the calculation back exactly if the tree has it under another key. -/
theorem Faces.syncHistory_gone_iff (ha : Attached env site)
    (hl : (env.link site.connection).Readable site.user) {id : Int}
    (h : Faces site (Json.remove ["calculation_history", idKey id] t) s)
    (ho : s.1.store.Orderly) (hs : settlesFetch env s = true) {m : Nat}
    (hm : (App.syncHistory env s).1 = .ok m) {row : HistoryRecord}
    (hgone : ∀ q ∈ s.1.store.db.history, q.mergeKey ≠ row.mergeKey) :
    (∃ q ∈ (App.syncHistory env s).2.1.store.db.history, q.mergeKey = row.mergeKey) ↔
      ∃ key h, key ≠ idKey id ∧ Entered t key (.ofRecord h) ∧
        Store.CameOf (env.stamp (App.remoteHistory env s).2.2) h row := by
  obtain ⟨records, hrecords, hcount, hstore⟩ := h.syncHistory_ok ha hl hs hm
  rw [hstore, ho.exists_mergeRaw_iff hcount hgone]
  simp only [hrecords, entered_remove]
  constructor
  · rintro ⟨h, ⟨key, he, hk⟩, hc⟩
    exact ⟨key, h, hk, he, hc⟩
  · rintro ⟨key, h, hk, he, hc⟩
    exact ⟨h, ⟨key, he, hk⟩, hc⟩

/-- A calculation is taken in, deleted, and looked for once more. It comes back exactly if the copy
has it under another key than its id, or has it without a time and the time is the same again; and
the copy loses what it has under this id, and nothing else. -/
theorem deleteHistory_between_syncs (ha : Attached env site)
    (hl : (env.link site.connection).Readable site.user) (h : Faces site t s)
    (ho : s.1.store.Orderly) {row : HistoryRecord} {n m : Nat}
    (hs : settles env [.syncHistory, .deleteHistory row.id, .syncHistory] s = true)
    (hn : (syncHistory env s).1 = .ok n)
    (hrow : row ∈ (syncHistory env s).2.1.store.db.history)
    (honly : ∀ q ∈ (syncHistory env s).2.1.store.db.history, q.mergeKey = row.mergeKey → q = row)
    (hm : (syncHistory env (deleteHistory env row.id (syncHistory env s).2).2).1 = .ok m) :
    let s' := (deleteHistory env row.id (syncHistory env s).2).2
    ((∃ q ∈ (syncHistory env s').2.1.store.db.history, q.mergeKey = row.mergeKey) ↔
      ∃ key h, key ≠ idKey row.id ∧ Entered t key (.ofRecord h) ∧
        Store.CameOf (env.stamp (remoteHistory env s').2.2) h row) ∧
    (∀ key r, Entered (site.tree (syncHistory env s').2.2) key r ↔
      Entered t key r ∧ key ≠ idKey row.id) ∧
    ((∀ key r, Entered t key r → ¬ Store.Retells [row] r →
        Entered (site.tree (syncHistory env s').2.2) key r) ↔
      ∀ r, Entered t (idKey row.id) r → Store.Retells [row] r) := by
  intro s'
  simp only [settles, Bool.and_eq_true] at hs
  obtain ⟨hfetch, hdelete, hagain, -⟩ := hs
  obtain ⟨records, -, -, hstore⟩ := h.syncHistory_ok ha hl hfetch hn
  have ho₁ : (syncHistory env s).2.1.store.Orderly := by
    rw [hstore]
    exact ho.mergeRaw (ha.stamp _) _
  obtain ⟨ho₂, hgone, hf⟩ :=
    (h.syncHistory ha hl hfetch).deleteOnly ha ho₁ hrow honly hdelete
  have htree : ∀ key r, Entered (site.tree (syncHistory env s').2.2) key r ↔
      Entered t key r ∧ key ≠ idKey row.id := by
    intro key r
    rw [(hf.syncHistory ha hl hagain).tree]
    exact entered_remove
  refine ⟨hf.syncHistory_gone_iff ha hl ho₂ hagain hm hgone, htree, ?_⟩
  simp only [htree]
  -- Nothing is removed but what lies under the local id.
  constructor
  · intro hkeep r he
    by_contra hr
    exact (hkeep _ r he hr).2 rfl
  · rintro hunder key r he hr
    refine ⟨he, ?_⟩
    rintro rfl
    exact hr (hunder r he)

theorem attached_nearby (user : String) : Attached Server.nearby ⟨0, user, Server.tree⟩ where
  keeps := Server.nearby_keeps user 0
  useDatabase _ _ _ := rfl
  callBucket _ _ := rfl
  stamp _ h := by simp [Server.nearby, Server.surroundings] at h

theorem readable_nearby (user : String) : (Server.nearby.link 0).Readable user :=
  fun _ _ _ _ hq hb => (Server.answer_get hq hb).2

def oldSum : HistoryRecord := ⟨1, "1+1", "2", "2023-01-01 00:00:00"⟩

def olderSum : HistoryRecord := ⟨2, "1+2", "3", "2022-01-01 00:00:00"⟩

/-- An app over a store, and a tree with a calculation under a key. -/
def meeting (store : Store) (key : String) (sum : HistoryRecord) : App Rat × Server :=
  ({ distantApp with store := store }, ⟨.obj [("calculation_history",
    .obj [(key, historyNode sum (.str sum.calculatedAt))])], 0, 0⟩)

/-- The same after a sync and the deletion of a calculation. -/
def parted (store : Store) (key : String) (sum : HistoryRecord) : App Rat × Server :=
  (deleteHistory Server.nearby oldSum.id (syncHistory Server.nearby (meeting store key sum)).2).2

/-- Under the key that is its id, a calculation stays deleted. -/
theorem oldSum_deleteHistory_between_syncs :
    settles Server.nearby [.syncHistory, .deleteHistory oldSum.id, .syncHistory]
        (meeting .empty "1" oldSum) = true ∧
      (syncHistory Server.nearby (meeting .empty "1" oldSum)).2.1.store.db.history = [oldSum] ∧
      ¬ ∃ q ∈ (syncHistory Server.nearby (parted .empty "1" oldSum)).2.1.store.db.history,
        q.mergeKey = oldSum.mergeKey := by
  have hs : settles Server.nearby [.syncHistory, .deleteHistory oldSum.id, .syncHistory]
      (meeting .empty "1" oldSum) = true := by decide +kernel
  have hn : (syncHistory Server.nearby (meeting .empty "1" oldSum)).1 = .ok 1 := by decide +kernel
  have hrows : (syncHistory Server.nearby (meeting .empty "1" oldSum)).2.1.store.db.history =
      [oldSum] := by decide +kernel
  have hm : (syncHistory Server.nearby (parted .empty "1" oldSum)).1 = .ok 0 := by
    decide +kernel
  have hf : Faces ⟨0, "u", Server.tree⟩ (meeting .empty "1" oldSum).2.tree
      (meeting .empty "1" oldSum) := ⟨_, rfl, rfl, rfl⟩
  have hrow : oldSum ∈
      (syncHistory Server.nearby (meeting .empty "1" oldSum)).2.1.store.db.history := by
    rw [hrows]
    exact List.mem_cons_self
  have honly : ∀ q ∈ (syncHistory Server.nearby (meeting .empty "1" oldSum)).2.1.store.db.history,
      q.mergeKey = oldSum.mergeKey → q = oldSum := by
    rw [hrows]
    exact fun q hq _ => List.mem_singleton.1 hq
  obtain ⟨hback, -⟩ := deleteHistory_between_syncs (attached_nearby "u") (readable_nearby "u") hf
    Store.orderly_empty hs hn hrow honly hm
  refine ⟨hs, hrows, fun hq => ?_⟩
  obtain ⟨key, h, hk, ⟨c, hc, -⟩, -⟩ := hback.1 hq
  have hkey : Json.field? [("1", historyNode oldSum (.str oldSum.calculatedAt))] key = some c := by
    rwa [← Json.at?_pair] at hc
  have hone : idKey oldSum.id = "1" := by decide +kernel
  rw [Json.field?_cons, if_neg (hone ▸ hk)] at hkey
  cases hkey

/-- Under another key it comes back, and another calculation under its id is lost. -/
theorem oldSum_comes_back :
    (syncHistory Server.nearby (parted .empty "5" oldSum)).2.1.store.db.history =
        [{ oldSum with id := 2 }] ∧
      ((parted (Store.empty.addCalculation oldSum) "1" olderSum).2.tree.at?
        ["calculation_history", "1"]).isNone = true := by
  decide +kernel

end App

end CovertVault
