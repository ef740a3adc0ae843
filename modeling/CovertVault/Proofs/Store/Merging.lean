import CovertVault.Proofs.Store.Orderly
import Mathlib.Data.Set.List

namespace CovertVault

theorem RawRecord.encode_ofRecord (h : HistoryRecord) : (RawRecord.ofRecord h).encode = .ok h := by
  simp [RawRecord.encode, RawRecord.ofRecord, Text.encodable_points]

theorem RawRecord.encode_eq_ok {r : RawRecord} {h : HistoryRecord} :
    r.encode = .ok h ↔ r = .ofRecord h := by
  constructor
  · intro he
    unfold encode at he
    obtain ⟨e, hx, he⟩ := bind_eq_ok he
    obtain ⟨q, hq, he⟩ := bind_eq_ok he
    obtain ⟨t, ht, he⟩ := bind_eq_ok he
    cases he
    obtain ⟨id, expression, result, calculatedAt⟩ := r
    obtain rfl := Text.eq_points_of_encodable hx
    obtain rfl := Text.eq_points_of_encodable hq
    obtain rfl := Text.eq_points_of_encodable ht
    rfl
  · rintro rfl
    exact encode_ofRecord h

theorem RawRecord.ofRecord_injective : Function.Injective RawRecord.ofRecord := by
  intro h h' he
  have hk := congrArg encode he
  rw [encode_ofRecord, encode_ofRecord] at hk
  exact Except.ok.inj hk

namespace Store

variable {s t : Store} {now later : Time.Present} {h : HistoryRecord} {records : List HistoryRecord}
  {known known' : List (String × String × String)} {n : Nat}

/-- What the calculations of a store are known by. -/
def mergeKeys (s : Store) : List (String × String × String) := s.db.history.map (·.mergeKey)

/-- A row that came of a calculation: with the same texts, and the present for a missing time. -/
structure CameOf (now : Time.Present) (h row : HistoryRecord) : Prop where
  expression : row.expression = h.expression
  result : row.result = h.result
  time : timeOr (some h.calculatedAt) now = .ok row.calculatedAt

theorem timeOr_given {time : String} (ht : time ≠ "") (now : Time.Present) :
    timeOr (some time) now = .ok time := by
  simp [timeOr, Option.filter, ht]

theorem timeOr_missing (now : Time.Present) : timeOr (some "") now = now.mapError .time := rfl

theorem CameOf.calculatedAt_ne {row : HistoryRecord} (hc : CameOf now h row) (hn : now ≠ .ok "") :
    row.calculatedAt ≠ "" := by
  intro he
  have ht := hc.time
  rw [he] at ht
  by_cases hh : h.calculatedAt = ""
  · rw [hh, timeOr_missing] at ht
    exact hn (mapError_eq_ok ht)
  · rw [timeOr_given hh] at ht
    exact hh (Except.ok.inj ht)

theorem CameOf.mergeKey {row : HistoryRecord} (hc : CameOf now h row) (hh : h.calculatedAt ≠ "") :
    row.mergeKey = h.mergeKey := by
  have ht := hc.time
  rw [timeOr_given hh] at ht
  unfold HistoryRecord.mergeKey
  rw [hc.expression, hc.result, ← Except.ok.inj ht]

/-- Of calculations that are known by the same, the same rows may come. -/
theorem CameOf.congr {h' row : HistoryRecord} (hc : CameOf now h row)
    (hk : h'.mergeKey = h.mergeKey) : CameOf now h' row := by
  obtain ⟨he, hr⟩ := Prod.mk.inj hk
  obtain ⟨hr, ht⟩ := Prod.mk.inj hr
  exact ⟨hc.expression.trans he.symm, hc.result.trans hr.symm, ht ▸ hc.time⟩

theorem appendUnknown_cons_known (hk : h.mergeKey ∈ known) :
    appendUnknown now (h :: records) known s = appendUnknown now records known s := by
  rw [appendUnknown, if_pos (by simpa using hk)]

theorem appendUnknown_cons_error (hk : h.mergeKey ∉ known) {e : Error}
    (ha : s.appendHistory h.expression h.result (some h.calculatedAt) now = .error e) :
    appendUnknown now (h :: records) known s = (.error e, s) := by
  rw [appendUnknown, if_neg (by simpa using hk), ha]

theorem appendUnknown_cons_ok (hk : h.mergeKey ∉ known) {id : Int}
    (ha : s.appendHistory h.expression h.result (some h.calculatedAt) now = .ok (id, t)) :
    appendUnknown now (h :: records) known s =
      ((appendUnknown now records (h.mergeKey :: known) t).1.map (· + 1),
        (appendUnknown now records (h.mergeKey :: known) t).2) := by
  rw [appendUnknown, if_neg (by simpa using hk), ha]

theorem appendHistory_cameOf {id : Int}
    (ha : s.appendHistory h.expression h.result (some h.calculatedAt) now = .ok (id, t)) :
    ∃ row, CameOf now h row ∧ (row.id = s.db.lastHistory + 1 ∧ fitsColumn row.id = true) ∧
      t = s.addCalculation row := by
  obtain ⟨time, ht, hi, rfl⟩ := appendHistory_ok ha
  exact ⟨⟨id, h.expression, h.result, time⟩, ⟨rfl, rfl, ht⟩, hi, rfl⟩

/-- An invariant of stores that every new row keeps is kept by all of them together. -/
theorem appendUnknown_induction {P : Store → Prop} (hs : P s)
    (hp : ∀ s h row, P s → h ∈ records → h.mergeKey ∉ known → CameOf now h row →
      row.id = s.db.lastHistory + 1 → fitsColumn row.id = true → P (s.addCalculation row)) :
    P (appendUnknown now records known s).2 := by
  induction records generalizing known s with
  | nil => exact hs
  | cons h records ih =>
    by_cases hk : h.mergeKey ∈ known
    · rw [appendUnknown_cons_known hk]
      exact ih hs fun s q row hs hq => hp s q row hs (List.mem_cons_of_mem _ hq)
    · cases ha : s.appendHistory h.expression h.result (some h.calculatedAt) now with
      | error e =>
        rw [appendUnknown_cons_error hk ha]
        exact hs
      | ok p =>
        obtain ⟨id, u⟩ := p
        rw [appendUnknown_cons_ok hk ha]
        obtain ⟨row, hc, ⟨hi, hf⟩, rfl⟩ := appendHistory_cameOf ha
        refine ih (hp s h row hs List.mem_cons_self hk hc hi hf) fun s q row hs hq hn => ?_
        exact hp s q row hs (List.mem_cons_of_mem _ hq) fun hm => hn (List.mem_cons_of_mem _ hm)

/-- Rows stay as they are, in front of the new ones. -/
theorem history_prefix_appendUnknown :
    s.db.history <+: (appendUnknown now records known s).2.db.history := by
  apply appendUnknown_induction (P := fun t => s.db.history <+: t.db.history) (List.prefix_refl _)
  intro t _ row ht _ _ _ _ _
  exact ht.trans (List.prefix_append _ _)

theorem isOpen_appendUnknown : (appendUnknown now records known s).2.isOpen = s.isOpen :=
  appendUnknown_induction (P := fun t => t.isOpen = s.isOpen) rfl fun _ _ _ ht _ _ _ _ _ => ht

theorem mergeKeys_appendUnknown {k : String × String × String} (hk : k ∈ s.mergeKeys) :
    k ∈ (appendUnknown now records known s).2.mergeKeys :=
  List.map_subset _ history_prefix_appendUnknown.subset hk

/-- Every row was there, or came of a calculation that was not known. -/
theorem mem_appendUnknown {row : HistoryRecord}
    (hr : row ∈ (appendUnknown now records known s).2.db.history) :
    row ∈ s.db.history ∨ ∃ h ∈ records, h.mergeKey ∉ known ∧ CameOf now h row := by
  revert row
  apply appendUnknown_induction (P := fun t => ∀ row ∈ t.db.history, row ∈ s.db.history ∨
    ∃ h ∈ records, h.mergeKey ∉ known ∧ CameOf now h row)
  · exact fun row hr => .inl hr
  · intro t h row ht hh hk hc _ _ q hq
    obtain hq | hq := List.mem_append.1 hq
    · exact ht q hq
    · obtain rfl := List.mem_singleton.1 hq
      exact .inr ⟨h, hh, hk, hc⟩

/-- Once all have been taken in, each of them was known or has a row. -/
theorem exists_cameOf (ho : (appendUnknown now records known s).1 = .ok n) (hh : h ∈ records) :
    h.mergeKey ∈ known ∨ ∃ row ∈ (appendUnknown now records known s).2.db.history,
      CameOf now h row := by
  induction records generalizing known s n with
  | nil => cases hh
  | cons q records ih =>
    by_cases hk : q.mergeKey ∈ known
    · rw [appendUnknown_cons_known hk] at ho ⊢
      obtain rfl | hh := List.mem_cons.1 hh
      · exact .inl hk
      · exact ih ho hh
    · cases ha : s.appendHistory q.expression q.result (some q.calculatedAt) now with
      | error e =>
        rw [appendUnknown_cons_error hk ha] at ho
        cases ho
      | ok p =>
        obtain ⟨id, u⟩ := p
        rw [appendUnknown_cons_ok hk ha] at ho ⊢
        obtain ⟨m, ho, -⟩ := map_eq_ok ho
        obtain ⟨row, hc, -, rfl⟩ := appendHistory_cameOf ha
        have hrow : row ∈ (appendUnknown now records (q.mergeKey :: known)
            (s.addCalculation row)).2.db.history :=
          history_prefix_appendUnknown.subset
            (List.mem_append_right _ (List.mem_singleton.2 rfl))
        obtain rfl | hh := List.mem_cons.1 hh
        · exact .inr ⟨row, hrow, hc⟩
        · obtain hm | hm := ih ho hh
          · obtain he | hm := List.mem_cons.1 hm
            · exact .inr ⟨row, hrow, hc.congr he⟩
            · exact .inl hm
          · exact .inr hm

/-- Where nothing was added, all was known. -/
theorem mergeKey_mem_of_none (ho : (appendUnknown now records known s).1 = .ok 0)
    (hh : h ∈ records) : h.mergeKey ∈ known := by
  induction records with
  | nil => cases hh
  | cons q records ih =>
    by_cases hk : q.mergeKey ∈ known
    · rw [appendUnknown_cons_known hk] at ho
      obtain rfl | hh := List.mem_cons.1 hh
      · exact hk
      · exact ih ho hh
    · cases ha : s.appendHistory q.expression q.result (some q.calculatedAt) now with
      | error e =>
        rw [appendUnknown_cons_error hk ha] at ho
        cases ho
      | ok p =>
        rw [appendUnknown_cons_ok hk ha] at ho
        obtain ⟨m, -, hm⟩ := map_eq_ok ho
        cases hm

theorem appendUnknown_congr (hk : ∀ k, k ∈ known ↔ k ∈ known') :
    appendUnknown now records known s = appendUnknown now records known' s := by
  induction records generalizing known known' s with
  | nil => rfl
  | cons h records ih =>
    have hb : known.contains h.mergeKey = known'.contains h.mergeKey := by simp [hk]
    unfold appendUnknown
    rw [hb, ih hk]
    split
    · rfl
    · split
      · rfl
      · next id u _ =>
        have hk' : ∀ k, k ∈ h.mergeKey :: known ↔ k ∈ h.mergeKey :: known' := by simp [hk]
        rw [ih (s := u) hk']

/-- The present does not matter to a calculation with a time. -/
theorem appendHistory_given {expression result time : String} (ht : time ≠ "")
    (now later : Time.Present) (s : Store) :
    s.appendHistory expression result (some time) now =
      s.appendHistory expression result (some time) later := by
  unfold appendHistory
  rw [timeOr_given ht, timeOr_given ht]

/-- Calculations with times are taken in once, as far as they can be taken in at all. -/
theorem appendUnknown_again (hk : ∀ k, k ∈ known ↔ k ∈ s.mergeKeys)
    (ht : ∀ h ∈ records, h.calculatedAt ≠ "") :
    appendUnknown later records (appendUnknown now records known s).2.mergeKeys
        (appendUnknown now records known s).2 =
      ((appendUnknown now records known s).1.map fun _ => 0,
        (appendUnknown now records known s).2) := by
  induction records generalizing known s with
  | nil => rfl
  | cons h records ih =>
    have hh := ht h List.mem_cons_self
    have hrest := fun q hq => ht q (List.mem_cons_of_mem _ hq)
    by_cases hm : h.mergeKey ∈ known
    · rw [appendUnknown_cons_known hm,
        appendUnknown_cons_known (mergeKeys_appendUnknown ((hk _).1 hm))]
      exact ih hk hrest
    · cases ha : s.appendHistory h.expression h.result (some h.calculatedAt) now with
      | error e =>
        -- It cannot be taken in this time either.
        rw [appendUnknown_cons_error hm ha]
        rw [appendHistory_given hh now later] at ha
        exact appendUnknown_cons_error (fun hs => hm ((hk _).2 hs)) ha
      | ok p =>
        obtain ⟨id, u⟩ := p
        obtain ⟨row, hc, -, hu⟩ := appendHistory_cameOf ha
        -- Its time is kept as it is, so the key of the new row is the one that was looked for.
        have hkeys : u.mergeKeys = s.mergeKeys ++ [h.mergeKey] := by
          rw [hu, ← hc.mergeKey hh]
          exact List.map_append
        have hk' : ∀ k, k ∈ h.mergeKey :: known ↔ k ∈ u.mergeKeys := by
          intro k
          rw [hkeys]
          simp [hk, or_comm]
        rw [appendUnknown_cons_ok hm ha, appendUnknown_cons_known
          (mergeKeys_appendUnknown ((hk' _).1 List.mem_cons_self)), ih hk' hrest]
        cases (appendUnknown now records (h.mergeKey :: known) u).1 <;> rfl

variable {remote : List RawRecord} {trouble : Option MergeError}

theorem mem_mergeKeys_newestFirst (s : Store) (k : String × String × String) :
    k ∈ (newestFirst (·.calculatedAt) (·.id) s.db.history).map (·.mergeKey) ↔ k ∈ s.mergeKeys :=
  ((newestFirst_perm _ _ _).map _).mem_iff

theorem listHistory_closed (ho : s.isOpen = false) :
    s.listHistory = .error (.failed .listHistory) := by
  simp [listHistory, guard, ho]

theorem mergeHistory_open (ho : s.isOpen = true) (records : List HistoryRecord)
    (now : Time.Present) :
    s.mergeHistory records now = appendUnknown now records s.mergeKeys s := by
  unfold mergeHistory
  split
  · next he =>
    rw [he]
    rfl
  · rw [listHistory_open ho]
    exact appendUnknown_congr (mem_mergeKeys_newestFirst s)

theorem mergeHistory_closed (ho : s.isOpen = false) (records : List HistoryRecord)
    (now : Time.Present) :
    s.mergeHistory records now =
      (if records = [] then .ok 0 else .error (.failed .listHistory), s) := by
  unfold mergeHistory
  split
  · rfl
  · rw [listHistory_closed ho]

/-- What a merge answers when the calculations that can be kept give this, and another cannot. -/
def mergeAnswer (r : Except Error Nat) : Option MergeError → Except MergeError Nat
  | none => r.mapError .store
  | some e => (r.mapError .store).bind fun _ => .error e

theorem mergeRaw_open (ho : s.isOpen = true) (hf : keepableFront now remote = (records, trouble)) :
    s.mergeRaw remote now = (mergeAnswer (appendUnknown now records s.mergeKeys s).1 trouble,
      (appendUnknown now records s.mergeKeys s).2) := by
  have ht : (appendUnknown now records s.mergeKeys s).2.isOpen = s.isOpen := isOpen_appendUnknown
  unfold mergeRaw
  rw [hf]
  dsimp only
  rw [mergeHistory_open ho]
  generalize appendUnknown now records s.mergeKeys s = p at ht
  obtain ⟨r, u⟩ := p
  dsimp only at ht
  cases r with
  | error e => cases trouble <;> rfl
  | ok n =>
    cases trouble with
    | none => rfl
    | some e =>
      dsimp only
      rw [listHistory_open (ht.trans ho)]
      rfl

theorem mergeRaw_closed (ho : s.isOpen = false)
    (hf : keepableFront now remote = (records, trouble)) :
    s.mergeRaw remote now =
      (if records = [] ∧ trouble = none then .ok 0
        else .error (.store (.failed .listHistory)), s) := by
  unfold mergeRaw
  rw [hf]
  dsimp only
  rw [mergeHistory_closed ho]
  cases trouble with
  | none => by_cases he : records = [] <;> simp [he]
  | some e => by_cases he : records = [] <;> simp [he, listHistory_closed ho]

/-- The present does not matter to calculations with times. -/
theorem keepableFront_given (ht : ∀ r ∈ remote, r.calculatedAt ≠ []) (now later : Time.Present) :
    keepableFront now remote = keepableFront later remote := by
  induction remote with
  | nil => rfl
  | cons r remote ih =>
    have hr := ht r List.mem_cons_self
    unfold keepableFront keepable
    rw [if_neg hr, if_neg hr, ih fun q hq => ht q (List.mem_cons_of_mem _ hq)]

theorem eq_ofRecord_of_keepable {r : RawRecord} (hk : keepable now r = .ok h) :
    r = .ofRecord h := by
  unfold keepable at hk
  dsimp only at hk
  split at hk
  · obtain ⟨_, -, hk⟩ := bind_eq_ok hk
    exact RawRecord.encode_eq_ok.1 (mapError_eq_ok hk)
  · exact RawRecord.encode_eq_ok.1 (mapError_eq_ok hk)

theorem keepable_ofRecord_ok (time : String) (h : HistoryRecord) :
    keepable (.ok time) (.ofRecord h) = .ok h := by
  rw [keepable, RawRecord.encode_ofRecord]
  split <;> rfl

theorem ne_ofRecord_of_unencodable {r : RawRecord} {u : Text.Unencodable}
    (hk : keepable now r = .error (.unencodable u)) (h : HistoryRecord) : r ≠ .ofRecord h := by
  rintro rfl
  rw [keepable, RawRecord.encode_ofRecord] at hk
  split at hk
  · obtain hk | ⟨_, -, hk⟩ := bind_eq_error hk
    · cases now <;> cases hk
    · cases hk
  · cases hk

/-- What comes from outside is what can be kept in front, and behind it what is in the way. -/
theorem keepableFront_eq (hf : keepableFront now remote = (records, trouble)) :
    ∃ rest, remote = records.map RawRecord.ofRecord ++ rest ∧ (trouble = none → rest = []) ∧
      ∀ e, trouble = some e → ∃ r tail, rest = r :: tail ∧ keepable now r = .error e := by
  induction remote generalizing records trouble with
  | nil =>
    cases hf
    exact ⟨[], rfl, fun _ => rfl, nofun⟩
  | cons r remote ih =>
    unfold keepableFront at hf
    split at hf
    · next e he =>
      cases hf
      refine ⟨r :: remote, rfl, nofun, fun e' he' => ⟨r, remote, rfl, ?_⟩⟩
      rwa [← Option.some.inj he']
    · next h hh =>
      cases hf
      obtain ⟨rest, hr, hn, hs⟩ := ih rfl
      refine ⟨rest, ?_, hn, hs⟩
      rw [List.map_cons, ← eq_ofRecord_of_keepable hh]
      exact congrArg (r :: ·) hr

theorem ofRecord_mem_of_keepableFront (hf : keepableFront now remote = (records, trouble))
    (hh : h ∈ records) : RawRecord.ofRecord h ∈ remote := by
  obtain ⟨rest, rfl, -, -⟩ := keepableFront_eq hf
  exact List.mem_append_left _ (List.mem_map_of_mem hh)

theorem map_ofRecord_of_keepableFront (hf : keepableFront now remote = (records, none)) :
    records.map RawRecord.ofRecord = remote := by
  obtain ⟨rest, rfl, hn, -⟩ := keepableFront_eq hf
  rw [hn rfl, List.append_nil]

theorem exists_of_keepableFront (hf : keepableFront now remote = (records, none)) {r : RawRecord}
    (hr : r ∈ remote) : ∃ h ∈ records, r = .ofRecord h := by
  rw [← map_ofRecord_of_keepableFront hf] at hr
  obtain ⟨h, hh, rfl⟩ := List.mem_map.1 hr
  exact ⟨h, hh, rfl⟩

theorem exists_unencodable_of_keepableFront {u : Text.Unencodable}
    (hf : keepableFront now remote = (records, some (.unencodable u))) :
    ∃ r ∈ remote, ∀ h, r ≠ .ofRecord h := by
  obtain ⟨rest, rfl, -, hs⟩ := keepableFront_eq hf
  obtain ⟨r, tail, rfl, hr⟩ := hs _ rfl
  exact ⟨r, List.mem_append_right _ List.mem_cons_self, ne_ofRecord_of_unencodable hr⟩

/-- Whole texts can be kept, at a time that there is. -/
theorem keepableFront_map_ofRecord (time : String) (records : List HistoryRecord) :
    keepableFront (.ok time) (records.map RawRecord.ofRecord) = (records, none) := by
  induction records with
  | nil => rfl
  | cons h records ih =>
    rw [List.map_cons]
    unfold keepableFront
    rw [keepable_ofRecord_ok, ih]

theorem keepableFront_whole {time : String} (hn : now = .ok time)
    (hw : ∀ r ∈ remote, ∃ h, r = .ofRecord h) :
    ∃ records, keepableFront now remote = (records, none) ∧ records.length = remote.length := by
  obtain ⟨records, rfl⟩ : remote ∈ Set.range (List.map RawRecord.ofRecord) := by
    rw [Set.range_list_map]
    exact fun r hr => let ⟨h, he⟩ := hw r hr; ⟨h, he.symm⟩
  rw [hn]
  exact ⟨records, keepableFront_map_ofRecord time records, (List.length_map _).symm⟩

theorem mergeAnswer_eq_ok {r : Except Error Nat} (h : mergeAnswer r trouble = .ok n) :
    r = .ok n ∧ trouble = none := by
  cases trouble with
  | none => exact ⟨mapError_eq_ok h, rfl⟩
  | some e =>
    obtain ⟨_, -, h⟩ := bind_eq_ok h
    cases h

theorem mergeAnswer_unencodable {r : Except Error Nat} {u : Text.Unencodable}
    (h : mergeAnswer r trouble = .error (.unencodable u)) : trouble = some (.unencodable u) := by
  cases r with
  | error e => cases trouble <;> cases h
  | ok n =>
    cases trouble with
    | none => cases h
    | some e => exact congrArg some (Except.error.inj h)

/-- A merge of something succeeds only where all of it can be kept, in an open store. -/
theorem mergeRaw_eq_ok (ho : (s.mergeRaw remote now).1 = .ok n) (hr : remote ≠ []) :
    ∃ records, keepableFront now remote = (records, none) ∧
      (appendUnknown now records s.mergeKeys s).1 = .ok n ∧
      (s.mergeRaw remote now).2 = (appendUnknown now records s.mergeKeys s).2 := by
  cases hf : keepableFront now remote with
  | mk records trouble =>
    cases hs : s.isOpen with
    | true =>
      rw [mergeRaw_open hs hf] at ho ⊢
      obtain ⟨ha, rfl⟩ := mergeAnswer_eq_ok ho
      exact ⟨records, rfl, ha, rfl⟩
    | false =>
      rw [mergeRaw_closed hs hf] at ho
      dsimp only at ho
      split at ho
      · next hn =>
        obtain ⟨rfl, rfl⟩ := hn
        obtain ⟨r, hmem⟩ := List.exists_mem_of_ne_nil _ hr
        obtain ⟨h, hh, -⟩ := exists_of_keepableFront hf hmem
        cases hh
      · cases ho

/-- A text from outside that cannot be kept stops a merge. -/
theorem mergeRaw_unencodable {u : Text.Unencodable}
    (he : (s.mergeRaw remote now).1 = .error (.unencodable u)) :
    ∃ r ∈ remote, ∀ h, r ≠ .ofRecord h := by
  cases hf : keepableFront now remote with
  | mk records trouble =>
    obtain rfl : trouble = some (.unencodable u) := by
      cases ho : s.isOpen with
      | true =>
        rw [mergeRaw_open ho hf] at he
        exact mergeAnswer_unencodable he
      | false =>
        rw [mergeRaw_closed ho hf] at he
        dsimp only at he
        split at he <;> cases he
    exact exists_unencodable_of_keepableFront hf

/-- There are ids for so many calculations more. -/
def HasRoom (s : Store) (k : Nat) : Prop :=
  ∀ i : Nat, 0 < i → i ≤ k → fitsColumn (s.db.lastHistory + i) = true

theorem Ready.appendHistory (hs : s.Ready) (hr : fitsColumn (s.db.lastHistory + 1) = true)
    {at? : Option String} {time : String} (ht : timeOr at? now = .ok time)
    (expression result : String) :
    s.appendHistory expression result at? now = .ok (s.db.lastHistory + 1,
      s.addCalculation ⟨s.db.lastHistory + 1, expression, result, time⟩) := by
  unfold Store.appendHistory nextId
  rw [hs.guard_nil, ht, if_pos hr, hs.allow]
  rfl

theorem timeOr_of_present {time : String} (hn : now = .ok time) (at? : Option String) :
    ∃ t, timeOr at? now = .ok t := by
  unfold timeOr
  rw [hn]
  split
  · exact ⟨_, rfl⟩
  · exact ⟨_, rfl⟩

/-- Where nothing stands in the way, all calculations are taken in. -/
theorem Ready.appendUnknown (hs : s.Ready) (hr : s.HasRoom records.length) {time : String}
    (hn : now = .ok time) : ∃ n, (appendUnknown now records known s).1 = .ok n := by
  induction records generalizing known s with
  | nil => exact ⟨0, rfl⟩
  | cons h records ih =>
    by_cases hk : h.mergeKey ∈ known
    · rw [appendUnknown_cons_known hk]
      exact ih hs fun i hi hle => hr i hi (Nat.le_succ_of_le hle)
    · obtain ⟨t, ht⟩ := timeOr_of_present hn (some h.calculatedAt)
      have hone : fitsColumn (s.db.lastHistory + 1) = true :=
        hr 1 Nat.one_pos (Nat.succ_le_succ (Nat.zero_le _))
      rw [appendUnknown_cons_ok hk (hs.appendHistory hone ht h.expression h.result)]
      -- One id is used up, and one calculation less is to come.
      have hroom : (s.addCalculation ⟨s.db.lastHistory + 1, h.expression, h.result, t⟩).HasRoom
          records.length := by
        intro i hi hle
        have he : s.db.lastHistory + 1 + (i : Int) = s.db.lastHistory + (i + 1 : Nat) := by omega
        show fitsColumn (s.db.lastHistory + 1 + i) = true
        rw [he]
        exact hr (i + 1) (Nat.succ_pos i) (Nat.succ_le_succ hle)
      have hready : (s.addCalculation ⟨s.db.lastHistory + 1, h.expression, h.result, t⟩).Ready :=
        hs.withDatabase rfl
      obtain ⟨n, ha⟩ := @ih _ (h.mergeKey :: known) hready hroom
      exact ⟨n + 1, congrArg (Except.map (· + 1)) ha⟩

theorem Ready.mergeRaw (hs : s.Ready) (hr : s.HasRoom remote.length) {time : String}
    (hn : now = .ok time) (hw : ∀ r ∈ remote, ∃ h, r = .ofRecord h) :
    ∃ n, (s.mergeRaw remote now).1 = .ok n := by
  obtain ⟨records, hf, hl⟩ := keepableFront_whole hn hw
  rw [← hl] at hr
  obtain ⟨n, ha⟩ : ∃ n, (Store.appendUnknown now records s.mergeKeys s).1 = .ok n :=
    hs.appendUnknown hr hn
  rw [mergeRaw_open hs.isOpen hf, ha]
  exact ⟨n, rfl⟩

theorem CameOf.of_mergeKey {q row : HistoryRecord} (hc : CameOf now h q)
    (hk : q.mergeKey = row.mergeKey) : CameOf now h row := by
  obtain ⟨he, hr⟩ := Prod.mk.inj hk
  obtain ⟨hr, ht⟩ := Prod.mk.inj hr
  exact ⟨he.symm.trans hc.expression, hr.symm.trans hc.result, ht ▸ hc.time⟩

theorem CameOf.unique {q row : HistoryRecord} (hq : CameOf now h q) (hr : CameOf now h row) :
    q.mergeKey = row.mergeKey := by
  unfold HistoryRecord.mergeKey
  rw [hq.expression, hr.expression, hq.result, hr.result,
    Except.ok.inj (hq.time.symm.trans hr.time)]

/-- A merge brings a row that was not there exactly if it came of a calculation from outside. -/
theorem Orderly.exists_mergeRaw_iff (hs : s.Orderly) (ho : (s.mergeRaw remote now).1 = .ok n)
    {row : HistoryRecord} (hrow : ∀ q ∈ s.db.history, q.mergeKey ≠ row.mergeKey) :
    (∃ q ∈ (s.mergeRaw remote now).2.db.history, q.mergeKey = row.mergeKey) ↔
      ∃ h, RawRecord.ofRecord h ∈ remote ∧ CameOf now h row := by
  by_cases hne : remote = []
  · subst hne
    constructor
    · rintro ⟨q, hq, hk⟩
      exact absurd hk (hrow q hq)
    · rintro ⟨h, hh, -⟩
      cases hh
  obtain ⟨records, hf, ha, ht⟩ := mergeRaw_eq_ok ho hne
  rw [ht]
  constructor
  · rintro ⟨q, hq, hk⟩
    obtain hold | ⟨h, hh, -, hc⟩ := mem_appendUnknown hq
    · exact absurd hk (hrow q hold)
    · exact ⟨h, ofRecord_mem_of_keepableFront hf hh, hc.of_mergeKey hk⟩
  · rintro ⟨h, hh, hc⟩
    obtain ⟨h', hrec, he⟩ := exists_of_keepableFront hf hh
    obtain rfl := RawRecord.ofRecord_injective he
    obtain hknown | ⟨q, hq, hcq⟩ := exists_cameOf ha hrec
    · -- A calculation that was known has a time, so its row is not the one in question.
      obtain ⟨q, hq, hk⟩ := List.mem_map.1 hknown
      have htime : h.calculatedAt ≠ "" := by
        rw [← (Prod.mk.inj (Prod.mk.inj hk).2).2]
        exact hs.times q hq
      exact absurd (hk.trans (hc.mergeKey htime).symm) (hrow q hq)
    · exact ⟨q, hq, hcq.unique hc⟩

theorem Orderly.mergeRaw (hs : s.Orderly) (hn : now ≠ .ok "") (remote : List RawRecord) :
    (s.mergeRaw remote now).2.Orderly := by
  cases hf : keepableFront now remote with
  | mk records trouble =>
    rw [mergeRaw_open hs.ready.isOpen hf]
    apply appendUnknown_induction hs
    intro t h row ht _ _ hc hi hfits
    exact ht.addCalculation hi hfits (hc.calculatedAt_ne hn)

theorem calculatedAt_ne_of_keepableFront (hf : keepableFront now remote = (records, trouble))
    (ht : ∀ r ∈ remote, r.calculatedAt ≠ []) (hh : h ∈ records) : h.calculatedAt ≠ "" :=
  fun he => ht _ (ofRecord_mem_of_keepableFront hf hh) (Text.points_eq_nil.2 he)

/-- A second merge of calculations with times answers as the first did, but counts none, and leaves
the store alone. -/
theorem mergeRaw_again (ht : ∀ r ∈ remote, r.calculatedAt ≠ []) :
    (s.mergeRaw remote now).2.mergeRaw remote later =
      ((s.mergeRaw remote now).1.map fun _ => 0, (s.mergeRaw remote now).2) := by
  cases hf : keepableFront now remote with
  | mk records trouble =>
    have hf' := hf
    rw [keepableFront_given ht now later] at hf'
    cases ho : s.isOpen with
    | true =>
      rw [mergeRaw_open ho hf]
      dsimp only
      rw [mergeRaw_open (isOpen_appendUnknown.trans ho) hf', appendUnknown_again (fun _ => .rfl)
        fun _ hh => calculatedAt_ne_of_keepableFront hf ht hh]
      cases (appendUnknown now records s.mergeKeys s).1 <;> cases trouble <;> rfl
    | false =>
      rw [mergeRaw_closed ho hf]
      dsimp only
      rw [mergeRaw_closed ho hf']
      split <;> rfl

/-- A second merge of a calculation without a time, which is kept with a time, does not know it. -/
theorem mergeRaw_missing (hn : now ≠ .ok "") (hs : ∀ h ∈ s.db.history, h.calculatedAt ≠ "")
    (ho : (s.mergeRaw remote now).1 = .ok n) {r : RawRecord} (hr : r ∈ remote)
    (ht : r.calculatedAt = []) :
    ((s.mergeRaw remote now).2.mergeRaw remote later).1 ≠ .ok 0 := by
  intro hz
  have hne := List.ne_nil_of_mem hr
  obtain ⟨records, -, -, ht₁⟩ := mergeRaw_eq_ok ho hne
  obtain ⟨records', hf, hz, -⟩ := mergeRaw_eq_ok hz hne
  obtain ⟨h, hh, rfl⟩ := exists_of_keepableFront hf hr
  have hk := mergeKey_mem_of_none hz hh
  rw [ht₁] at hk
  obtain ⟨row, hrow, hk⟩ := List.mem_map.1 hk
  have he : row.calculatedAt = "" :=
    (Prod.mk.inj (Prod.mk.inj hk).2).2.trans (Text.points_eq_nil.1 ht)
  -- No row without a time was there, and none has come in.
  obtain hold | ⟨q, -, -, hc⟩ := mem_appendUnknown hrow
  · exact hs row hold he
  · exact hc.calculatedAt_ne hn he

/-- Merging the same calculations twice is merging them once, whatever the store and whatever the
clocks, as long as all of them have times. One without a time comes in again each time. -/
theorem mergeRaw_twice (s : Store) (remote : List RawRecord) (now later : Time.Present) :
    ((∀ r ∈ remote, r.calculatedAt ≠ []) →
      (s.mergeRaw remote now).2.mergeRaw remote later =
        ((s.mergeRaw remote now).1.map fun _ => 0, (s.mergeRaw remote now).2)) ∧
    (now ≠ .ok "" → (∀ h ∈ s.db.history, h.calculatedAt ≠ "") →
      ∀ n, (s.mergeRaw remote now).1 = .ok n → (∃ r ∈ remote, r.calculatedAt = []) →
        ((s.mergeRaw remote now).2.mergeRaw remote later).1 ≠ .ok 0) :=
  ⟨mergeRaw_again, fun hn hs _ ho ⟨_, hr, ht⟩ => mergeRaw_missing hn hs ho hr ht⟩

/-- A sum without a time, as it may come from outside. -/
def untimedSum : RawRecord := ⟨7, Text.points "1+1", Text.points "2", []⟩

/-- The same with a time. -/
def timedSum : RawRecord := { untimedSum with calculatedAt := Text.points "2024-01-01 09:00:00" }

theorem sums_mergeRaw_twice :
    (∀ r ∈ [timedSum], r.calculatedAt ≠ []) ∧
      (empty.mergeRaw [timedSum] (.ok "2024-01-02 09:00:00")).2.mergeRaw [timedSum]
          (.error .outOfRange) =
        (.ok 0, (empty.mergeRaw [timedSum] (.ok "2024-01-02 09:00:00")).2) := by
  have ht : ∀ r ∈ [timedSum], r.calculatedAt ≠ [] := by decide
  refine ⟨ht, ((mergeRaw_twice empty [timedSum] _ _).1 ht).trans ?_⟩
  rw [mergeRaw_open rfl rfl]
  rfl

/-- A sum without a time is taken in twice. -/
theorem untimedSum_taken_twice :
    (empty.mergeRaw [untimedSum] (.ok "2024-01-02 09:00:00")).1 = .ok 1 ∧
      ((empty.mergeRaw [untimedSum] (.ok "2024-01-02 09:00:00")).2.mergeRaw [untimedSum]
        (.ok "2024-01-02 09:00:00")).1 = .ok 1 := by
  rw [mergeRaw_open rfl rfl]
  dsimp only
  rw [mergeRaw_open rfl rfl]
  exact ⟨rfl, rfl⟩

end Store

end CovertVault
