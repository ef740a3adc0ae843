import CovertVault.Proofs.Store.Merging

namespace CovertVault.Store

variable {s : Store} {h : HistoryRecord} {records : List HistoryRecord}
  {known : List (String × String × String)} {time : String}

/-- The calculations that are not known, each at its first occurrence. -/
def fresh (known : List (String × String × String)) (records : List HistoryRecord) :
    List HistoryRecord :=
  (records.filter fun h => h.mergeKey ∉ known).eraseDupsBy fun a b => a.mergeKey == b.mergeKey

/-- The rows of new calculations: ids go on behind the last one, and a missing time is the
present. -/
def rowsOf (time : String) (last : Int) (records : List HistoryRecord) : List HistoryRecord :=
  records.mapIdx fun i h =>
    ⟨last + (i + 1 : Nat), h.expression, h.result,
      if h.calculatedAt = "" then time else h.calculatedAt⟩

/-- The store with more calculations. -/
def adding (s : Store) (rows : List HistoryRecord) : Store :=
  s.withDatabase { s.db with
    history := s.db.history ++ rows
    lastHistory := s.db.lastHistory + rows.length }

/-- Whether so many calculations more can be stored. -/
def Takes (s : Store) (k : Nat) : Prop :=
  k ≠ 0 → s.isOpen = true ∧ s.db.refuses .history .insert unnumbered = false ∧ s.HasRoom k

theorem fresh_cons_known (hk : h.mergeKey ∈ known) (records : List HistoryRecord) :
    fresh known (h :: records) = fresh known records := by
  unfold fresh
  rw [List.filter_cons_of_neg (by simpa using hk)]

theorem fresh_cons_new (hk : h.mergeKey ∉ known) (records : List HistoryRecord) :
    fresh known (h :: records) = h :: fresh (h.mergeKey :: known) records := by
  unfold fresh
  rw [List.filter_cons_of_pos (by simpa using hk), List.eraseDupsBy_cons, List.filter_filter]
  congr 2
  refine List.filter_congr fun q _ => ?_
  simp [not_or]

theorem rowsOf_cons (time : String) (last : Int) (h : HistoryRecord)
    (records : List HistoryRecord) :
    rowsOf time last (h :: records) = rowsOf time last [h] ++ rowsOf time (last + 1) records := by
  unfold rowsOf
  rw [List.mapIdx_cons]
  have hi (i : Nat) : last + ((i + 1 + 1 : Nat) : Int) = last + 1 + ((i + 1 : Nat) : Int) := by
    omega
  simp only [hi]
  rfl

theorem length_rowsOf (time : String) (last : Int) (records : List HistoryRecord) :
    (rowsOf time last records).length = records.length := List.length_mapIdx

/-- What is not known is new, there or further in front. -/
theorem exists_fresh (hh : h ∈ records) :
    h.mergeKey ∈ known ∨ ∃ q ∈ fresh known records, q.mergeKey = h.mergeKey := by
  induction records generalizing known with
  | nil => cases hh
  | cons q records ih =>
    by_cases hk : q.mergeKey ∈ known
    · rw [fresh_cons_known hk]
      obtain rfl | hh := List.mem_cons.1 hh
      · exact .inl hk
      · exact ih hh
    · rw [fresh_cons_new hk]
      obtain rfl | hh := List.mem_cons.1 hh
      · exact .inr ⟨h, List.mem_cons_self, rfl⟩
      · -- What was made known by this one is found here, the rest further on.
        obtain hm | ⟨p, hp, he⟩ := @ih (q.mergeKey :: known) hh
        · obtain he | hm := List.mem_cons.1 hm
          · exact .inr ⟨q, List.mem_cons_self, he.symm⟩
          · exact .inl hm
        · exact .inr ⟨p, List.mem_cons_of_mem _ hp, he⟩

/-- A calculation with a time is known by its row. -/
theorem mergeKey_mem_rowsOf (hh : h ∈ records) (ht : h.calculatedAt ≠ "") (time : String)
    (last : Int) : h.mergeKey ∈ (rowsOf time last records).map (·.mergeKey) := by
  obtain ⟨i, hi, rfl⟩ := List.getElem_of_mem hh
  refine List.mem_map.2 ⟨_, List.mem_mapIdx.2 ⟨i, hi, rfl⟩, ?_⟩
  simp only [HistoryRecord.mergeKey, if_neg ht]

theorem adding_nil (s : Store) : s.adding [] = s := by
  simp [adding, withDatabase]

/-- Adding one calculation and then others is adding all of them. -/
theorem adding_rowsOf_cons (s : Store) (time : String) (h : HistoryRecord)
    (records : List HistoryRecord) :
    (s.adding (rowsOf time s.db.lastHistory [h])).adding
        (rowsOf time (s.adding (rowsOf time s.db.lastHistory [h])).db.lastHistory records) =
      s.adding (rowsOf time s.db.lastHistory (h :: records)) := by
  have hlast : (s.adding (rowsOf time s.db.lastHistory [h])).db.lastHistory =
      s.db.lastHistory + 1 := rfl
  rw [hlast, rowsOf_cons time s.db.lastHistory h records]
  simp [adding, withDatabase, length_rowsOf, Int.add_assoc]

theorem hasRoom_succ {rows : List HistoryRecord} (hone : rows.length = 1) (k : Nat) :
    s.HasRoom (k + 1) ↔ s.HasRoom 1 ∧ (s.adding rows).HasRoom k := by
  unfold HasRoom adding withDatabase
  rw [hone]
  have hlast (i : Nat) : s.db.lastHistory + 1 + (i : Int) = s.db.lastHistory + (i + 1 : Nat) := by
    omega
  constructor
  · refine fun hr => ⟨fun i hi hle => hr i hi (by omega), fun i hi hle => ?_⟩
    show fitsColumn (s.db.lastHistory + 1 + i) = true
    rw [hlast]
    exact hr (i + 1) (Nat.succ_pos i) (Nat.succ_le_succ hle)
  · rintro ⟨h1, hk⟩ i hi hle
    obtain rfl | ⟨j, hj, rfl⟩ : i = 1 ∨ ∃ j, 0 < j ∧ i = j + 1 := by
      by_cases hi1 : i = 1
      · exact .inl hi1
      · exact .inr ⟨i - 1, by omega, by omega⟩
    · exact h1 1 Nat.one_pos le_rfl
    · have hfits : fitsColumn (s.db.lastHistory + 1 + j) = true :=
        hk j hj (Nat.le_of_succ_le_succ hle)
      rwa [hlast] at hfits

theorem takes_succ {rows : List HistoryRecord} (hone : rows.length = 1) (k : Nat) :
    s.Takes (k + 1) ↔ s.Takes 1 ∧ (s.adding rows).Takes k := by
  have hroom : s.HasRoom (k + 1) ↔ s.HasRoom 1 ∧ (s.adding rows).HasRoom k := hasRoom_succ hone k
  constructor
  · intro ht
    obtain ⟨ho, hf, hr⟩ := ht (Nat.succ_ne_zero k)
    exact ⟨fun _ => ⟨ho, hf, (hroom.1 hr).1⟩, fun _ => ⟨ho, hf, (hroom.1 hr).2⟩⟩
  · rintro ⟨h1, hk⟩ -
    obtain ⟨ho, hf, hr⟩ := h1 Nat.one_ne_zero
    refine ⟨ho, hf, hroom.2 ⟨hr, fun i hi hle => ?_⟩⟩
    exact (hk (by omega)).2.2 i hi hle

theorem timeOr_ok (at? time : String) :
    timeOr (some at?) (.ok time) = .ok (if at? = "" then time else at?) := by
  by_cases ha : at? = ""
  · rw [ha, timeOr_missing, if_pos rfl]
    rfl
  · rw [timeOr_given ha, if_neg ha]

theorem appendHistory_takes (ht : s.Takes 1) :
    s.appendHistory h.expression h.result (some h.calculatedAt) (.ok time) =
      .ok (s.db.lastHistory + 1, s.adding (rowsOf time s.db.lastHistory [h])) := by
  obtain ⟨ho, hf, hr⟩ := ht Nat.one_ne_zero
  have hfits : fitsColumn (s.db.lastHistory + 1) = true := hr 1 Nat.one_pos le_rfl
  unfold appendHistory guard nextId allow
  rw [timeOr_ok, ho, hf, if_pos hfits]
  rfl

theorem appendHistory_refuses (h : HistoryRecord) (time : String) (ht : ¬ s.Takes 1) :
    ∃ e, s.appendHistory h.expression h.result (some h.calculatedAt) (.ok time) = .error e := by
  cases ha : s.appendHistory h.expression h.result (some h.calculatedAt) (.ok time) with
  | error e => exact ⟨e, rfl⟩
  | ok p =>
    refine absurd (fun _ => ?_) ht
    unfold appendHistory at ha
    obtain ⟨_, hg, ha⟩ := bind_eq_ok ha
    obtain ⟨_, -, ha⟩ := bind_eq_ok ha
    obtain ⟨id, hi, ha⟩ := bind_eq_ok ha
    obtain ⟨_, hal, -⟩ := bind_eq_ok ha
    obtain ⟨rfl, hfits⟩ := nextId_ok hi
    refine ⟨?_, ?_, fun i hi hle => ?_⟩
    · by_contra ho
      simp [guard, ho] at hg
    · by_contra hf
      simp [allow, hf] at hal
    · obtain rfl : i = 1 := Nat.le_antisymm hle hi
      exact hfits

/-- Where there is room for all that is new, it is added. -/
theorem appendUnknown_takes (ht : s.Takes (fresh known records).length) :
    appendUnknown (.ok time) records known s = (.ok (fresh known records).length,
      s.adding (rowsOf time s.db.lastHistory (fresh known records))) := by
  induction records generalizing known s with
  | nil => exact Prod.ext rfl (adding_nil s).symm
  | cons h records ih =>
    by_cases hk : h.mergeKey ∈ known
    · rw [fresh_cons_known hk] at ht ⊢
      rw [appendUnknown_cons_known hk, ih ht]
    · rw [fresh_cons_new hk, List.length_cons] at ht
      obtain ⟨h1, hrest⟩ := (takes_succ (length_rowsOf time s.db.lastHistory [h]) _).1 ht
      rw [appendUnknown_cons_ok hk (appendHistory_takes h1), ih hrest, adding_rowsOf_cons,
        fresh_cons_new hk]
      rfl

/-- Where there is not, what is new is added up to one that is not taken any more. -/
theorem appendUnknown_refuses (time : String) (ht : ¬ s.Takes (fresh known records).length) :
    ∃ e front h, front ++ [h] <+: records ∧
      ¬ (s.adding (rowsOf time s.db.lastHistory (fresh known front))).Takes 1 ∧
      appendUnknown (.ok time) records known s =
        (.error e, s.adding (rowsOf time s.db.lastHistory (fresh known front))) := by
  induction records generalizing known s with
  | nil => exact absurd (fun hz => absurd rfl hz) ht
  | cons h records ih =>
    by_cases hk : h.mergeKey ∈ known
    · rw [fresh_cons_known hk] at ht
      obtain ⟨e, front, q, hf, hq, ha⟩ := ih ht
      refine ⟨e, h :: front, q, List.cons_prefix_cons.2 ⟨rfl, hf⟩, ?_, ?_⟩
      · rwa [fresh_cons_known hk]
      · rw [appendUnknown_cons_known hk, ha, fresh_cons_known hk]
    · -- There is room for this one and too little behind it, or this one is where it ends.
      by_cases h1 : s.Takes 1
      · rw [fresh_cons_new hk, List.length_cons,
          takes_succ (length_rowsOf time s.db.lastHistory [h])] at ht
        obtain ⟨e, front, q, hf, hq, ha⟩ := ih fun hr => ht ⟨h1, hr⟩
        refine ⟨e, h :: front, q, List.cons_prefix_cons.2 ⟨rfl, hf⟩, ?_, ?_⟩
        · rwa [fresh_cons_new hk, ← adding_rowsOf_cons]
        · rw [appendUnknown_cons_ok hk (appendHistory_takes h1), ha, adding_rowsOf_cons,
            fresh_cons_new hk]
          rfl
      · obtain ⟨e, ha⟩ := appendHistory_refuses h time h1
        refine ⟨e, [], h, List.cons_prefix_cons.2 ⟨rfl, List.nil_prefix⟩, ?_, ?_⟩
        · exact (adding_nil s).symm ▸ h1
        · rw [appendUnknown_cons_error hk ha]
          exact Prod.ext rfl (adding_nil s).symm

variable {remote : List RawRecord} {trouble : Option MergeError}

theorem isPrefix_map_ofRecord {now : Time.Present}
    (hf : keepableFront now remote = (records, trouble)) :
    records.map RawRecord.ofRecord <+: remote := by
  obtain ⟨rest, rfl, -, -⟩ := keepableFront_eq hf
  exact List.prefix_append _ _

/-- Once there is a present, only a text that cannot be encoded is in the way. -/
theorem keepableFront_stops {e : MergeError}
    (hf : keepableFront (.ok time) remote = (records, some e)) :
    ∃ r, records.map RawRecord.ofRecord ++ [r] <+: remote ∧ ∀ h, r ≠ .ofRecord h := by
  obtain ⟨rest, rfl, -, hs⟩ := keepableFront_eq hf
  obtain ⟨r, tail, rfl, hr⟩ := hs e rfl
  refine ⟨r, List.prefix_append_right_inj _ |>.2 (List.prefix_append [r] tail), ?_⟩
  rintro h rfl
  rw [keepable_ofRecord_ok] at hr
  cases hr

/-- What a merge makes of a store, told by the calculations that it came to. The rows that were
there stay, in front of those of what was new among these. It answers with the number of new ones
once it came to all, and it does so exactly if every text can be kept and there is room for all
that is new. Otherwise the next calculation is one that cannot be kept, or that the store does not
take. -/
structure Merges (s : Store) (remote : List RawRecord) (time : String)
    (reached : List HistoryRecord) (answer : Except MergeError Nat) (t : Store) : Prop where
  store : t = s.adding (rowsOf time s.db.lastHistory (fresh s.mergeKeys reached))
  present : ∀ h ∈ reached, h.calculatedAt ≠ "" → h.mergeKey ∈ t.mergeKeys
  counts : ∀ n, answer = .ok n →
    reached.map RawRecord.ofRecord = remote ∧ n = (fresh s.mergeKeys reached).length
  stops : ∀ e, answer = .error e → ∃ r, reached.map RawRecord.ofRecord ++ [r] <+: remote ∧
    ∀ h, r = .ofRecord h → ¬ t.Takes 1
  answers : (∃ n, answer = .ok n) ↔ remote = [] ∨ s.isOpen = true ∧ ∃ records,
    records.map RawRecord.ofRecord = remote ∧ s.Takes (fresh s.mergeKeys records).length

theorem mergeKey_mem_adding (hh : h ∈ records) (ht : h.calculatedAt ≠ "") (time : String) :
    h.mergeKey ∈
      (s.adding (rowsOf time s.db.lastHistory (fresh s.mergeKeys records))).mergeKeys := by
  have hkeys : (s.adding (rowsOf time s.db.lastHistory (fresh s.mergeKeys records))).mergeKeys =
      s.mergeKeys ++
        (rowsOf time s.db.lastHistory (fresh s.mergeKeys records)).map (·.mergeKey) :=
    List.map_append
  rw [hkeys]
  obtain hknown | ⟨q, hq, he⟩ :
      h.mergeKey ∈ s.mergeKeys ∨ _ := exists_fresh hh
  · exact List.mem_append_left _ hknown
  · -- The one that is added for it has the same time.
    have hqt : q.calculatedAt ≠ "" := by
      rwa [(Prod.mk.inj (Prod.mk.inj he).2).2]
    exact List.mem_append_right _ (he ▸ mergeKey_mem_rowsOf hq hqt time _)

/-- If all texts can be kept, a merge is about them. -/
theorem eq_of_map_ofRecord (hf : keepableFront (.ok time) remote = (records, trouble))
    {all : List HistoryRecord} (ha : all.map RawRecord.ofRecord = remote) :
    all = records ∧ none = trouble := by
  rw [← ha, keepableFront_map_ofRecord] at hf
  exact Prod.mk.inj hf

theorem merges_closed (ho : s.isOpen = false)
    (hf : keepableFront (.ok time) remote = (records, trouble)) :
    s.Merges remote time [] (s.mergeRaw remote (.ok time)).1 (s.mergeRaw remote (.ok time)).2 := by
  have hok {n : Nat} (hn : (s.mergeRaw remote (.ok time)).1 = .ok n) : remote = [] ∧ n = 0 := by
    rw [mergeRaw_closed ho hf] at hn
    dsimp only at hn
    split at hn
    · next he =>
      obtain ⟨rfl, rfl⟩ := he
      exact ⟨(map_ofRecord_of_keepableFront hf).symm, (Except.ok.inj hn).symm⟩
    · cases hn
  have hs : (s.mergeRaw remote (.ok time)).2 = s := by rw [mergeRaw_closed ho hf]
  refine ⟨hs.trans (adding_nil s).symm, by simp, fun n hn => ?_, fun e he => ?_,
    fun ⟨n, hn⟩ => .inl (hok hn).1, ?_⟩
  · obtain ⟨rfl, rfl⟩ := hok hn
    exact ⟨rfl, rfl⟩
  · cases remote with
    | nil => cases he
    | cons r remote =>
      refine ⟨r, List.prefix_append [r] remote, fun _ _ ht => ?_⟩
      rw [hs] at ht
      exact Bool.false_ne_true (ho.symm.trans (ht Nat.one_ne_zero).1)
  · rintro (rfl | ⟨hopen, -⟩)
    · exact ⟨0, rfl⟩
    · rw [ho] at hopen
      cases hopen

theorem merges_of_takes (ho : s.isOpen = true)
    (hf : keepableFront (.ok time) remote = (records, trouble))
    (ht : s.Takes (fresh s.mergeKeys records).length) :
    s.Merges remote time records (s.mergeRaw remote (.ok time)).1
      (s.mergeRaw remote (.ok time)).2 := by
  rw [mergeRaw_open ho hf, appendUnknown_takes ht]
  refine ⟨rfl, fun h hh htime => mergeKey_mem_adding hh htime time, fun n hn => ?_, fun e he => ?_,
    fun ⟨n, hn⟩ => ?_, ?_⟩
  · obtain ⟨hn, rfl⟩ := mergeAnswer_eq_ok hn
    exact ⟨map_ofRecord_of_keepableFront hf, (Except.ok.inj hn).symm⟩
  · cases trouble with
    | none => cases he
    | some e' =>
      obtain ⟨r, hr, hn⟩ := keepableFront_stops hf
      exact ⟨r, hr, fun h hh => absurd hh (hn h)⟩
  · obtain ⟨-, rfl⟩ := mergeAnswer_eq_ok hn
    exact .inr ⟨ho, records, map_ofRecord_of_keepableFront hf, ht⟩
  · rintro (rfl | ⟨-, all, hall, -⟩)
    · cases hf
      exact ⟨_, rfl⟩
    · obtain ⟨-, rfl⟩ := eq_of_map_ofRecord hf hall
      exact ⟨_, rfl⟩

theorem merges_of_not_takes (ho : s.isOpen = true)
    (hf : keepableFront (.ok time) remote = (records, trouble))
    (ht : ¬ s.Takes (fresh s.mergeKeys records).length) :
    ∃ reached, s.Merges remote time reached (s.mergeRaw remote (.ok time)).1
      (s.mergeRaw remote (.ok time)).2 := by
  obtain ⟨e, reached, h, hreached, hh, ha⟩ := appendUnknown_refuses time ht
  have hnot (n : Nat) : mergeAnswer (.error e) trouble ≠ .ok n := fun hn => by
    cases (mergeAnswer_eq_ok hn).1
  rw [mergeRaw_open ho hf, ha]
  refine ⟨reached, rfl, fun h hh htime => mergeKey_mem_adding hh htime time,
    fun n hn => absurd hn (hnot n), fun _ _ => ⟨.ofRecord h, ?_, fun _ _ => hh⟩,
    fun ⟨n, hn⟩ => absurd hn (hnot n), ?_⟩
  · have hmap := hreached.map RawRecord.ofRecord
    rw [List.map_append] at hmap
    exact hmap.trans (isPrefix_map_ofRecord hf)
  · rintro (rfl | ⟨-, all, hall, htakes⟩)
    · cases hf
      exact absurd (fun hz => absurd rfl hz) ht
    · obtain ⟨rfl, -⟩ := eq_of_map_ofRecord hf hall
      exact absurd htakes ht

/-- Merging adds just the rows of what is new, in its order, to those that are there. -/
theorem mergeRaw_adds (s : Store) (remote : List RawRecord) (time : String) :
    ∃ reached, s.Merges remote time reached (s.mergeRaw remote (.ok time)).1
      (s.mergeRaw remote (.ok time)).2 := by
  cases hf : keepableFront (.ok time) remote with
  | mk records trouble =>
    cases ho : s.isOpen with
    | false => exact ⟨[], merges_closed ho hf⟩
    | true =>
      by_cases ht : s.Takes (fresh s.mergeKeys records).length
      · exact ⟨records, merges_of_takes ho hf ht⟩
      · exact merges_of_not_takes ho hf ht

/-- A sum with half of a surrogate pair in it, and one without. -/
def brokenSums : List RawRecord :=
  [⟨2, [.half 0xD800], Text.points "2", Text.points "2024-01-02 09:00:00"⟩,
    ⟨1, Text.points "1+1", Text.points "2", Text.points "2024-01-01 09:00:00"⟩]

/-- What cannot be kept keeps out what comes behind it. -/
theorem brokenSums_not_added :
    empty.mergeRaw brokenSums (.ok "2024-01-03 09:00:00") =
      (.error (.unencodable ⟨.utf8, [.half 0xD800], 0⟩), empty) := by
  rw [mergeRaw_open rfl rfl]
  rfl

end CovertVault.Store
