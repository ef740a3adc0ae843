import CovertVault.Proofs.Store.Writes
import CovertVault.Proofs.Text.Points
import CovertVault.Store.Merge

namespace CovertVault.Store

variable {α : Type} {id : α → Int} {rows : List α} {last : Int}

/-- Among rows with different ids, each is found by its own. -/
theorem find?_id (ho : (rows.map id).Nodup) {r : α} (hr : r ∈ rows) :
    rows.find? (fun q => id q = id r) = some r := by
  induction rows with
  | nil => cases hr
  | cons x xs ih =>
    obtain ⟨hx, ho⟩ := List.nodup_cons.1 ho
    obtain rfl | hr := List.mem_cons.1 hr
    · simp
    · have hn : id x ≠ id r := fun he => hx (List.mem_map.2 ⟨r, hr, he.symm⟩)
      rw [List.find?_cons_of_neg (by simpa using hn)]
      exact ih ho hr

/-- Rows with ids of their own, none of them beyond the last id given out. -/
structure Numbered (id : α → Int) (rows : List α) (last : Int) : Prop where
  once : (rows.map id).Nodup
  given : ∀ r ∈ rows, id r ≤ last
  fits : ∀ r ∈ rows, fitsColumn (id r) = true

theorem numbered_nil : Numbered id [] last := ⟨List.nodup_nil, by simp, by simp⟩

theorem Numbered.sublist (h : Numbered id rows last) {rows' : List α} (hs : rows'.Sublist rows) :
    Numbered id rows' last :=
  ⟨h.once.sublist (hs.map id), fun r hr => h.given r (hs.subset hr),
    fun r hr => h.fits r (hs.subset hr)⟩

theorem Numbered.append (h : Numbered id rows last) {r : α} (hr : id r = last + 1)
    (hf : fitsColumn (id r) = true) : Numbered id (rows ++ [r]) (id r) where
  once := by
    have hn : id r ∉ rows.map id := by
      intro hm
      obtain ⟨q, hq, he⟩ := List.mem_map.1 hm
      have := h.given q hq
      omega
    rw [List.map_append, List.nodup_append]
    refine ⟨h.once, by simp, ?_⟩
    rintro a ha b hb rfl
    obtain rfl := List.mem_singleton.1 hb
    exact hn ha
  given q hq := by
    obtain hq | hq := List.mem_append.1 hq
    · have := h.given q hq
      omega
    · obtain rfl := List.mem_singleton.1 hq
      omega
  fits q hq := by
    obtain hq | hq := List.mem_append.1 hq
    · exact h.fits q hq
    · obtain rfl := List.mem_singleton.1 hq
      exact hf

theorem Numbered.map (h : Numbered id rows last) {f : α → α} (hf : ∀ r, id (f r) = id r) :
    Numbered id (rows.map f) last where
  once := by simpa [Function.comp_def, hf] using h.once
  given r hr := by
    obtain ⟨q, hq, rfl⟩ := List.mem_map.1 hr
    rw [hf]
    exact h.given q hq
  fits r hr := by
    obtain ⟨q, hq, rfl⟩ := List.mem_map.1 hr
    rw [hf]
    exact h.fits q hq

structure Orderly (s : Store) : Prop where
  ready : s.Ready
  digest : s.db.secret.digest ≠ some ""
  files : Numbered (·.id) s.db.files s.db.lastFile
  history : Numbered (·.id) s.db.history s.db.lastHistory
  times : ∀ h ∈ s.db.history, h.calculatedAt ≠ ""

theorem orderly_empty : Orderly empty :=
  ⟨ready_empty, by simp [empty, ofDatabase, Database.empty], numbered_nil, numbered_nil, by
    simp [empty, ofDatabase, Database.empty]⟩

variable {s : Store}

theorem Orderly.findFile (h : s.Orderly) {r : FileRecord} (hr : r ∈ s.db.files) :
    s.findFile r.id = some r :=
  find?_id h.files.once hr

theorem Orderly.setSecret (h : s.Orderly) {secret : Secret} (hd : secret.digest ≠ some "") :
    (s.withDatabase { s.db with secret := secret }).Orderly :=
  ⟨h.ready.withDatabase rfl, hd, h.files, h.history, h.times⟩

theorem Orderly.addFile (h : s.Orderly) {row : FileRecord} (hi : row.id = s.db.lastFile + 1)
    (hf : fitsColumn row.id = true) : (s.addFile row).Orderly where
  ready := h.ready.withDatabase rfl
  digest := h.digest
  files := h.files.append hi hf
  history := h.history
  times := h.times

theorem Orderly.removeFile (h : s.Orderly) (id : Int) : (s.removeFile id).Orderly where
  ready := h.ready.withDatabase rfl
  digest := h.digest
  files := h.files.sublist List.filter_sublist
  history := h.history
  times := h.times

theorem Orderly.withSecret (h : s.Orderly) {secret : Secret} (hd : secret.digest ≠ some "")
    (transform : Bytes → Bytes) : (s.withSecret secret transform).Orderly where
  ready := h.ready.withDatabase rfl
  digest := hd
  files := h.files.map fun _ => rfl
  history := h.history
  times := h.times

theorem Orderly.addCalculation (h : s.Orderly) {row : HistoryRecord}
    (hi : row.id = s.db.lastHistory + 1) (hf : fitsColumn row.id = true)
    (ht : row.calculatedAt ≠ "") : (s.addCalculation row).Orderly where
  ready := h.ready.withDatabase rfl
  digest := h.digest
  files := h.files
  history := h.history.append hi hf
  times q hq := by
    obtain hq | hq := List.mem_append.1 hq
    · exact h.times q hq
    · obtain rfl := List.mem_singleton.1 hq
      exact ht

theorem Orderly.removeCalculation (h : s.Orderly) (id : Int) :
    (s.removeCalculation id).Orderly where
  ready := h.ready.withDatabase rfl
  digest := h.digest
  files := h.files
  history := h.history.sublist List.filter_sublist
  times q hq := h.times q (List.mem_filter.1 hq).1

theorem Orderly.clear (h : s.Orderly) : (s.withDatabase { s.db with history := [] }).Orderly where
  ready := h.ready.withDatabase rfl
  digest := h.digest
  files := h.files
  history := h.history.sublist (List.nil_sublist _)
  times := by simp [withDatabase]

/-- A calculation from outside that tells one of the rows again, under whatever id. -/
def Retells (rows : List HistoryRecord) (r : RawRecord) : Prop :=
  ∃ h ∈ rows, ∃ id, r = { RawRecord.ofRecord h with id := id }

theorem keepable_ofRecord (now : Time.Present) {h : HistoryRecord} (ht : h.calculatedAt ≠ "")
    (id : Int) :
    keepable now { RawRecord.ofRecord h with id := id } = .ok { h with id := id } := by
  have hp : Text.points h.calculatedAt ≠ [] := by simpa [Text.points] using ht
  simp [keepable, RawRecord.ofRecord, RawRecord.encode, Text.encodable_points, hp]

theorem keepableFront_retold (now : Time.Present) {records : List RawRecord}
    {rows : List HistoryRecord} (hr : ∀ r ∈ records, Retells rows r)
    (ht : ∀ h ∈ rows, h.calculatedAt ≠ "") :
    ∃ kept, keepableFront now records = (kept, none) ∧
      ∀ q ∈ kept, ∃ h ∈ rows, h.mergeKey = q.mergeKey := by
  induction records with
  | nil => exact ⟨[], rfl, by simp⟩
  | cons r records ih =>
    obtain ⟨kept, hk, hm⟩ := ih fun r hmem => hr r (List.mem_cons_of_mem _ hmem)
    obtain ⟨h, hh, id, rfl⟩ := hr r List.mem_cons_self
    refine ⟨{ h with id := id } :: kept, ?_, ?_⟩
    · unfold keepableFront
      rw [keepable_ofRecord now (ht h hh), hk]
    · intro q hq
      obtain rfl | hq := List.mem_cons.1 hq
      · exact ⟨h, hh, rfl⟩
      · exact hm q hq

theorem appendUnknown_known (now : Time.Present) {records : List HistoryRecord}
    {known : List (String × String × String)} (h : ∀ r ∈ records, r.mergeKey ∈ known) (s : Store) :
    appendUnknown now records known s = (.ok 0, s) := by
  induction records with
  | nil => rfl
  | cons r records ih =>
    have hc : known.contains r.mergeKey = true := by simpa using h r List.mem_cons_self
    unfold appendUnknown
    rw [if_pos hc]
    exact ih fun q hq => h q (List.mem_cons_of_mem _ hq)

/-- What the store holds is not taken in once more. -/
theorem Orderly.mergeRaw_retold (h : s.Orderly) (now : Time.Present) {records : List RawRecord}
    (hr : ∀ r ∈ records, Retells s.db.history r) : s.mergeRaw records now = (.ok 0, s) := by
  obtain ⟨kept, hk, hm⟩ := keepableFront_retold now hr h.times
  have hl : s.mergeHistory kept now = (.ok 0, s) := by
    unfold mergeHistory
    split
    · rfl
    · rw [listHistory_open h.ready.isOpen]
      dsimp only
      apply appendUnknown_known
      intro q hq
      obtain ⟨r, hr, he⟩ := hm q hq
      exact List.mem_map.2 ⟨r, (newestFirst_perm _ _ _).mem_iff.2 hr, he⟩
  unfold mergeRaw
  rw [hk]
  dsimp only
  rw [hl]

end CovertVault.Store
