import CovertVault.Proofs.InPlace
import CovertVault.Proofs.Store.Listing

namespace CovertVault.Store
open InPlace

variable {ε : Type}

inductive Operation (ε : Type) where
  | putFile (name ext : String) (ciphertext : Bytes) (size : Int)
  | deleteFile (id : Int)
  | rekeyFiles (transform : Nat → Bytes → Except ε Bytes) (digest : Option String)
      (canary : Option Bytes)
  | appendHistory (expression result : String) (at? : Option String)
  | deleteHistory (id : Int)
  | clearHistory
  | close
  | reopen (path : String)

/-- The id of a new row, if there is one. -/
abbrev Answer (ε : Type) := Except (RekeyError ε) (Option Int)

/-- What an operation answers and the store behind it, where it does not fail. -/
def Operation.attempt (o : Operation ε) (now : Time.Present) (s : Store) :
    Except (RekeyError ε) (Option Int × Store) :=
  match o with
  | .putFile name ext ciphertext size =>
    ((s.putFile name ext ciphertext size now).mapError .store).map fun (id, t) => (some id, t)
  | .deleteFile id => ((s.deleteFile id).mapError .store).map (none, ·)
  | .rekeyFiles transform digest canary =>
    (s.rekeyFiles transform digest canary).map fun (_, t) => (none, t)
  | .appendHistory expression result at? =>
    ((s.appendHistory expression result at? now).mapError .store).map fun (id, t) => (some id, t)
  | .deleteHistory id => ((s.deleteHistory id).mapError .store).map (none, ·)
  | .clearHistory => (s.clearHistory.mapError .store).map (none, ·)
  | .close => .ok (none, s.close)
  | .reopen path => ((ofDatabaseAt path now s.db).mapError .store).map (none, ·)

/-- An operation that fails leaves the store. -/
def Operation.step (o : Operation ε) (now : Time.Present) (s : Store) : Answer ε × Store :=
  settle s (o.attempt now s)

/-- An operation with the time of the day at it, and what it answered. -/
structure Note (ε : Type) where
  operation : Operation ε
  now : Time.Present
  answer : Answer ε

def run (operations : List (Operation ε × Time.Present)) (s : Store) : Store :=
  operations.foldl (fun s (o, now) => (o.step now s).2) s

def notes : List (Operation ε × Time.Present) → Store → List (Note ε)
  | [], _ => []
  | (o, now) :: rest, s => ⟨o, now, (o.step now s).1⟩ :: notes rest (o.step now s).2

/-- A new store over a database that refuses some writes. -/
def refusing (faults : List Fault) : Store := ofDatabase { Database.empty with faults := faults }

namespace Note

def fileId? (m : Note ε) : Option Int :=
  match m.operation, m.answer with
  | .putFile .., .ok id => id
  | _, _ => none

def calculationId? (m : Note ε) : Option Int :=
  match m.operation, m.answer with
  | .appendHistory .., .ok id => id
  | _, _ => none

/-- A file was put in, at the present. -/
def AddsFile (m : Note ε) (row : FileMeta) : Prop :=
  (∃ ciphertext, m.operation = .putFile row.displayName row.extension ciphertext row.size) ∧
    m.now = .ok row.uploadedAt ∧ m.answer = .ok (some row.id)

def DropsFile (m : Note ε) (id : Int) : Prop :=
  m.operation = .deleteFile id ∧ m.answer = .ok none

/-- A calculation was put in, at the time that was given with it or else at the present. -/
def AddsCalculation (m : Note ε) (row : HistoryRecord) : Prop :=
  (∃ at?, m.operation = .appendHistory row.expression row.result at? ∧
    (at? = some row.calculatedAt ∧ row.calculatedAt ≠ "" ∨
      (at? = none ∨ at? = some "") ∧ m.now = .ok row.calculatedAt)) ∧
    m.answer = .ok (some row.id)

def DropsCalculation (m : Note ε) (id : Int) : Prop :=
  (m.operation = .deleteHistory id ∨ m.operation = .clearHistory) ∧ m.answer = .ok none

end Note

/-- How a table is told from the notes. -/
structure Ledger (ε α : Type) where
  id : α → Int
  returned : Note ε → Option Int
  adds : Note ε → α → Prop
  drops : Note ε → Int → Prop

namespace Ledger

def files : Ledger ε FileMeta := ⟨(·.id), Note.fileId?, Note.AddsFile, Note.DropsFile⟩

def calculations : Ledger ε HistoryRecord :=
  ⟨(·.id), Note.calculationId?, Note.AddsCalculation, Note.DropsCalculation⟩

variable {α : Type}

/-- The ids that were returned, in the order of the operations. -/
def issued (l : Ledger ε α) (noted : List (Note ε)) : List Int := noted.filterMap l.returned

/-- A row was put in, and it was not taken out since. -/
def Stands (l : Ledger ε α) (noted : List (Note ε)) (row : α) : Prop :=
  ∃ before m after, noted = before ++ m :: after ∧ l.adds m row ∧
    ∀ n ∈ after, ¬ l.drops n (l.id row)

end Ledger

/-- The rows that an operation is about, by its answer: the one that it has put in or taken out, or
all of a table. One that fails is about none. -/
inductive Concerns : Operation ε → Answer ε → Table → Int → Prop
  | putFile {name ext : String} {ciphertext : Bytes} {size id : Int} :
      Concerns (.putFile name ext ciphertext size) (.ok (some id)) .files id
  | deleteFile {id : Int} : Concerns (.deleteFile id) (.ok none) .files id
  | rekeyFiles {transform : Nat → Bytes → Except ε Bytes} {digest : Option String}
      {canary : Option Bytes} {id : Int} :
      Concerns (.rekeyFiles transform digest canary) (.ok none) .files id
  | rekeySecret {transform : Nat → Bytes → Except ε Bytes} {digest : Option String}
      {canary : Option Bytes} {id : Int} :
      Concerns (.rekeyFiles transform digest canary) (.ok none) .config id
  | appendHistory {expression result : String} {at? : Option String} {id : Int} :
      Concerns (.appendHistory expression result at?) (.ok (some id)) .history id
  | deleteHistory {id : Int} : Concerns (.deleteHistory id) (.ok none) .history id
  | clearHistory {id : Int} : Concerns .clearHistory (.ok none) .history id

/-- The same row with an id in a table of two stores, or none in both. -/
def SameRow (s t : Store) : Table → Int → Prop
  | .config, _ => t.db.secret = s.db.secret
  | .files, id => t.findFile id = s.findFile id
  | .history, id => t.db.history.find? (·.id = id) = s.db.history.find? (·.id = id)

def metas (s : Store) : List FileMeta := s.db.files.map (·.toFileMeta)

/-- What an operation does: nothing where it fails, and otherwise one change to one table or to a
table and the secret. -/
inductive Happens (s : Store) : Operation ε → Time.Present → Answer ε → Store → Prop
  | fails (o : Operation ε) (now : Time.Present) (e : RekeyError ε) : Happens s o now (.error e) s
  | putFile {name ext : String} {ciphertext : Bytes} {size : Int} {time : String} :
      fitsColumn (s.db.lastFile + 1) = true →
      Happens s (.putFile name ext ciphertext size) (.ok time) (.ok (some (s.db.lastFile + 1)))
        (s.addFile ⟨⟨s.db.lastFile + 1, name, ext, size, time⟩, ciphertext⟩)
  | deleteFile (id : Int) (now : Time.Present) :
      Happens s (.deleteFile id) now (.ok none) (s.removeFile id)
  | rekeyFiles {transform : Nat → Bytes → Except ε Bytes} {digest : Option String}
      {canary : Option Bytes} {now : Time.Present} {files : List FileRecord} {secret : Secret} :
      files.map (·.toFileMeta) = s.metas →
      Happens s (.rekeyFiles transform digest canary) now (.ok none)
        (s.withDatabase { s.db with files := files, secret := secret })
  | appendHistory {expression result : String} {at? : Option String} {now : Time.Present}
      {time : String} : timeOr at? now = .ok time → fitsColumn (s.db.lastHistory + 1) = true →
      Happens s (.appendHistory expression result at?) now (.ok (some (s.db.lastHistory + 1)))
        (s.addCalculation ⟨s.db.lastHistory + 1, expression, result, time⟩)
  | deleteHistory (id : Int) (now : Time.Present) :
      Happens s (.deleteHistory id) now (.ok none) (s.removeCalculation id)
  | clearHistory (now : Time.Present) :
      Happens s .clearHistory now (.ok none) (s.withDatabase { s.db with history := [] })
  | close (now : Time.Present) : Happens s .close now (.ok none) s.close
  | reopen (path : String) (now : Time.Present) :
      Happens s (.reopen path) now (.ok none) (ofDatabase s.db)

theorem ofDatabaseAt_ok {path : String} {now : Time.Present} {db : Database} {t : Store}
    (h : ofDatabaseAt path now db = .ok t) : t = ofDatabase db := by
  unfold ofDatabaseAt at h
  obtain ⟨-, -, h⟩ := bind_eq_ok h
  dsimp only at h
  split at h
  · cases h
  · exact (Except.ok.inj h).symm

theorem happens_of_attempt {o : Operation ε} {now : Time.Present} {s t : Store} {id? : Option Int}
    (h : o.attempt now s = .ok (id?, t)) : Happens s o now (.ok id?) t := by
  cases o with
  | putFile name ext ciphertext size =>
    obtain ⟨⟨id, t'⟩, hp, he⟩ := map_eq_ok h
    cases he
    obtain ⟨time, rfl, ⟨rfl, hf⟩, rfl⟩ := putFile_ok (mapError_eq_ok hp)
    exact .putFile hf
  | deleteFile id =>
    obtain ⟨t', hp, he⟩ := map_eq_ok h
    cases he
    obtain rfl := deleteFile_ok (mapError_eq_ok hp)
    exact .deleteFile id now
  | rekeyFiles transform digest canary =>
    obtain ⟨⟨n, t'⟩, hp, he⟩ := map_eq_ok h
    cases he
    obtain ⟨files, hm, rfl⟩ := rekeyFiles_metas hp
    exact .rekeyFiles hm
  | appendHistory expression result at? =>
    obtain ⟨⟨id, t'⟩, hp, he⟩ := map_eq_ok h
    cases he
    obtain ⟨time, ht, ⟨rfl, hf⟩, rfl⟩ := appendHistory_ok (mapError_eq_ok hp)
    exact .appendHistory ht hf
  | deleteHistory id =>
    obtain ⟨t', hp, he⟩ := map_eq_ok h
    cases he
    obtain rfl := deleteHistory_ok (mapError_eq_ok hp)
    exact .deleteHistory id now
  | clearHistory =>
    obtain ⟨t', hp, he⟩ := map_eq_ok h
    cases he
    obtain rfl := clearHistory_ok (mapError_eq_ok hp)
    exact .clearHistory now
  | close =>
    cases h
    exact .close now
  | reopen path =>
    obtain ⟨t', hp, he⟩ := map_eq_ok h
    cases he
    obtain rfl := ofDatabaseAt_ok (mapError_eq_ok hp)
    exact .reopen path now

theorem happens_step (o : Operation ε) (now : Time.Present) (s : Store) :
    Happens s o now (o.step now s).1 (o.step now s).2 := by
  unfold Operation.step
  cases h : o.attempt now s with
  | error e => exact .fails o now e
  | ok r => exact happens_of_attempt h

namespace Ledger

variable {α : Type} {l : Ledger ε α} {noted : List (Note ε)} {rows : List α} {last : Int}

theorem stands_snoc (m : Note ε) (row : α) :
    l.Stands (noted ++ [m]) row ↔
      l.adds m row ∨ l.Stands noted row ∧ ¬ l.drops m (l.id row) := by
  constructor
  · rintro ⟨before, n, after, he, ha, hd⟩
    obtain rfl | ⟨after, n', rfl⟩ := List.eq_nil_or_concat' after
    · obtain ⟨-, hm⟩ := List.append_inj' he rfl
      obtain rfl := (List.cons.inj hm).1
      exact .inl ha
    · rw [← List.cons_append, ← List.append_assoc] at he
      obtain ⟨rfl, hm⟩ := List.append_inj' he rfl
      obtain rfl := (List.cons.inj hm).1
      exact .inr ⟨⟨before, n, after, rfl, ha, fun q hq => hd q (List.mem_append_left _ hq)⟩,
        hd m (by simp)⟩
  · rintro (ha | ⟨⟨before, n, after, rfl, ha, hd⟩, hm⟩)
    · exact ⟨noted, m, [], rfl, ha, List.forall_mem_nil _⟩
    · refine ⟨before, n, after ++ [m], by simp, ha, fun q hq => ?_⟩
      obtain hq | hq := List.mem_append.1 hq
      · exact hd q hq
      · rwa [List.mem_singleton.1 hq]

/-- The rows of a table are those that stand by the notes, and no id beyond the last one given out
was ever returned. -/
structure Tracks (l : Ledger ε α) (noted : List (Note ε)) (rows : List α) (last : Int) : Prop where
  numbered : Numbered l.id rows last
  rising : (l.issued noted).Pairwise (· < ·)
  issued_le : ∀ id ∈ l.issued noted, id ≤ last
  mem_iff : ∀ row, row ∈ rows ↔ l.Stands noted row

theorem tracks_nil (l : Ledger ε α) : l.Tracks [] [] last where
  numbered := numbered_nil
  rising := .nil
  issued_le := nofun
  mem_iff row := ⟨nofun, fun ⟨before, m, after, he, _, _⟩ => by simp at he⟩

theorem issued_snoc (m : Note ε) :
    l.issued (noted ++ [m]) = l.issued noted ++ (l.returned m).toList := by
  cases hm : l.returned m <;> simp [issued, hm]

/-- An operation that has nothing to do with a table. -/
structure Quiet (l : Ledger ε α) (m : Note ε) : Prop where
  returned : l.returned m = none
  adds : ∀ row, ¬ l.adds m row
  drops : ∀ id, ¬ l.drops m id

/-- What returns no id and adds nothing keeps the rows that it does not drop. -/
theorem Tracks.drop (h : l.Tracks noted rows last) {m : Note ε} (hr : l.returned m = none)
    (ha : ∀ row, ¬ l.adds m row) {p : α → Bool} (hd : ∀ row, l.drops m (l.id row) ↔ p row = false) :
    l.Tracks (noted ++ [m]) (rows.filter p) last := by
  have hi : l.issued (noted ++ [m]) = l.issued noted := by
    rw [issued_snoc, hr, Option.toList_none, List.append_nil]
  refine ⟨h.numbered.sublist List.filter_sublist, by rw [hi]; exact h.rising,
    by rw [hi]; exact h.issued_le, fun row => ?_⟩
  rw [List.mem_filter, stands_snoc, h.mem_iff, hd, Bool.not_eq_false]
  exact ⟨.inr, fun hs => hs.resolve_left (ha row)⟩

theorem Tracks.keep (h : l.Tracks noted rows last) {m : Note ε} (hm : l.Quiet m) :
    l.Tracks (noted ++ [m]) rows last := by
  have hk := h.drop (p := fun _ => true) hm.returned hm.adds fun row => by simp [hm.drops]
  rwa [List.filter_true] at hk

/-- A new row has the id behind the last one. -/
theorem Tracks.add (h : l.Tracks noted rows last) {m : Note ε} {x : α}
    (hr : l.returned m = some (l.id x)) (ha : ∀ q, l.adds m q ↔ q = x)
    (hd : ∀ id, ¬ l.drops m id) (hi : l.id x = last + 1) (hf : fitsColumn (l.id x) = true) :
    l.Tracks (noted ++ [m]) (rows ++ [x]) (l.id x) := by
  have hs : l.issued (noted ++ [m]) = l.issued noted ++ [l.id x] := by
    rw [issued_snoc, hr, Option.toList_some]
  refine ⟨h.numbered.append hi hf, ?_, fun id hm => ?_, fun q => ?_⟩
  · rw [hs, List.pairwise_append]
    refine ⟨h.rising, List.pairwise_singleton _ _, fun a hm b hb => ?_⟩
    rw [List.mem_singleton.1 hb]
    have := h.issued_le a hm
    omega
  · rw [hs] at hm
    obtain hm | hm := List.mem_append.1 hm
    · have := h.issued_le id hm
      omega
    · exact (List.mem_singleton.1 hm).le
  · rw [List.mem_append, List.mem_singleton, stands_snoc, h.mem_iff, ha]
    exact ⟨fun hq => hq.elim (fun hq => .inr ⟨hq, hd _⟩) .inl,
      fun hq => hq.elim .inr fun hq => .inl hq.1⟩

end Ledger

/-- Both tables against the notes. -/
structure Tracks (noted : List (Note ε)) (s : Store) : Prop where
  files : Ledger.files.Tracks noted s.metas s.db.lastFile
  calculations : Ledger.calculations.Tracks noted s.db.history s.db.lastHistory
  hidden : s.hidden = []

/-- The table whose rows an operation puts in or takes out. -/
def Operation.table? : Operation ε → Option Table
  | .putFile .. | .deleteFile _ => some .files
  | .appendHistory .. | .deleteHistory _ | .clearHistory => some .history
  | .rekeyFiles .. | .close | .reopen _ => none

theorem quiet_files {o : Operation ε} (h : o.table? ≠ some .files) (now : Time.Present)
    (r : Answer ε) : Ledger.files.Quiet ⟨o, now, r⟩ := by
  constructor <;> cases o <;>
    simp [Operation.table?, Ledger.files, Note.fileId?, Note.AddsFile, Note.DropsFile] at h ⊢

theorem quiet_calculations {o : Operation ε} (h : o.table? ≠ some .history) (now : Time.Present)
    (r : Answer ε) : Ledger.calculations.Quiet ⟨o, now, r⟩ := by
  constructor <;> cases o <;>
    simp [Operation.table?, Ledger.calculations, Note.calculationId?, Note.AddsCalculation,
      Note.DropsCalculation] at h ⊢

theorem quiet_error (o : Operation ε) (now : Time.Present) (e : RekeyError ε) :
    Ledger.files.Quiet ⟨o, now, .error e⟩ ∧ Ledger.calculations.Quiet ⟨o, now, .error e⟩ := by
  constructor <;> constructor <;> cases o <;>
    simp [Ledger.files, Ledger.calculations, Note.fileId?, Note.calculationId?, Note.AddsFile,
      Note.DropsFile, Note.AddsCalculation, Note.DropsCalculation]

/-- The time of a calculation is the one given with it, unless there is none. -/
theorem timeOr_eq_ok {at? : Option String} {now : Time.Present} {time : String} :
    timeOr at? now = .ok time ↔
      at? = some time ∧ time ≠ "" ∨ (at? = none ∨ at? = some "") ∧ now = .ok time := by
  have hn : now.mapError Error.time = .ok time ↔ now = .ok time := by cases now <;> simp
  cases at? with
  | none => simp [timeOr, hn]
  | some t =>
    by_cases ht : t = ""
    · subst ht
      have hm : timeOr (some "") now = now.mapError Error.time := rfl
      rw [hm, hn]
      simp
    · have he : Except.ok (ε := Error) t = .ok time ↔ t = time ∧ time ≠ "" :=
        ⟨fun h => by cases h; exact ⟨rfl, ht⟩, fun h => by rw [h.1]⟩
      simp [timeOr, Option.filter, ht, he]

variable {noted : List (Note ε)} {s t : Store}

theorem metas_addFile (s : Store) (row : FileRecord) :
    (s.addFile row).metas = s.metas ++ [row.toFileMeta] := by
  unfold metas addFile withDatabase
  rw [List.map_append, List.map_singleton]

theorem metas_removeFile (s : Store) (id : Int) :
    (s.removeFile id).metas = s.metas.filter (·.id ≠ id) := by
  unfold metas removeFile withDatabase
  rw [List.filter_map]
  rfl

theorem addsFile_iff {name ext time : String} {ciphertext : Bytes} {size id : Int}
    {row : FileMeta} :
    (⟨.putFile name ext ciphertext size, .ok time, .ok (some id)⟩ : Note ε).AddsFile row ↔
      row = ⟨id, name, ext, size, time⟩ := by
  obtain ⟨id', name', ext', size', time'⟩ := row
  constructor
  · rintro ⟨⟨c, ho⟩, hn, hr⟩
    cases ho
    cases hn
    cases hr
    rfl
  · rintro ⟨⟩
    exact ⟨⟨ciphertext, rfl⟩, rfl, rfl⟩

theorem addsCalculation_iff {expression result time : String} {at? : Option String} {id : Int}
    {now : Time.Present} {row : HistoryRecord} (ht : timeOr at? now = .ok time) :
    (⟨.appendHistory expression result at?, now, .ok (some id)⟩ : Note ε).AddsCalculation row ↔
      row = ⟨id, expression, result, time⟩ := by
  obtain ⟨id', expression', result', time'⟩ := row
  constructor
  · rintro ⟨⟨at', ho, hat⟩, hr⟩
    cases ho
    cases hr
    cases ht.symm.trans (timeOr_eq_ok.2 hat)
    rfl
  · rintro ⟨⟩
    exact ⟨⟨at?, rfl, timeOr_eq_ok.1 ht⟩, rfl⟩

theorem Tracks.happens (h : Tracks noted s) {o : Operation ε} {now : Time.Present} {r : Answer ε}
    (hs : Happens s o now r t) : Tracks (noted ++ [⟨o, now, r⟩]) t := by
  have hf (ho : o.table? ≠ some .files) := h.files.keep (quiet_files ho now r)
  have hc (ho : o.table? ≠ some .history) := h.calculations.keep (quiet_calculations ho now r)
  cases hs with
  | fails o now e =>
    obtain ⟨hf, hc⟩ := quiet_error o now e
    exact ⟨h.files.keep hf, h.calculations.keep hc, h.hidden⟩
  | @putFile name ext ciphertext size time hfits =>
    refine ⟨?_, hc (by simp [Operation.table?]), h.hidden⟩
    rw [metas_addFile]
    refine h.files.add (x := ⟨s.db.lastFile + 1, name, ext, size, time⟩) rfl
      (fun q => addsFile_iff) ?_ rfl hfits
    simp [Ledger.files, Note.DropsFile]
  | deleteFile id =>
    refine ⟨?_, hc (by simp [Operation.table?]), h.hidden⟩
    rw [metas_removeFile]
    refine h.files.drop rfl ?_ fun row => ?_
    · simp [Ledger.files, Note.AddsFile]
    · simp [Ledger.files, Note.DropsFile]
      exact eq_comm
  | rekeyFiles hm =>
    refine ⟨?_, hc (by simp [Operation.table?]), h.hidden⟩
    have hk := hf (by simp [Operation.table?])
    rwa [← hm] at hk
  | @appendHistory expression result at? now time ht hfits =>
    refine ⟨hf (by simp [Operation.table?]), ?_, h.hidden⟩
    refine h.calculations.add rfl (fun q => addsCalculation_iff ht) ?_ rfl hfits
    simp [Ledger.calculations, Note.DropsCalculation]
  | deleteHistory id =>
    refine ⟨hf (by simp [Operation.table?]), h.calculations.drop rfl ?_ fun row => ?_, h.hidden⟩
    · simp [Ledger.calculations, Note.AddsCalculation]
    · simp [Ledger.calculations, Note.DropsCalculation]
      exact eq_comm
  | clearHistory now =>
    refine ⟨hf (by simp [Operation.table?]), ?_, h.hidden⟩
    have hd := h.calculations.drop (m := ⟨.clearHistory, now, .ok none⟩) (p := fun _ => false) rfl
      (by simp [Ledger.calculations, Note.AddsCalculation])
      (by simp [Ledger.calculations, Note.DropsCalculation])
    rwa [List.filter_false] at hd
  | close => exact ⟨hf (by simp [Operation.table?]), hc (by simp [Operation.table?]), h.hidden⟩
  | reopen => exact ⟨hf (by simp [Operation.table?]), hc (by simp [Operation.table?]), rfl⟩

/-- What a run notes, behind what was noted before. -/
theorem Tracks.run (h : Tracks noted s) (operations : List (Operation ε × Time.Present)) :
    Tracks (noted ++ notes operations s) (run operations s) := by
  induction operations generalizing noted s with
  | nil =>
    rw [notes, List.append_nil]
    exact h
  | cons p operations ih =>
    obtain ⟨o, now⟩ := p
    -- This note is behind those from before, and the later ones are behind it.
    have hr := ih (h.happens (happens_step o now s))
    rw [List.append_assoc, List.singleton_append] at hr
    exact hr

theorem tracks_run (faults : List Fault) (operations : List (Operation ε × Time.Present)) :
    Tracks (notes operations (refusing faults)) (Store.run operations (refusing faults)) := by
  have h : Tracks ([] : List (Note ε)) (refusing faults) :=
    ⟨Ledger.tracks_nil _, Ledger.tracks_nil _, rfl⟩
  exact h.run operations

section

variable {α : Type} {id : α → Int} {i : Int}

theorem find?_append_other {r : α} (h : id r ≠ i) (rows : List α) :
    (rows ++ [r]).find? (fun q => id q = i) = rows.find? fun q => id q = i := by
  rw [List.find?_append, List.find?_cons_of_neg (by simpa using h), List.find?_nil, Option.or_none]

theorem find?_filter_other {j : Int} (h : j ≠ i) (rows : List α) :
    (rows.filter (fun q => id q ≠ j)).find? (fun q => id q = i) =
      rows.find? fun q => id q = i := by
  rw [List.find?_filter]
  congr 1
  funext q
  by_cases hq : id q = i
  · simp [hq, h.symm]
  · simp [hq]

end

theorem Happens.sameRow {o : Operation ε} {now : Time.Present} {r : Answer ε}
    (h : Happens s o now r t) {table : Table} {id : Int} (hc : ¬ Concerns o r table id) :
    SameRow s t table id := by
  cases h with
  | fails | close | reopen => cases table <;> rfl
  | putFile =>
    cases table with
    | config | history => rfl
    | files =>
      refine find?_append_other ?_ _
      rintro rfl
      exact hc .putFile
  | deleteFile j =>
    cases table with
    | config | history => rfl
    | files =>
      refine find?_filter_other ?_ _
      rintro rfl
      exact hc .deleteFile
  | rekeyFiles =>
    cases table with
    | config => exact absurd .rekeySecret hc
    | files => exact absurd .rekeyFiles hc
    | history => rfl
  | appendHistory =>
    cases table with
    | config | files => rfl
    | history =>
      refine find?_append_other ?_ _
      rintro rfl
      exact hc .appendHistory
  | deleteHistory j =>
    cases table with
    | config | files => rfl
    | history =>
      refine find?_filter_other ?_ _
      rintro rfl
      exact hc .deleteHistory
  | clearHistory =>
    cases table with
    | config | files => rfl
    | history => exact absurd .clearHistory hc

/-- What an open store shows: each row that stands by the notes once, newest first, and exactly the
listed files by their ids. -/
structure Lists (noted : List (Note ε)) (s : Store) (files : List FileMeta)
    (calculations : List HistoryRecord) : Prop where
  listFiles : s.listFiles = .ok files
  listHistory : s.listHistory = .ok calculations
  files_newer : files.Pairwise (Newer (·.uploadedAt) (·.id))
  calculations_newer : calculations.Pairwise (Newer (·.calculatedAt) (·.id))
  mem_files : ∀ row, row ∈ files ↔ Ledger.files.Stands noted row
  mem_calculations : ∀ row, row ∈ calculations ↔ Ledger.calculations.Stands noted row
  finds : ∀ row ∈ files, ∃ ciphertext, s.getFile row.id = .ok (some ⟨row, ciphertext⟩) ∧
    s.fileCiphertext row.id = .ok (some ciphertext)
  finds_none : ∀ id, (∀ row ∈ files, row.id ≠ id) →
    s.getFile id = (if fitsColumn id then .ok none else .error .integerTooLarge) ∧
      s.fileCiphertext id = if fitsColumn id then .ok none else .error .integerTooLarge

theorem Tracks.findFile_eq (h : Tracks noted s) {row : FileMeta} (hr : row ∈ s.metas) :
    ∃ ciphertext, s.findFile row.id = some ⟨row, ciphertext⟩ := by
  obtain ⟨r, hm, rfl⟩ := List.mem_map.1 hr
  have hid : (s.db.files.map fun r => r.id).Nodup := by
    have ho := h.files.numbered.once
    rwa [metas, List.map_map] at ho
  exact ⟨r.ciphertext, find?_id hid hm⟩

theorem findFile_none {id : Int} (h : ∀ row ∈ s.metas, row.id ≠ id) : s.findFile id = none := by
  refine List.find?_eq_none.2 fun r hr => ?_
  simpa using h _ (List.mem_map.2 ⟨r, hr, rfl⟩)

theorem Tracks.lists (h : Tracks noted s) (ho : s.isOpen = true) :
    ∃ files calculations, Lists noted s files calculations := by
  have hf (row : FileMeta) : row ∈ newestFirst (·.uploadedAt) (·.id) s.metas ↔ row ∈ s.metas :=
    (newestFirst_perm _ _ _).mem_iff
  have hc (row : HistoryRecord) :
      row ∈ newestFirst (·.calculatedAt) (·.id) s.db.history ↔ row ∈ s.db.history :=
    (newestFirst_perm _ _ _).mem_iff
  refine ⟨_, _, listFiles_open ho, listHistory_open ho, newer_newestFirst h.files.numbered.once,
    newer_newestFirst h.calculations.numbered.once, fun row => (hf row).trans (h.files.mem_iff row),
    fun row => (hc row).trans (h.calculations.mem_iff row), fun row hr => ?_, fun id hid => ?_⟩
  · have hm := (hf row).1 hr
    obtain ⟨ciphertext, hfind⟩ := h.findFile_eq hm
    have hfits : fitsColumn row.id = true := h.files.numbered.fits row hm
    rw [getFile_open ho h.hidden, fileCiphertext_open ho, if_pos hfits, if_pos hfits, hfind]
    exact ⟨ciphertext, rfl, rfl⟩
  · have hnone := findFile_none fun row hr => hid row ((hf row).2 hr)
    rw [getFile_open ho h.hidden, fileCiphertext_open ho, hnone]
    exact ⟨rfl, rfl⟩

/-- The tables after any run of operations, whatever the clock shows and whichever writes fail. Each
table returns larger and larger ids. An open store lists every row that was put in and not taken out
since, once, newest first, and finds exactly the listed files. And an operation leaves every row
that it is not about, and a failed one all of them. -/
theorem tables_run (faults : List Fault) (operations : List (Operation ε × Time.Present)) :
    let s := Store.run operations (refusing faults)
    let noted := notes operations (refusing faults)
    (Ledger.files.issued noted).Pairwise (· < ·) ∧
      (Ledger.calculations.issued noted).Pairwise (· < ·) ∧
      (s.isOpen = true → ∃ files calculations, Lists noted s files calculations) ∧
      ∀ (o : Operation ε) now table id, ¬ Concerns o (o.step now s).1 table id →
        SameRow s (o.step now s).2 table id := by
  intro s noted
  have h := tracks_run faults operations
  exact ⟨h.files.rising, h.calculations.rising, h.lists,
    fun o now _ _ hc => (happens_step o now s).sameRow hc⟩

/-- The newest file is deleted before the store is opened again, and the calculations are cleared;
the clock goes back, and one calculation is from another time. -/
def longLife : List (Operation String × Time.Present) :=
  [(.putFile "a" "txt" [1] 1, .ok "2024-01-02 09:00:00"),
    (.putFile "b" "txt" [2] 1, .ok "2024-01-03 09:00:00"),
    (.appendHistory "1+1" "2" none, .ok "2024-01-03 09:00:00"),
    (.deleteFile 2, .ok "2024-01-03 09:00:00"),
    (.clearHistory, .ok "2024-01-03 09:00:00"),
    (.close, .ok "2024-01-03 09:00:00"),
    (.reopen "v.db", .ok "2024-01-02 09:00:00"),
    (.putFile "c" "txt" [3] 1, .ok "2024-01-02 09:00:00"),
    (.rekeyFiles (fun _ c => .ok (0 :: c)) (some "d") none, .ok "2024-01-02 09:00:00"),
    (.appendHistory "2+2" "4" none, .ok "2024-01-02 09:00:00"),
    (.appendHistory "3+3" "6" (some "2023-01-01 09:00:00"), .ok "2024-01-02 09:00:00")]

theorem longLife_tables :
    let s := Store.run longLife (refusing [])
    Ledger.files.issued (notes longLife (refusing [])) = [1, 2, 3] ∧ s.isOpen = true ∧
      Lists (notes longLife (refusing [])) s
        [⟨3, "c", "txt", 1, "2024-01-02 09:00:00"⟩, ⟨1, "a", "txt", 1, "2024-01-02 09:00:00"⟩]
        [⟨2, "2+2", "4", "2024-01-02 09:00:00"⟩, ⟨3, "3+3", "6", "2023-01-01 09:00:00"⟩] ∧
      (∀ r, ¬ Concerns (.deleteFile 3 : Operation String) r .files 1) ∧
      SameRow s ((Operation.deleteFile 3 : Operation String).step (.ok "") s).2 .files 1 := by
  intro s
  obtain ⟨-, -, hlists, hsame⟩ := tables_run [] longLife
  have hother (r : Answer String) : ¬ Concerns (.deleteFile 3) r .files 1 := nofun
  have ho : s.isOpen = true := by decide +kernel
  obtain ⟨files, calculations, hl⟩ := hlists ho
  obtain rfl := Except.ok.inj (hl.listFiles.symm.trans (listFiles_open ho))
  obtain rfl := Except.ok.inj (hl.listHistory.symm.trans (listHistory_open ho))
  have hfiles : newestFirst (·.uploadedAt) (·.id) (s.db.files.map (·.toFileMeta)) =
      [⟨3, "c", "txt", 1, "2024-01-02 09:00:00"⟩, ⟨1, "a", "txt", 1, "2024-01-02 09:00:00"⟩] :=
    newestFirst_eq (by decide +kernel) (by decide +kernel) (by decide +kernel)
  have hcalculations : newestFirst (·.calculatedAt) (·.id) s.db.history =
      [⟨2, "2+2", "4", "2024-01-02 09:00:00"⟩, ⟨3, "3+3", "6", "2023-01-01 09:00:00"⟩] :=
    newestFirst_eq (by decide +kernel) (by decide +kernel) (by decide +kernel)
  rw [hfiles, hcalculations] at hl
  have hissued : Ledger.files.issued (notes longLife (refusing [])) = [1, 2, 3] := by
    decide +kernel
  have hleft := hsame (.deleteFile 3) (.ok "") .files 1 (hother _)
  exact ⟨hissued, ho, hl, hother, hleft⟩

end CovertVault.Store
