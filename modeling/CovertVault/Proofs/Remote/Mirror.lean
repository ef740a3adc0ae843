import CovertVault.Proofs.Base64
import CovertVault.Proofs.Json.Tree
import CovertVault.Proofs.Number.Digits
import CovertVault.Proofs.Store.Orderly
import CovertVault.Remote.Command

namespace CovertVault.Remote
open Store

theorem idKey_eq_toString (n : Int) : idKey n = toString n := by
  cases n with
  | ofNat m => rfl
  | negSucc m =>
    have hw : Number.intText (.negSucc m) = '-' :: Number.natText (m + 1) :=
      if_pos (Int.negSucc_lt_zero m)
    have hr : toString (Int.negSucc m) = "-" ++ String.ofList (Number.natText (m + 1)) := rfl
    rw [hr, idKey, hw, ← String.toList_inj, String.toList_append]
    simp only [String.toList_ofList]
    rfl

theorem idKey_injective : Function.Injective idKey := by
  intro m n h
  exact Number.intText_injective (String.ofList_injective h)

variable {α : Type} {id : α → Int} {rows : List α} {last : Int}

/-- The row whose id is written as a key. -/
def byKey (id : α → Int) (rows : List α) (key : String) : Option α :=
  rows.find? fun r => toString (id r) = key

theorem byKey_eq_find? (key : String) :
    byKey id rows key = rows.find? fun r => idKey (id r) = key := by
  simp only [byKey, idKey_eq_toString]

theorem byKey_eq_some (ho : (rows.map id).Nodup) {key : String} {r : α} :
    byKey id rows key = some r ↔ r ∈ rows ∧ idKey (id r) = key := by
  constructor
  · intro h
    rw [byKey_eq_find?] at h
    exact ⟨List.mem_of_find?_eq_some h, by simpa using List.find?_some h⟩
  · rintro ⟨hr, rfl⟩
    rw [byKey_eq_find?]
    simp only [idKey_injective.eq_iff]
    exact Store.find?_id ho hr

theorem byKey_eq_none {key : String} :
    byKey id rows key = none ↔ ∀ r ∈ rows, idKey (id r) ≠ key := by
  simp [byKey_eq_find?]

/-- The order of the rows does not matter. -/
theorem byKey_perm (ho : (rows.map id).Nodup) {rows' : List α} (hp : rows'.Perm rows)
    (key : String) : byKey id rows' key = byKey id rows key := by
  have ho' : (rows'.map id).Nodup := (hp.map id).nodup_iff.2 ho
  apply Option.ext
  intro r
  rw [byKey_eq_some ho', byKey_eq_some ho, hp.mem_iff]

theorem byKey_append (h : Numbered id rows last) {r : α} (hr : id r = last + 1)
    (key : String) :
    byKey id (rows ++ [r]) key = if key = idKey (id r) then some r else byKey id rows key := by
  rw [byKey_eq_find?, byKey_eq_find?, List.find?_append]
  split
  · next hk =>
    have hn : byKey id rows key = none := by
      rw [byKey_eq_none]
      intro q hq he
      have hi := idKey_injective (he.trans hk)
      have := h.given q hq
      omega
    rw [byKey_eq_find?] at hn
    rw [hn]
    simp [hk]
  · next hk => simp [Ne.symm hk]

theorem byKey_filter (n : Int) (key : String) :
    byKey id (rows.filter fun r => id r ≠ n) key =
      if key = idKey n then none else byKey id rows key := by
  rw [byKey_eq_find?, byKey_eq_find?, List.find?_filter]
  split
  · next hk =>
    rw [List.find?_eq_none]
    intro r _
    simp only [hk, decide_eq_true_eq, not_and]
    exact fun hn he => hn (idKey_injective he)
  · next hk =>
    congr 1
    funext r
    by_cases he : idKey (id r) = key
    · have hn : id r ≠ n := by
        rintro rfl
        exact hk he.symm
      simp [he, hn]
    · simp [he]

theorem byKey_map (f : α → α) (hf : ∀ r, id (f r) = id r) (key : String) :
    byKey id (rows.map f) key = (byKey id rows key).map f := by
  rw [byKey_eq_find?, byKey_eq_find?, List.find?_map]
  simp only [Function.comp_def, hf]

/-- An object of nodes by id has each row's node under its key. -/
theorem child?_byId (ho : (rows.map id).Nodup) (node : α → Json) (key : String) :
    (byId id node rows).child? key = (byKey id rows key).map node := by
  have hf (ms : List (String × Json)) : Json.field? (rows.foldl
      (fun members a => Json.insert (idKey (id a)) (node a) members) ms) key =
        ((byKey id rows key).map node).or (Json.field? ms key) := by
    induction rows generalizing ms with
    | nil => rfl
    | cons r rows ih =>
      obtain ⟨hr, ho⟩ := List.nodup_cons.1 ho
      rw [List.foldl_cons, ih ho, Json.field?_insert, byKey_eq_find?, byKey_eq_find?]
      by_cases hk : key = idKey (id r)
      · -- No later row has the same key.
        have hn : byKey id rows key = none := by
          rw [byKey_eq_none]
          intro q hq he
          exact hr (List.mem_map.2 ⟨q, hq, idKey_injective (he.trans hk)⟩)
        rw [byKey_eq_find?] at hn
        rw [hn, List.find?_cons_of_pos (by simp [hk]), if_pos hk]
        rfl
      · rw [List.find?_cons_of_neg (by simpa using Ne.symm hk), if_neg hk]
  have h := hf []
  simpa [byId, Json.child?, Json.members, Json.field?] using h

/-- What a change does to the tree when it is carried out at a time. -/
def Command.apply (now : Int) (k : Command) (tree : Json) : Json :=
  match k.body now with
  | some body => Json.put body k.node tree
  | none => Json.remove k.node tree

section

variable (now : Int) (t : Json)

theorem apply_backupDigest (digest : Option String) :
    (Command.backupDigest digest).apply now t = Json.put (digestNode digest now) ["config"] t := rfl

theorem apply_backupFile (f : FileRecord) :
    (Command.backupFile f).apply now t =
      Json.put (fileNode f (.int now)) ["vault_files", idKey f.id] t := rfl

theorem apply_deleteFile (id : Int) :
    (Command.deleteFile id).apply now t = Json.remove ["vault_files", idKey id] t := rfl

theorem apply_backupHistory {r : HistoryRecord} (hr : r.calculatedAt ≠ "") :
    (Command.backupHistory r).apply now t =
      Json.put (historyNode r (.str r.calculatedAt)) ["calculation_history", idKey r.id] t := by
  show Json.put (historyNode r (if r.calculatedAt = "" then .int now else .str r.calculatedAt))
    ["calculation_history", idKey r.id] t = _
  rw [if_neg hr]

theorem apply_deleteHistory (id : Int) :
    (Command.deleteHistory id).apply now t =
      Json.remove ["calculation_history", idKey id] t := rfl

theorem apply_clearHistory :
    Command.clearHistory.apply now t = Json.remove ["calculation_history"] t := rfl

end

/-- Changes carried out one after another, each at its time. -/
inductive Carried : List Command → Json → Json → Prop
  | nil (t : Json) : Carried [] t t
  | cons {k : Command} {ks : List Command} {t u : Json} (now : Int) :
      Carried ks (k.apply now t) u → Carried (k :: ks) t u

theorem Carried.single {k : Command} {t u : Json} (h : Carried [k] t u) :
    ∃ now, u = k.apply now t := by
  cases h with
  | cons now h =>
    cases h
    exact ⟨now, rfl⟩

/-- A node with a file's name, extension and size, and its ciphertext in base64. -/
structure ShowsFile (f : FileRecord) (v : Json) : Prop where
  name : v.child? "file_name" = some (.str f.displayName)
  extension : v.child? "original_extension" = some (.str f.extension)
  size : v.child? "file_size" = some (.int f.size)
  data : ∃ text, v.child? "file_data" = some (.str text) ∧
    text = Base64.encodeString Base64.standard f.ciphertext ∧
    Base64.decodeAscii? text.toList = some f.ciphertext

/-- A node with the texts of a calculation. -/
structure ShowsCalculation (r : HistoryRecord) (v : Json) : Prop where
  expression : v.child? "expression" = some (.str r.expression)
  result : v.child? "result" = some (.str r.result)
  calculatedAt : v.child? "calculated_at" = some (.str r.calculatedAt)

theorem showsFile_fileNode (f : FileRecord) (time : Json) : ShowsFile f (fileNode f time) where
  name := rfl
  extension := rfl
  size := rfl
  data := by
    refine ⟨_, rfl, rfl, ?_⟩
    rw [Base64.encodeString, String.toList_ofList]
    exact Base64.decodeAscii?_encode f.ciphertext

theorem showsCalculation_historyNode (r : HistoryRecord) :
    ShowsCalculation r (historyNode r (.str r.calculatedAt)) :=
  ⟨rfl, rfl, rfl⟩

/-- A tree that holds what a database does: under each key the node of the row with that id, and
none where no row has it. A digest that is not set may have any trace, or none. -/
structure Mirrors (db : Database) (t : Json) : Prop where
  digest : ∀ d, db.secret.digest = some d → t.at? ["config", "pin_hash"] = some (.str d)
  files : ∀ key, Option.Rel ShowsFile (byKey (·.id) db.files key) (t.at? ["vault_files", key])
  history : ∀ key, Option.Rel ShowsCalculation (byKey (·.id) db.history key)
    (t.at? ["calculation_history", key])

/-- Nodes made of the rows show them. -/
theorem rel_map {kind : α → Json → Prop} {node : α → Json} (h : ∀ r, kind r (node r))
    (row : Option α) : Option.Rel kind row (row.map node) := by
  cases row with
  | none => exact .none
  | some r => exact .some (h r)

theorem mirrors_empty {t : Json} (h : ∀ key, t.child? key = none) : Mirrors .empty t where
  digest d hd := by cases hd
  files key := by
    rw [Json.at?_cons, h]
    exact .none
  history key := by
    rw [Json.at?_cons, h]
    exact .none

variable {db : Database} {t : Json} (now : Int)

theorem Mirrors.backupDigest (h : Mirrors db t) {secret : Secret} {d : String}
    (hd : secret.digest = some d) :
    Mirrors { db with secret := secret } ((Command.backupDigest (some d)).apply now t) where
  digest d' hd' := by
    obtain rfl : d = d' := Option.some.inj (hd.symm.trans hd')
    exact Json.at?_put_node _ _ _ _ _
  files key := by
    rw [apply_backupDigest, Json.at?_put_node]
    exact h.files key
  history key := by
    rw [apply_backupDigest, Json.at?_put_node]
    exact h.history key

theorem Mirrors.backupFile (h : Mirrors db t) (hn : Numbered (·.id) db.files db.lastFile)
    {f : FileRecord} (hf : f.id = db.lastFile + 1) :
    Mirrors { db with files := db.files ++ [f], lastFile := f.id }
      ((Command.backupFile f).apply now t) where
  digest d hd := (Json.at?_put_member _ _ _ _ _ _).trans (h.digest d hd)
  files key := by
    rw [apply_backupFile, Json.at?_put_member, byKey_append hn hf]
    by_cases hk : key = idKey f.id
    · rw [if_pos hk, if_pos ⟨rfl, hk⟩]
      exact .some (showsFile_fileNode f _)
    · rw [if_neg hk, if_neg fun hp => hk hp.2]
      exact h.files key
  history key := by
    rw [apply_backupFile, Json.at?_put_member]
    exact h.history key

theorem Mirrors.deleteFile (h : Mirrors db t) (id : Int) :
    Mirrors { db with files := db.files.filter (·.id ≠ id) }
      ((Command.deleteFile id).apply now t) where
  digest d hd := (Json.at?_remove_member _ _ _ _ _).trans (h.digest d hd)
  files key := by
    rw [apply_deleteFile, Json.at?_remove_member, byKey_filter]
    by_cases hk : key = idKey id
    · rw [if_pos hk, if_pos ⟨rfl, hk⟩]
      exact .none
    · rw [if_neg hk, if_neg fun hp => hk hp.2]
      exact h.files key
  history key := by
    rw [apply_deleteFile, Json.at?_remove_member]
    exact h.history key

theorem Mirrors.backupHistory (h : Mirrors db t) (hn : Numbered (·.id) db.history db.lastHistory)
    {r : HistoryRecord} (hr : r.id = db.lastHistory + 1) (ht : r.calculatedAt ≠ "") :
    Mirrors { db with history := db.history ++ [r], lastHistory := r.id }
      ((Command.backupHistory r).apply now t) where
  digest d hd := (Json.at?_put_member _ _ _ _ _ _).trans (h.digest d hd)
  files key := by
    rw [apply_backupHistory now t ht, Json.at?_put_member]
    exact h.files key
  history key := by
    rw [apply_backupHistory now t ht, Json.at?_put_member, byKey_append hn hr]
    by_cases hk : key = idKey r.id
    · rw [if_pos hk, if_pos ⟨rfl, hk⟩]
      exact .some (showsCalculation_historyNode r)
    · rw [if_neg hk, if_neg fun hp => hk hp.2]
      exact h.history key

theorem Mirrors.deleteHistory (h : Mirrors db t) (id : Int) :
    Mirrors { db with history := db.history.filter (·.id ≠ id) }
      ((Command.deleteHistory id).apply now t) where
  digest d hd := (Json.at?_remove_member _ _ _ _ _).trans (h.digest d hd)
  files key := by
    rw [apply_deleteHistory, Json.at?_remove_member]
    exact h.files key
  history key := by
    rw [apply_deleteHistory, Json.at?_remove_member, byKey_filter]
    by_cases hk : key = idKey id
    · rw [if_pos hk, if_pos ⟨rfl, hk⟩]
      exact .none
    · rw [if_neg hk, if_neg fun hp => hk hp.2]
      exact h.history key

theorem Mirrors.clearHistory (h : Mirrors db t) :
    Mirrors { db with history := [] } (Command.clearHistory.apply now t) where
  digest d hd := (Json.at?_remove_node _ _ _ _).trans (h.digest d hd)
  files key := by
    rw [apply_clearHistory, Json.at?_remove_node]
    exact h.files key
  history key := by
    rw [apply_clearHistory, Json.at?_remove_node, if_pos rfl]
    exact .none

/-- Everything at once, whatever was there, and in whatever order it comes. -/
theorem mirrors_backupAll (hf : (db.files.map (·.id)).Nodup) (hh : (db.history.map (·.id)).Nodup)
    {files : List FileRecord} {history : List HistoryRecord} (pf : files.Perm db.files)
    (ph : history.Perm db.history) :
    Mirrors db ((Command.backupAll db.secret.digest files history).apply now t) where
  digest d hd := by
    rw [hd]
    rfl
  files key := by
    have ha : ((Command.backupAll db.secret.digest files history).apply now t).at?
        ["vault_files", key] =
          (byId (·.id) (fun f => fileNode f (.str f.uploadedAt)) files).child? key :=
      (Json.at?_pair _ _ _).symm
    rw [ha, child?_byId ((pf.map _).nodup_iff.2 hf), byKey_perm hf pf]
    exact rel_map (fun f => showsFile_fileNode f _) _
  history key := by
    have ha : ((Command.backupAll db.secret.digest files history).apply now t).at?
        ["calculation_history", key] =
          (byId (·.id) (fun h => historyNode h (.str h.calculatedAt)) history).child? key :=
      (Json.at?_pair _ _ _).symm
    rw [ha, child?_byId ((ph.map _).nodup_iff.2 hh), byKey_perm hh ph]
    exact rel_map showsCalculation_historyNode _

/-- Rows told of one after another, each by a node of its kind under its id. -/
theorem carried_rows {command : α → Command} {family : String} {kind : α → Json → Prop}
    {t u : Json} (hc : ∀ r ∈ rows, ∀ now t, ∃ v, kind r v ∧
      (command r).apply now t = Json.put v [family, idKey (id r)] t)
    (ho : (rows.map id).Nodup) (h : Carried (rows.map command) t u) :
    (∀ key, (∃ r v, byKey id rows key = some r ∧ kind r v ∧ u.at? [family, key] = some v) ∨
      (byKey id rows key = none ∧ u.at? [family, key] = t.at? [family, key])) ∧
    ∀ a key, a ≠ family → u.at? [a, key] = t.at? [a, key] := by
  induction rows generalizing t with
  | nil =>
    cases h
    exact ⟨fun key => .inr ⟨rfl, rfl⟩, fun _ _ _ => rfl⟩
  | cons r rows ih =>
    obtain ⟨hr, ho⟩ := List.nodup_cons.1 ho
    cases h with
    | cons now h =>
      obtain ⟨hf, hs⟩ := ih (fun q hq => hc q (.tail _ hq)) ho h
      obtain ⟨v, hv, ha⟩ := hc r (.head _) now t
      rw [ha] at hf hs
      refine ⟨fun key => ?_, fun a key hne => ?_⟩
      · have hm := Json.at?_put_member v t family family (idKey (id r)) key
        obtain ⟨q, w, hq, hw, hu⟩ | ⟨hq, hu⟩ := hf key
        · -- A later row has the key, so this one has not.
          obtain ⟨hmem, rfl⟩ := (byKey_eq_some ho).1 hq
          have hn : idKey (id r) ≠ idKey (id q) := fun he =>
            hr (List.mem_map.2 ⟨q, hmem, (idKey_injective he).symm⟩)
          refine .inl ⟨q, w, ?_, hw, hu⟩
          rw [byKey_eq_find?] at hq ⊢
          rw [List.find?_cons_of_neg (by simpa using hn), hq]
        · by_cases hk : key = idKey (id r)
          · refine .inl ⟨r, v, ?_, hv, ?_⟩
            · simp [byKey_eq_find?, hk]
            · rw [hu]
              exact hm.trans (if_pos ⟨rfl, hk⟩)
          · refine .inr ⟨?_, ?_⟩
            · rw [byKey_eq_find?] at hq ⊢
              rw [List.find?_cons_of_neg (by simpa using Ne.symm hk), hq]
            · rw [hu]
              exact hm.trans (if_neg fun hp => hk hp.2)
      · rw [hs a key hne]
        exact (Json.at?_put_member _ _ _ _ _ _).trans (if_neg fun hp => hne hp.1)

/-- Calculations told of one after another, where none were told of before. -/
theorem carried_history {rows : List HistoryRecord} {t u : Json} (ho : (rows.map (·.id)).Nodup)
    (hne : ∀ r ∈ rows, r.calculatedAt ≠ "")
    (hnone : ∀ key, t.at? ["calculation_history", key] = none)
    (h : Carried (rows.map .backupHistory) t u) (key : String) :
    u.at? ["calculation_history", key] =
      (byKey (·.id) rows key).map fun r => historyNode r (.str r.calculatedAt) := by
  have hc : ∀ r ∈ rows, ∀ now t, ∃ v, v = historyNode r (.str r.calculatedAt) ∧
      (Command.backupHistory r).apply now t =
        Json.put v ["calculation_history", idKey r.id] t := by
    exact fun r hr now t => ⟨_, rfl, apply_backupHistory now t (hne r hr)⟩
  obtain ⟨r, v, hr, rfl, hu⟩ | ⟨hr, hu⟩ := (carried_rows hc ho h).1 key
  · rw [hu, hr]
    rfl
  · rw [hu, hr, hnone]
    rfl

/-- All files under a new PIN, told of in whatever order. -/
theorem Mirrors.rekey (h : Mirrors db t) (hn : (db.files.map (·.id)).Nodup)
    (transform : Bytes → Bytes) {secret : Secret} {d : String} (hd : secret.digest = some d)
    {files : List FileRecord}
    (hp : files.Perm (db.files.map fun r => { r with ciphertext := transform r.ciphertext }))
    {u : Json} (hc : Carried (.backupDigest (some d) :: files.map .backupFile) t u) :
    Mirrors { db with
      files := db.files.map fun r => { r with ciphertext := transform r.ciphertext }
      secret := secret } u := by
  cases hc with
  | cons now hc =>
    have hb := h.backupDigest now hd
    have hm : ((db.files.map fun r : FileRecord =>
        { r with ciphertext := transform r.ciphertext }).map (·.id)).Nodup := by
      simpa [Function.comp_def] using hn
    have hput : ∀ r ∈ files, ∀ now t, ∃ v, ShowsFile r v ∧
        (Command.backupFile r).apply now t = Json.put v ["vault_files", idKey r.id] t :=
      fun r _ now t => ⟨_, showsFile_fileNode r _, apply_backupFile now t r⟩
    obtain ⟨hf, hs⟩ := carried_rows hput ((hp.map _).nodup_iff.2 hm) hc
    constructor
    case digest =>
      intro d' hd'
      rw [hs _ _ (by decide)]
      exact hb.digest d' hd'
    case files =>
      intro key
      have hk := byKey_perm hm hp key
      obtain ⟨r, v, hr, hv, hu⟩ | ⟨hr, hu⟩ := hf key
      · rw [hu, ← hk, hr]
        exact .some hv
      · have hj := hk.symm.trans hr
        rw [byKey_map (fun r : FileRecord => { r with ciphertext := transform r.ciphertext })
          fun _ => rfl] at hj
        have ht := hb.files key
        rw [Option.map_eq_none_iff.1 hj] at ht
        rw [hu, ← hk, hr]
        exact ht
    case history =>
      intro key
      rw [hs _ _ (by decide)]
      exact hb.history key

end CovertVault.Remote
