import CovertVault.Proofs.Number.Grouped
import CovertVault.Proofs.Remote.Server
import CovertVault.Proofs.Remote.Showing
import Mathlib.Data.List.Nodup

namespace CovertVault
open Text

namespace Text

theorem lex_codes (a b : List Char) :
    (a.map Char.toNat).lex (b.map Char.toNat) (fun m n => decide (m < n)) = true ↔ a < b := by
  induction a generalizing b with
  | nil => cases b <;> simp
  | cons c a ih =>
    cases b with
    | nil => simp
    | cons d b =>
      have hlt : c < d ↔ c.toNat < d.toNat := by
        rw [Char.lt_def, UInt32.lt_iff_toNat_lt]
        rfl
      have heq : c = d ↔ c.toNat = d.toNat := Char.toNat_inj.symm
      rw [List.cons_lt_cons_iff, ← ih b, hlt, heq]
      simp

/-- Texts are put in the order of their characters. -/
theorem pointsLe_points (s t : String) : pointsLe (points s) (points t) = decide (s ≤ t) := by
  have hcodes (s : String) : (points s).map Point.code = s.toList.map Char.toNat := by
    simp [points, Point.code, Function.comp_def]
  have hle : s ≤ t ↔ ¬ t.toList < s.toList := Iff.rfl
  rw [pointsLe, hcodes, hcodes, decide_eq_decide.2 hle, Bool.eq_iff_iff, Bool.not_eq_true',
    Bool.eq_false_iff, Ne, lex_codes, decide_eq_true_iff]

end Text

namespace Remote

/-- A child that is no object, has no text for its expression or its result, or has a key that is
no whole number. -/
def Foreign (key : String) (v : Json) : Prop :=
  (∀ ms, v = .obj ms → textMember? ms "expression" = none ∨ textMember? ms "result" = none) ∨
    Number.looseInt? key.toList = none

/-- An answer with children more than another that are no calculations: members of an object
wherever they come, and items of an array in unused places or behind all others. -/
inductive Widens : Json → Json → Prop
  | same (v : Json) : Widens v v
  | first {v v' : Json} : v = .obj [] ∨ v = .arr [] → Widens v v' → Widens .null v'
  | member {key : String} {c : Json} (older newer : List (String × Json)) {v' : Json} :
      Foreign key c → Widens (.obj (older ++ (key, c) :: newer)) v' →
        Widens (.obj (older ++ newer)) v'
  | place {c : Json} (before behind : List Json) {v' : Json} : Foreign (idKey before.length) c →
      Widens (.arr (before ++ c :: behind)) v' → Widens (.arr (before ++ .null :: behind)) v'
  | last {c : Json} (items : List Json) {v' : Json} : Foreign (idKey items.length) c →
      Widens (.arr (items ++ [c])) v' → Widens (.arr items) v'

theorem readChild_foreign {key : String} {v : Json} (h : Foreign key v) :
    readChild key v = .ok none := by
  unfold readChild
  split
  · next ms =>
    split
    · next he hr hi =>
      obtain hm | hi' := h
      · obtain hm | hm := hm ms rfl
        · simp [hm] at he
        · simp [hm] at hr
      · simp [hi'] at hi
    · rfl
  · rfl

theorem readChildren_foreign {key : String} {c : Json} (h : Foreign key c)
    (older newer : List (String × Json)) :
    readChildren (older ++ (key, c) :: newer) = readChildren (older ++ newer) := by
  induction older with
  | nil =>
    rw [List.nil_append, readChildren, readChild_foreign h, List.nil_append]
    cases readChildren newer <;> rfl
  | cons m older ih =>
    rw [List.cons_append, readChildren, ih]
    rfl

/-- The children in the places of an array from one on. -/
def placed (i : Nat) (items : List Json) : List (String × Json) :=
  (items.zipIdx i).filterMap fun (v, i) => match v with
    | .null => none
    | v => some (idKey i, v)

theorem children?_arr (items : List Json) : children? (.arr items) = some (placed 0 items) := rfl

theorem placed_append (i : Nat) (before behind : List Json) :
    placed i (before ++ behind) = placed i before ++ placed (i + before.length) behind := by
  rw [placed, List.zipIdx_append, List.filterMap_append, Nat.add_comm]
  rfl

theorem placed_null (i : Nat) (behind : List Json) :
    placed i (.null :: behind) = placed (i + 1) behind := rfl

theorem placed_cons (i : Nat) (c : Json) (behind : List Json) :
    c = .null ∧ placed i (c :: behind) = placed (i + 1) behind ∨
      c ≠ .null ∧ placed i (c :: behind) = (idKey i, c) :: placed (i + 1) behind := by
  cases c with
  | null => exact .inl ⟨rfl, rfl⟩
  | _ => exact .inr ⟨nofun, rfl⟩

/-- What is no calculation counts as nothing in its place. -/
theorem readChildren_placed {c : Json} (before behind : List Json)
    (h : Foreign (idKey before.length) c) :
    readChildren (placed 0 (before ++ c :: behind)) =
      readChildren (placed 0 (before ++ .null :: behind)) := by
  rw [placed_append, placed_append, placed_null, Nat.zero_add]
  obtain ⟨-, hc⟩ | ⟨-, hc⟩ := placed_cons before.length c behind
  · rw [hc]
  · rw [hc, readChildren_foreign h]

theorem readHistory_eq {v : Json} {ms : List (String × Json)} (h : children? v = some ms) :
    readHistory v = ((readChildren ms).map latestFirst).mapError .time := by
  rw [readHistory, h]

/-- Such children make no difference. -/
theorem Widens.readHistory_eq {v v' : Json} (h : Widens v v') : readHistory v' = readHistory v := by
  induction h with
  | same => rfl
  | first hv _ ih =>
    rw [ih]
    obtain rfl | rfl := hv <;> rfl
  | member older newer hc _ ih =>
    rw [ih, Remote.readHistory_eq rfl, Remote.readHistory_eq rfl, readChildren_foreign hc]
  | place before behind hc _ ih =>
    rw [ih, Remote.readHistory_eq (children?_arr _), Remote.readHistory_eq (children?_arr _),
      readChildren_placed before behind hc]
  | last items hc _ ih =>
    rw [ih, Remote.readHistory_eq (children?_arr _), Remote.readHistory_eq (children?_arr _),
      readChildren_placed items [] hc, placed_append, placed_null]
    exact congrArg _ (congrArg _ (congrArg _ (List.append_nil _)))

/-- Numbers of more digits are not written as texts, so nothing is told under them. -/
def Tellable (records : List HistoryRecord) : Prop :=
  ∀ r ∈ records, (Number.natText r.id.natAbs).length ≤ Number.digitLimit

/-- A tree in which calculations were told of, all with everything else at once, or one after
another where none had been told of. -/
inductive Told (records : List HistoryRecord) : Json → Prop
  | atOnce (digest : Option String) (files : List FileRecord) (now : Int) (t : Json) :
      Told records ((Command.backupAll digest files records).apply now t)
  | oneByOne {t u : Json} : (∀ key, t.at? ["calculation_history", key] = none) →
      (∀ r ∈ records, r.calculatedAt ≠ "") → Carried (records.map .backupHistory) t u →
        Told records u

/-- An answer that gives the children of a node and no others: an object with them as its members
in any order, or an array with them in the places of their keys and nothing in the other places.
Where there are none it may also be nothing. -/
inductive Gives (node : Option Json) : Json → Prop
  | members {shown : List (String × Json)} : (shown.map Prod.fst).Nodup →
      (∀ m ∈ shown, ∃ c, node.bind (·.child? m.1) = some c ∧ Shows (some c) m.2) →
      (∀ key, (node.bind (·.child? key)).isSome → key ∈ shown.map Prod.fst) →
      Gives node (.obj shown)
  | places {items : List Json} :
      (∀ m ∈ items.zipIdx, Shows (node.bind (·.child? (idKey m.2))) m.1) →
      (∀ key, (node.bind (·.child? key)).isSome → ∃ i < items.length, key = idKey i) →
      Gives node (.arr items)
  | nothing : (∀ key, node.bind (·.child? key) = none) → Gives node .null

variable {records rows : List HistoryRecord} {tree v : Json} {node : Option Json}

theorem Told.child? (ho : (records.map (·.id)).Nodup) (h : Told records tree) (key : String) :
    (tree.at? ["calculation_history"]).bind (·.child? key) =
      (byKey (·.id) records key).map fun r => historyNode r (.str r.calculatedAt) := by
  rw [Json.at?_pair]
  cases h with
  | atOnce digest files now t =>
    have ha : ((Command.backupAll digest files records).apply now t).at?
        ["calculation_history", key] =
          (byId (·.id) (fun r => historyNode r (.str r.calculatedAt)) records).child? key :=
      (Json.at?_pair _ _ _).symm
    rw [ha, child?_byId ho]
  | oneByOne hnone hne hc => exact carried_history ho hne hnone hc key

theorem mem_placed {i : Nat} {items : List Json} {m : String × Json} :
    m ∈ placed i items ↔ ∃ p ∈ items.zipIdx i, m = (idKey p.2, p.1) ∧ p.1 ≠ .null := by
  unfold placed
  rw [List.mem_filterMap]
  refine exists_congr fun p => and_congr_right fun _ => ?_
  obtain ⟨w, j⟩ := p
  cases w <;> simp [eq_comm]

theorem nodup_placed (i : Nat) (items : List Json) :
    ((placed i items).map Prod.fst).Nodup ∧ ∀ m ∈ placed i items, ∃ j ≥ i, m.1 = idKey j := by
  induction items generalizing i with
  | nil => exact ⟨List.nodup_nil, nofun⟩
  | cons c items ih =>
    obtain ⟨hn, hk⟩ := ih (i + 1)
    obtain ⟨-, hc⟩ | ⟨-, hc⟩ := placed_cons i c items
    · rw [hc]
      refine ⟨hn, fun m hm => ?_⟩
      obtain ⟨j, hj, he⟩ := hk m hm
      exact ⟨j, by omega, he⟩
    · rw [hc]
      refine ⟨List.nodup_cons.2 ⟨fun hm => ?_, hn⟩, List.forall_mem_cons.2 ⟨⟨i, le_refl i, rfl⟩,
        fun m hm => ?_⟩⟩
      · obtain ⟨m, hm, he⟩ := List.mem_map.1 hm
        obtain ⟨j, hj, hk⟩ := hk m hm
        have := idKey_injective (he.symm.trans hk)
        omega
      · obtain ⟨j, hj, he⟩ := hk m hm
        exact ⟨j, by omega, he⟩

/-- The children of an answer are those of the node, each once, unless they are nothing. -/
theorem Gives.children (h : Gives node v) : ∃ ms, children? v = some ms ∧
    (ms.map Prod.fst).Nodup ∧
    (∀ m ∈ ms, ∃ c, node.bind (·.child? m.1) = some c ∧ Shows (some c) m.2) ∧
    ∀ key c, node.bind (·.child? key) = some c → c ≠ .null → key ∈ ms.map Prod.fst := by
  cases h with
  | members hn hs hk => exact ⟨_, rfl, hn, hs, fun key c hc _ => hk key (by rw [hc]; rfl)⟩
  | @places items hs hk =>
    refine ⟨_, children?_arr items, (nodup_placed 0 items).1, fun m hm => ?_,
      fun key c hc hne => ?_⟩
    · obtain ⟨⟨w, i⟩, hp, rfl, hne⟩ := mem_placed.1 hm
      have hshow := hs _ hp
      cases hc : node.bind (·.child? (idKey i)) with
      | none =>
        rw [hc] at hshow
        cases hshow
        exact absurd rfl hne
      | some c =>
        rw [hc] at hshow
        exact ⟨c, rfl, hshow⟩
    · obtain ⟨i, hi, rfl⟩ := hk key (by rw [hc]; rfl)
      have hp : (items[i], i) ∈ items.zipIdx := List.mk_mem_zipIdx_iff_getElem?.2 (by simp [hi])
      have hshow := hs _ hp
      rw [hc] at hshow
      have hw : items[i] ≠ .null := fun hw => by
        rw [hw] at hshow
        cases hshow
        exact hne rfl
      exact List.mem_map.2 ⟨_, mem_placed.2 ⟨_, hp, rfl, hw⟩, rfl⟩
  | nothing hn =>
    refine ⟨[], rfl, List.nodup_nil, nofun, fun key c hc _ => ?_⟩
    rw [hn key] at hc
    cases hc

/-- Children that show told calculations are read as these, in their order. -/
theorem readChildren_told (hl : Tellable records) {ms : List (String × Json)}
    (hs : ∀ m ∈ ms, ∃ r ∈ records, m.1 = idKey r.id ∧
      Shows (some (historyNode r (.str r.calculatedAt))) m.2) :
    ∃ rows : List HistoryRecord, (∀ r ∈ rows, r ∈ records) ∧
      ms.map Prod.fst = rows.map (fun r => idKey r.id) ∧
      readChildren ms = .ok (rows.map .ofRecord) := by
  induction ms with
  | nil => exact ⟨[], nofun, rfl, rfl⟩
  | cons m ms ih =>
    obtain ⟨r, hr, hk, hshow⟩ := hs m (.head _)
    obtain ⟨rows, hmem, hkeys, hread⟩ := ih fun q hq => hs q (.tail _ hq)
    obtain ⟨key, c⟩ := m
    dsimp only at hk hshow
    -- The key of a child is the text of its id, and reads as that.
    have hid : Number.looseInt? key.toList = some r.id := by
      rw [hk, idKey, String.toList_ofList]
      exact Number.looseInt?_intText (hl r hr)
    have hc : readChild key c = .ok (some (.ofRecord r)) := by
      rw [readChild_of_shows hshow, (showsCalculation_historyNode r).readChild, hid]
      rfl
    refine ⟨r :: rows, List.forall_mem_cons.2 ⟨hr, hmem⟩, ?_, ?_⟩
    · rw [List.map_cons, List.map_cons, hkeys, hk]
    · rw [readChildren, hc, hread]
      rfl

/-- Calculations latest first, as raw ones and as kept ones. -/
theorem latestFirst_ofRecord (rows : List HistoryRecord) :
    latestFirst (rows.map .ofRecord) =
      (rows.mergeSort fun a b => b.calculatedAt ≤ a.calculatedAt).map .ofRecord := by
  unfold latestFirst
  refine (List.map_mergeSort fun a _ b _ => ?_).symm
  exact (Text.pointsLe_points b.calculatedAt a.calculatedAt).symm

theorem sorted_mergeSort_calculatedAt (rows : List HistoryRecord) :
    (rows.mergeSort fun a b => b.calculatedAt ≤ a.calculatedAt).Pairwise fun a b =>
      b.calculatedAt ≤ a.calculatedAt := by
  have htrans (a b c : HistoryRecord) (hab : decide (b.calculatedAt ≤ a.calculatedAt) = true)
      (hbc : decide (c.calculatedAt ≤ b.calculatedAt) = true) :
      decide (c.calculatedAt ≤ a.calculatedAt) = true :=
    decide_eq_true (String.le_trans (of_decide_eq_true hbc) (of_decide_eq_true hab))
  have htotal (a b : HistoryRecord) :
      (decide (b.calculatedAt ≤ a.calculatedAt) || decide (a.calculatedAt ≤ b.calculatedAt)) =
        true := by
    simpa using String.le_total b.calculatedAt a.calculatedAt
  exact (List.pairwise_mergeSort htrans htotal rows).imp of_decide_eq_true

/-- An answer that gives the told calculations is read as them. -/
theorem readHistory_told (ho : (records.map (·.id)).Nodup) (hl : Tellable records)
    (ht : Told records tree) (hv : Gives (tree.at? ["calculation_history"]) v) :
    ∃ sorted : List HistoryRecord, sorted.Perm records ∧
      sorted.Pairwise (fun a b => b.calculatedAt ≤ a.calculatedAt) ∧
      readHistory v = .ok (sorted.map .ofRecord) := by
  obtain ⟨ms, hc, hnodup, hs, hall⟩ := hv.children
  have hshown : ∀ m ∈ ms, ∃ r ∈ records, m.1 = idKey r.id ∧
      Shows (some (historyNode r (.str r.calculatedAt))) m.2 := fun m hm => by
    obtain ⟨c, hchild, hshow⟩ := hs m hm
    rw [ht.child? ho] at hchild
    obtain ⟨r, hr, rfl⟩ := Option.map_eq_some_iff.1 hchild
    obtain ⟨hr, hk⟩ := (byKey_eq_some ho).1 hr
    exact ⟨r, hr, hk.symm, hshow⟩
  obtain ⟨rows, hmem, hkeys, hread⟩ := readChildren_told hl hshown
  have hperm : rows.Perm records := by
    rw [hkeys] at hnodup hall
    refine (List.perm_ext_iff_of_nodup (List.Nodup.of_map _ hnodup) (List.Nodup.of_map _ ho)).2
      fun r => ⟨hmem r, fun hr => ?_⟩
    have hchild := ht.child? ho (idKey r.id)
    rw [(byKey_eq_some ho).2 ⟨hr, rfl⟩] at hchild
    obtain ⟨q, hq, he⟩ := List.mem_map.1 (hall _ _ hchild nofun)
    have hsame := (byKey_eq_some ho).2 ⟨hmem q hq, he⟩
    rw [(byKey_eq_some ho).2 ⟨hr, rfl⟩] at hsame
    rwa [Option.some.inj hsame]
  refine ⟨_, (List.mergeSort_perm _ _).trans hperm, sorted_mergeSort_calculatedAt rows, ?_⟩
  rw [readHistory_eq hc, hread, ← latestFirst_ofRecord]
  rfl

/-- Calculations that were told are fetched as they are, each once and latest first, whether they
were told at once or one after another, whichever form the answer has, and whatever else stands in
it that is no calculation. -/
theorem fetchHistory_told {ω T : Type} [TimeScale T] (ho : (records.map (·.id)).Nodup)
    (hl : Tellable records) (ht : Told records tree)
    (hv : Gives (tree.at? ["calculation_history"]) v) {v' : Json} (hw : Widens v v')
    {link : Link ω T} {c : Client T} {w : ω}
    (ha : (c.ask link .get ["calculation_history"] (fun _ => none) w).1 = .ok v') :
    ∃ sorted : List HistoryRecord, sorted.Perm records ∧
      sorted.Pairwise (fun a b => b.calculatedAt ≤ a.calculatedAt) ∧
      readHistory v = .ok (sorted.map .ofRecord) ∧
      (c.fetchHistory link w).1 = .ok (sorted.map .ofRecord) := by
  obtain ⟨sorted, hp, hs, hr⟩ := readHistory_told ho hl ht hv
  refine ⟨sorted, hp, hs, hr, ?_⟩
  show (c.ask link .get ["calculation_history"] (fun _ => none) w).1.bind readHistory = _
  rw [ha]
  exact hw.readHistory_eq.trans hr

def noted : List HistoryRecord :=
  [⟨7, "1+2", "3", "2024-01-01 09:00:00"⟩, ⟨-2, "√9", "3", ""⟩]

/-- They are shown in another order, and before the last a note stands. -/
def notedMembers : List (String × Json) :=
  [("-2", historyNode ⟨-2, "√9", "3", ""⟩ (.str "")), ("note", .str "kept"),
    ("7", historyNode ⟨7, "1+2", "3", "2024-01-01 09:00:00"⟩ (.str "2024-01-01 09:00:00"))]

theorem plain_notedMembers : Json.Plain 2 (.obj notedMembers) := by
  have hnode (r : HistoryRecord) : Json.Plain 1 (historyNode r (.str r.calculatedAt)) :=
    Json.plain_of_isRecord (fun _ => Json.plain_of_isText) rfl
  refine .obj (by decide) fun p hp => ?_
  simp only [notedMembers, List.mem_cons, List.not_mem_nil, or_false] at hp
  obtain rfl | rfl | rfl := hp
  · exact hnode ⟨-2, "√9", "3", ""⟩
  · exact .str 1 "kept"
  · exact hnode ⟨7, "1+2", "3", "2024-01-01 09:00:00"⟩

theorem nodup_noted : (noted.map (·.id)).Nodup := by decide

theorem told_noted : Told noted ((Command.backupAll none [] noted).apply 0 .null) :=
  .atOnce none [] 0 .null

theorem gives_noted : Gives
    (((Command.backupAll none [] noted).apply 0 .null).at? ["calculation_history"])
    (.obj [notedMembers[0], notedMembers[2]]) := by
  have hshows (r : HistoryRecord) : Shows (some (historyNode r (.str r.calculatedAt)))
      (historyNode r (.str r.calculatedAt)) :=
    shows_of_isRecord (fun _ => shows_of_isText) rfl
  refine .members (by decide) (fun m hm => ?_) fun key hk => ?_
  · obtain rfl | hm := List.mem_cons.1 hm
    · exact ⟨_, rfl, hshows ⟨-2, "√9", "3", ""⟩⟩
    · obtain rfl := List.mem_singleton.1 hm
      exact ⟨_, rfl, hshows ⟨7, "1+2", "3", "2024-01-01 09:00:00"⟩⟩
  · rw [told_noted.child? nodup_noted, Option.isSome_map] at hk
    obtain ⟨r, hr⟩ := Option.isSome_iff_exists.1 hk
    obtain ⟨hmem, rfl⟩ := (byKey_eq_some nodup_noted).1 hr
    clear hr hk
    simp only [noted, List.mem_cons, List.not_mem_nil, or_false] at hmem
    obtain rfl | rfl := hmem <;> decide

theorem fetchHistory_noted : ∃ sorted : List HistoryRecord, sorted.Perm noted ∧
    sorted.Pairwise (fun a b => b.calculatedAt ≤ a.calculatedAt) ∧
    (Client.fetchHistory (scripted.link 0) ⟨"u", none, ⟨10, TimeScale.ofMillis 1000, []⟩⟩
      [.response 200 (Bytes.utf8 (Json.obj notedMembers).write)]).1 =
        .ok (sorted.map .ofRecord) := by
  have hl : Tellable noted := by
    unfold Tellable
    decide
  have hnote : Foreign "note" (.str "kept") := .inl fun _ h => nomatch h
  have hw : Widens (.obj [notedMembers[0], notedMembers[2]]) (.obj notedMembers) :=
    .member [notedMembers[0]] [notedMembers[2]] hnote (.same _)
  obtain ⟨sorted, hp, hs, -, hf⟩ := fetchHistory_told nodup_noted hl told_noted gives_noted hw
    (ask_scripted (Json.ofBody?_obj plain_notedMembers) "u" none _ [])
  exact ⟨sorted, hp, hs, hf⟩

end Remote
end CovertVault
