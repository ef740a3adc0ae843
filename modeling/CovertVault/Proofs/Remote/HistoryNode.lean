import CovertVault.Proofs.Outcome
import CovertVault.Proofs.Store.Merging
import CovertVault.Remote.HistoryNode
import Mathlib.Data.List.Forall2

namespace CovertVault
open Text

namespace Json

/-- The text that a value is. -/
def text? : Json → Option (List Point)
  | .str s => some (points s)
  | .broken s => some s
  | _ => none

def isNumber : Json → Bool
  | .int _ | .decimal _ | .infinity _ | .nan => true
  | _ => false

end Json

theorem Time.stampOfJson_of_not_number {v : Json} (h : v.isNumber = false) :
    stampOfJson v = .ok (v.text?.getD []) := by
  cases v with
  | int | decimal | infinity | nan => cases h
  | _ => rfl

/-- The stamp of a number has no halves of surrogate pairs in it. -/
theorem Time.stampOfJson_number {v : Json} (h : v.isNumber = true) {p : List Point}
    (hp : stampOfJson v = .ok p) : ∃ t, p = points t := by
  unfold stampOfJson at hp
  split at hp
  · cases h
  · cases h
  · split at hp
    · obtain ⟨t, -, rfl⟩ := map_eq_ok hp
      exact ⟨t, rfl⟩
    · cases hp
  · obtain ⟨t, -, rfl⟩ := map_eq_ok hp
    exact ⟨t, rfl⟩
  · cases hp
  · cases hp
  · next hn hd hi hnan =>
    cases v with
    | int n => exact absurd rfl (hn n)
    | decimal d => exact absurd rfl (hd d)
    | infinity b => exact absurd rfl (hi b)
    | nan => exact absurd rfl hnan
    | _ => cases h

namespace Remote
open Time

/-- A calculation as it stands in a node. -/
structure Entry where
  id : Int
  expression : List Point
  result : List Point
  time : Json

def entry? (key : String) : Json → Option Entry
  | .obj members =>
    match textMember? members "expression", textMember? members "result",
      Number.looseInt? key.toList with
    | some expression, some result, some id =>
      some ⟨id, expression, result, (Json.field? members "calculated_at").getD .null⟩
    | _, _, _ => none
  | _ => none

/-- The calculations among the children of a node. -/
def entries (node : Json) : List Entry :=
  ((children? node).getD []).filterMap fun m => entry? m.1 m.2

/-- An entry with its time read. -/
def Entry.read (e : Entry) : Except StampError RawRecord :=
  (stampOfJson e.time).map fun time => ⟨e.id, e.expression, e.result, time⟩

/-- The record of an entry. A time that is neither text nor number is none. -/
structure Entry.Tells (e : Entry) (r : RawRecord) : Prop where
  id : r.id = e.id
  expression : r.expression = e.expression
  result : r.result = e.result
  text : e.time.isNumber = false → r.calculatedAt = e.time.text?.getD []
  number : e.time.isNumber = true → stampOfJson e.time = .ok r.calculatedAt

/-- A node without a number for a time that is none. -/
def Dated (node : Json) : Prop :=
  ∀ e ∈ entries node, e.time.isNumber = true → ∃ t, stampOfJson e.time = .ok t

/-- No text of an entry has half of a surrogate pair in it. -/
structure Entry.Whole (e : Entry) : Prop where
  expression : ∃ t, e.expression = points t
  result : ∃ t, e.result = points t
  time : ∀ p, e.time.text? = some p → ∃ t, p = points t

def Whole (node : Json) : Prop := ∀ e ∈ entries node, e.Whole

variable {e : Entry} {r : RawRecord} {node : Json}

theorem Dated.read (h : Dated node) (he : e ∈ entries node) : ∃ r, e.read = .ok r := by
  have hs : ∃ t, stampOfJson e.time = .ok t := by
    cases hn : e.time.isNumber with
    | true => exact h e he hn
    | false => exact ⟨_, stampOfJson_of_not_number hn⟩
  obtain ⟨t, ht⟩ := hs
  exact ⟨_, congrArg (Except.map _) ht⟩

theorem Entry.tells_of_read (hr : e.read = .ok r) : e.Tells r := by
  obtain ⟨t, ht, rfl⟩ := map_eq_ok hr
  refine ⟨rfl, rfl, rfl, fun hn => ?_, fun _ => ht⟩
  rw [stampOfJson_of_not_number hn] at ht
  exact (Except.ok.inj ht).symm

theorem Entry.whole_iff (hr : e.read = .ok r) : e.Whole ↔ ∃ h, r = .ofRecord h := by
  obtain ⟨t, ht, rfl⟩ := map_eq_ok hr
  constructor
  · rintro ⟨⟨x, hx⟩, ⟨q, hq⟩, htime⟩
    have htext : ∃ s, t = points s := by
      cases hn : e.time.isNumber with
      | true => exact stampOfJson_number hn ht
      | false =>
        rw [stampOfJson_of_not_number hn] at ht
        cases ht
        cases hp : e.time.text? with
        | none => exact ⟨"", rfl⟩
        | some p => exact htime p hp
    obtain ⟨s, rfl⟩ := htext
    exact ⟨⟨e.id, x, q, s⟩, by rw [hx, hq]; rfl⟩
  · rintro ⟨h, he⟩
    injection he with _ hx hq hs
    refine ⟨⟨_, hx⟩, ⟨_, hq⟩, fun p hp => ?_⟩
    have hn : e.time.isNumber = false := by
      cases hv : e.time with
      | str | broken => rfl
      | _ =>
        rw [hv] at hp
        cases hp
    rw [stampOfJson_of_not_number hn, hp] at ht
    cases ht
    exact ⟨_, hs⟩

theorem readChild_none {key : String} {v : Json} (h : entry? key v = none) :
    readChild key v = .ok none := by
  unfold entry? at h
  unfold readChild
  split
  · split
    · next he hr hi => simp [he, hr, hi] at h
    · rfl
  · rfl

theorem readChild_some {key : String} {v : Json} (h : entry? key v = some e) :
    readChild key v = e.read.map some := by
  unfold entry? at h
  split at h
  · split at h
    · next he hr hi =>
      cases h
      unfold readChild Entry.read
      simp only [he, hr, hi]
      cases stampOfJson _ <;> rfl
    · cases h
  · cases h

theorem readChild_eq_some {key : String} {v : Json} :
    readChild key v = .ok (some r) ↔ ∃ e, entry? key v = some e ∧ e.read = .ok r := by
  constructor
  · intro h
    cases he : entry? key v with
    | none =>
      rw [readChild_none he] at h
      cases h
    | some e =>
      rw [readChild_some he] at h
      obtain ⟨q, hq, hr⟩ := map_eq_ok h
      cases hr
      exact ⟨e, rfl, hq⟩
  · rintro ⟨e, he, hr⟩
    rw [readChild_some he, hr]
    rfl

theorem readChildren_eq_ok {members : List (String × Json)} {records : List RawRecord} :
    readChildren members = .ok records ↔
      List.Forall₂ (fun e r => e.read = .ok r) (members.filterMap fun m => entry? m.1 m.2)
        records := by
  induction members generalizing records with
  | nil =>
    rw [List.filterMap_nil, List.forall₂_nil_left_iff]
    exact ⟨fun h => (Except.ok.inj h).symm, fun h => congrArg _ h.symm⟩
  | cons m members ih =>
    obtain ⟨key, v⟩ := m
    unfold readChildren
    -- A child that is no entry is passed over on both sides.
    cases he : entry? key v with
    | none =>
      rw [readChild_none he, List.filterMap_cons_none (by exact he), ← ih]
      cases readChildren members <;> rfl
    | some e =>
      rw [readChild_some he, List.filterMap_cons_some (by exact he), List.forall₂_cons_left_iff]
      constructor
      · intro h
        obtain ⟨first, hf, h⟩ := bind_eq_ok h
        obtain ⟨r, hr, rfl⟩ := map_eq_ok hf
        obtain ⟨rest, hs, h⟩ := bind_eq_ok h
        cases h
        exact ⟨r, rest, hr, ih.1 hs, rfl⟩
      · rintro ⟨r, rest, hr, hs, rfl⟩
        rw [hr, ih.2 hs]
        rfl

/-- What becomes of an answer when one that is no node of calculations is passed over. -/
def shownHistory (node : Json) : Except StampError (List RawRecord) :=
  (readChildren ((children? node).getD [])).map latestFirst

theorem shownHistory_nothing (h : (children? node).getD [] = []) : shownHistory node = .ok [] := by
  rw [shownHistory, h]
  simp [readChildren, latestFirst, Except.map]

theorem shownHistory_ok {records : List RawRecord} (h : shownHistory node = .ok records) :
    ∃ read, List.Forall₂ (fun e r => e.read = .ok r) (entries node) read ∧
      records = latestFirst read := by
  obtain ⟨read, hr, rfl⟩ := map_eq_ok h
  exact ⟨read, readChildren_eq_ok.1 hr, rfl⟩

theorem mem_shownHistory {records : List RawRecord} (h : shownHistory node = .ok records) :
    r ∈ records ↔ ∃ e ∈ entries node, e.read = .ok r := by
  obtain ⟨read, hf, rfl⟩ := shownHistory_ok h
  have hp : r ∈ latestFirst read ↔ r ∈ read := (List.mergeSort_perm _ _).mem_iff
  rw [hp]
  clear hp h
  generalize entries node = es at hf
  induction hf with
  | nil => simp
  | @cons e q es qs hq _ ih => simp [ih, hq, eq_comm]

/-- The records are those of the children. -/
theorem mem_shownHistory_iff_child {records : List RawRecord}
    (h : shownHistory node = .ok records) :
    r ∈ records ↔ ∃ m ∈ (children? node).getD [], readChild m.1 m.2 = .ok (some r) := by
  rw [mem_shownHistory h]
  constructor
  · rintro ⟨e, he, hr⟩
    obtain ⟨m, hm, hme⟩ := List.mem_filterMap.1 he
    exact ⟨m, hm, readChild_eq_some.2 ⟨e, hme, hr⟩⟩
  · rintro ⟨m, hm, hr⟩
    obtain ⟨e, he, hr⟩ := readChild_eq_some.1 hr
    exact ⟨e, List.mem_filterMap.2 ⟨m, hm, he⟩, hr⟩

theorem length_shownHistory {records : List RawRecord} (h : shownHistory node = .ok records) :
    records.length = (entries node).length := by
  obtain ⟨read, hf, rfl⟩ := shownHistory_ok h
  exact (List.length_mergeSort _).trans hf.length_eq.symm

theorem exists_read_of_forall₂ {es : List Entry} {records : List RawRecord}
    (hf : List.Forall₂ (fun e r => e.read = .ok r) es records) (he : e ∈ es) :
    ∃ r, e.read = .ok r := by
  induction hf with
  | nil => cases he
  | @cons _ r _ _ hr _ ih =>
    obtain rfl | he := List.mem_cons.1 he
    · exact ⟨r, hr⟩
    · exact ih he

theorem exists_forall₂_read {es : List Entry} (h : ∀ e ∈ es, ∃ r, e.read = .ok r) :
    ∃ records, List.Forall₂ (fun e r => e.read = .ok r) es records := by
  induction es with
  | nil => exact ⟨[], .nil⟩
  | cons e es ih =>
    obtain ⟨r, hr⟩ := h e List.mem_cons_self
    obtain ⟨records, hf⟩ := ih fun q hq => h q (List.mem_cons_of_mem _ hq)
    exact ⟨r :: records, .cons hr hf⟩

/-- Nothing but a number that is no time keeps calculations from being read. -/
theorem shownHistory_ok_iff : (∃ records, shownHistory node = .ok records) ↔ Dated node := by
  constructor
  · rintro ⟨records, h⟩ e he -
    obtain ⟨read, hf, -⟩ := shownHistory_ok h
    obtain ⟨r, hr⟩ := exists_read_of_forall₂ hf he
    obtain ⟨t, ht, -⟩ := map_eq_ok hr
    exact ⟨t, ht⟩
  · intro h
    obtain ⟨read, hf⟩ := exists_forall₂_read fun e he => h.read he
    exact ⟨latestFirst read, congrArg (Except.map latestFirst) (readChildren_eq_ok.2 hf)⟩

/-- A node whose children can all be read, one way or the other. -/
theorem dated_of_readChild (h : ∀ m ∈ (children? node).getD [], ∃ r, readChild m.1 m.2 = .ok r) :
    Dated node := by
  intro e he _
  obtain ⟨m, hm, hme⟩ := List.mem_filterMap.1 he
  obtain ⟨r, hr⟩ := h m hm
  rw [readChild_some hme] at hr
  obtain ⟨q, hq, -⟩ := map_eq_ok hr
  obtain ⟨t, ht, -⟩ := map_eq_ok hq
  exact ⟨t, ht⟩

end Remote

end CovertVault
