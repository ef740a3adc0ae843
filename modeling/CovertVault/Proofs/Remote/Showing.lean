import CovertVault.Proofs.Number.Digits
import CovertVault.Proofs.Remote.Failures
import CovertVault.Proofs.Remote.HistoryNode

namespace CovertVault.Remote
open Time

/-- A calculation of a tree, under a key. -/
def Entered (tree : Json) (key : String) (r : RawRecord) : Prop :=
  ∃ c, tree.at? ["calculation_history", key] = some c ∧ readChild key c = .ok (some r)

theorem Shows.text? {node : Option Json} {v : Json} (h : Shows node v) :
    v.text? = node.bind Json.text? := by
  cases h <;> rfl

theorem Shows.stampOfJson {node : Option Json} {v : Json} (h : Shows node v) :
    stampOfJson v = stampOfJson (node.getD .null) := by
  cases h <;> rfl

theorem Shows.field? {ms shown : List (String × Json)}
    (hm : ∀ m ∈ shown, Shows (Json.field? ms m.1) m.2)
    (ha : ∀ key, (Json.field? ms key).isSome → (Json.field? shown key).isSome) (key : String) :
    Shows (Json.field? ms key) ((Json.field? shown key).getD .null) := by
  cases hs : Json.field? shown key with
  | none =>
    have hn : Json.field? ms key = none := by
      rw [← Option.not_isSome_iff_eq_none]
      intro h
      have hk := ha key h
      rw [hs] at hk
      cases hk
    rw [hn]
    exact .missing
  | some v =>
    obtain ⟨l, r, rfl, -⟩ := List.lookup_eq_some_iff.1 hs
    exact hm (key, v) (by simp)

theorem textMember?_eq (members : List (String × Json)) (key : String) :
    textMember? members key = (Json.field? members key).bind Json.text? := by
  unfold textMember?
  cases Json.field? members key with
  | none => rfl
  | some v => cases v <;> rfl

theorem idKey_ne_expression (i : Nat) : idKey i ≠ "expression" := by
  intro h
  have hm : 'e' ∈ Number.natText i := by
    have hl : Number.natText i = "expression".toList := by
      have ht := congrArg String.toList h
      rwa [idKey, String.toList_ofList] at ht
    rw [hl]
    decide
  exact absurd (Number.isAsciiDigit_of_mem_natText hm) (by decide)

/-- A calculation is shown as what it is. -/
theorem readChild_of_shows {c v : Json} (h : Shows (some c) v) (key : String) :
    readChild key v = readChild key c := by
  cases h with
  | leaf => rfl
  | @members ms shown hm ha =>
    have hf := Shows.field? hm ha
    have ht (k : String) : textMember? shown k = textMember? ms k := by
      rw [textMember?_eq, textMember?_eq, ← (hf k).text?]
      cases Json.field? shown k <;> rfl
    have hs : stampOfJson ((Json.field? shown "calculated_at").getD .null) =
        stampOfJson ((Json.field? ms "calculated_at").getD .null) := (hf _).stampOfJson
    simp only [readChild, ht, hs]
  | @places ms items hi ha =>
    -- Keys that are numbers name no text of a calculation.
    have hn : Json.field? ms "expression" = none := by
      rw [← Option.not_isSome_iff_eq_none]
      intro h
      obtain ⟨i, -, hk⟩ := ha _ h
      exact idKey_ne_expression i hk.symm
    simp [readChild, textMember?_eq, hn]

/-- Each child of an answer shows the child of the node with its key. -/
theorem Shows.child {node : Option Json} {v : Json} (h : Shows node v) {m : String × Json}
    (hm : m ∈ (children? v).getD []) : Shows (node.bind (·.child? m.1)) m.2 := by
  cases h with
  | missing => cases hm
  | leaf hl =>
    cases v with
    | arr | obj => cases hl
    | _ => cases hm
  | members hs => exact hs m hm
  | places hs =>
    obtain ⟨⟨v, i⟩, hp, he⟩ := List.mem_filterMap.1 hm
    have hs := hs _ hp
    cases v with
    | null => cases he
    | _ =>
      cases he
      exact hs

/-- Each child of the node is shown, unless it is nothing. -/
theorem Shows.exists_child {node : Option Json} {v : Json} (h : Shows node v) {key : String}
    {c : Json} (hc : node.bind (·.child? key) = some c) :
    c = .null ∨ ∃ w, (key, w) ∈ (children? v).getD [] := by
  cases h with
  | missing => cases hc
  | leaf hl =>
    cases v with
    | arr | obj => cases hl
    | _ => cases hc
  | @members ms shown hs ha =>
    have hf : Json.field? ms key = some c := hc
    obtain ⟨w, hw⟩ := Option.isSome_iff_exists.1 (ha key (by rw [hf]; rfl))
    obtain ⟨l, r, rfl, -⟩ := List.lookup_eq_some_iff.1 hw
    exact .inr ⟨w, by simp [children?]⟩
  | @places ms items hs ha =>
    have hf : Json.field? ms key = some c := hc
    obtain ⟨i, hl, rfl⟩ := ha key (by rw [hf]; rfl)
    have hp : (items[i], i) ∈ items.zipIdx := List.mk_mem_zipIdx_iff_getElem?.2 (by simp [hl])
    have hs := hs _ hp
    rw [hf] at hs
    generalize items[i] = w at hp hs
    by_cases hw : w = .null
    · subst hw
      cases hs
      exact .inl rfl
    · refine .inr ⟨w, List.mem_filterMap.2 ⟨_, hp, ?_⟩⟩
      cases w with
      | null => exact absurd rfl hw
      | _ => rfl

/-- The children of an answer give the calculations among the children of the node. -/
theorem readChild_children {node : Option Json} {v : Json} (h : Shows node v) (r : RawRecord) :
    (∃ m ∈ (children? v).getD [], readChild m.1 m.2 = .ok (some r)) ↔
      ∃ key c, node.bind (·.child? key) = some c ∧ readChild key c = .ok (some r) := by
  constructor
  · rintro ⟨⟨key, w⟩, hm, hr⟩
    have hs := h.child hm
    dsimp only at hr hs
    cases hc : node.bind (·.child? key) with
    | none =>
      rw [hc] at hs
      cases hs
      cases hr
    | some c =>
      rw [hc] at hs
      exact ⟨key, c, hc, (readChild_of_shows hs key).symm.trans hr⟩
  · rintro ⟨key, c, hc, hr⟩
    obtain rfl | ⟨w, hm⟩ := h.exists_child hc
    · cases hr
    · have hs := h.child hm
      rw [hc] at hs
      exact ⟨(key, w), hm, (readChild_of_shows hs key).trans hr⟩

/-- What is read from an answer is what the tree holds. -/
theorem mem_shownHistory_iff_entered {tree v : Json}
    (h : Shows (tree.at? ["calculation_history"]) v) {records : List RawRecord}
    (hr : shownHistory v = .ok records) (r : RawRecord) :
    r ∈ records ↔ ∃ key, Entered tree key r := by
  rw [mem_shownHistory_iff_child hr, readChild_children h]
  simp only [Entered, Json.at?_pair]

/-- A calculation that is shown is read as what it is, or passed over for its key. -/
theorem ShowsCalculation.readChild {h : HistoryRecord} {c : Json} (hc : ShowsCalculation h c)
    (key : String) : readChild key c =
      .ok ((Number.looseInt? key.toList).map fun id => { RawRecord.ofRecord h with id := id }) := by
  cases c with
  | obj ms =>
    obtain ⟨he, hr, ht⟩ := hc
    have hexpression : textMember? ms "expression" = some (Text.points h.expression) := by
      rw [textMember?_eq]
      exact congrArg (·.bind Json.text?) he
    have hresult : textMember? ms "result" = some (Text.points h.result) := by
      rw [textMember?_eq]
      exact congrArg (·.bind Json.text?) hr
    have htime : Json.field? ms "calculated_at" = some (.str h.calculatedAt) := ht
    unfold Remote.readChild
    dsimp only
    rw [hexpression, hresult, htime]
    cases Number.looseInt? key.toList <;> rfl
  | _ => cases hc.expression

/-- An answer that shows told calculations gives these and no others. -/
theorem shownHistory_told {node : Option Json} {v : Json} (h : Shows node v)
    {rows : List HistoryRecord} (hn : ∀ key c, node.bind (·.child? key) = some c →
      ∃ r ∈ rows, ShowsCalculation r c) :
    ∃ records, shownHistory v = .ok records ∧ ∀ r ∈ records, Store.Retells rows r := by
  have hread : ∀ m ∈ (children? v).getD [], ∃ r, readChild m.1 m.2 = .ok r := by
    intro m hm
    have hs := h.child hm
    cases hc : node.bind (·.child? m.1) with
    | none =>
      rw [hc] at hs
      generalize m.2 = w at hs
      cases hs
      exact ⟨none, rfl⟩
    | some c =>
      rw [hc] at hs
      obtain ⟨r, -, hr⟩ := hn _ c hc
      exact ⟨_, (readChild_of_shows hs m.1).trans (hr.readChild m.1)⟩
  obtain ⟨records, hr⟩ := shownHistory_ok_iff.2 (dated_of_readChild hread)
  refine ⟨records, hr, fun r hmem => ?_⟩
  obtain ⟨key, c, hc, hchild⟩ :=
    (readChild_children h r).1 ((mem_shownHistory_iff_child hr).1 hmem)
  obtain ⟨row, hrow, hshow⟩ := hn key c hc
  rw [hshow.readChild] at hchild
  obtain ⟨id, -, rfl⟩ := Option.map_eq_some_iff.1 (Except.ok.inj hchild)
  exact ⟨row, hrow, id, rfl⟩

variable {ω T : Type} [TimeScale T] {link : Link ω T} {user : String} {tree : ω → Json}

/-- What a call for the calculations is answered, as far as it is: nothing, when it is not. -/
def answered : Except Error Json → Json
  | .ok v => v
  | .error _ => .null

/-- Failures that are passed over, and answers that are no node, count as no calculations. -/
theorem historyOrNone_answered {links : Nat → Link ω T} {n : Nat} {c : Client T} {w : ω}
    (hp : Passes (c.ask (links n) .get ["calculation_history"] (fun _ => none) w).1) :
    ((Client.copy links).historyOrNone (some (c, n), w)).1 =
      (shownHistory (answered
        (c.ask (links n) .get ["calculation_history"] (fun _ => none) w).1)).mapError .time := by
  unfold Copy.historyOrNone Client.copy Client.fetchHistory
  dsimp only
  generalize c.ask (links n) .get ["calculation_history"] (fun _ => none) w = a at hp
  obtain ⟨r, c', w'⟩ := a
  cases r with
  | error e =>
    rw [answered, shownHistory_nothing rfl]
    exact if_pos (hp e rfl)
  | ok v =>
    dsimp only [answered, Except.bind, readHistory]
    cases hc : children? v with
    | none =>
      rw [shownHistory_nothing (by rw [hc]; rfl)]
      rfl
    | some members =>
      rw [shownHistory, hc]
      dsimp only [Option.getD_some]
      cases readChildren members <;> rfl

/-- Fetched calculations are those of the tree, or none. -/
theorem historyOrNone_settled {links : Nat → Link ω T} {n : Nat} {c : Client T} {w : ω}
    (hk : (links n).Keeps user tree) (hc : c.user = user)
    (hs : c.settlesFetch (links n) w = true) {rows : List HistoryRecord}
    (hr : ∀ key v, (tree w).at? ["calculation_history", key] = some v →
      ∃ r ∈ rows, ShowsCalculation r v) :
    ∃ records c' w', (Client.copy links).historyOrNone (some (c, n), w) =
        (.ok records, some (c', n), w') ∧
      c'.user = user ∧ tree w' = tree w ∧ ∀ r ∈ records, Store.Retells rows r := by
  have hset : Settled (c.ask (links n) .get ["calculation_history"] (fun _ => none) w).1 :=
    of_decide_eq_true hs
  obtain ⟨⟨now, ht⟩, hv⟩ := ask_settled hk hc hset
  have hu := ask_user (links n) .get ["calculation_history"] (fun _ => none) c w
  have hstate := historyOrNone_state links n c w
  have hread := hv rfl
  -- An empty body stands for nothing, as if there were no node.
  obtain ⟨hp, shown, hshow, hch⟩ :
      Passes (c.ask (links n) .get ["calculation_history"] (fun _ => none) w).1 ∧
      ∃ shown, Shows shown
        (answered (c.ask (links n) .get ["calculation_history"] (fun _ => none) w).1) ∧
      ∀ key q, shown.bind (·.child? key) = some q →
        ∃ r ∈ rows, ShowsCalculation r q := by
    obtain he | ⟨v, he⟩ := hset
    · rw [he]
      exact ⟨passes_error rfl, none, .missing, by simp⟩
    · rw [he]
      refine ⟨passes_ok v, ?_⟩
      obtain rfl | hshow := hread v he
      · exact ⟨none, .missing, by simp⟩
      · refine ⟨_, hshow, fun key q hq => hr key q ?_⟩
        rwa [Json.at?_pair] at hq
  obtain ⟨records, hh, hall⟩ := shownHistory_told hshow hch
  have hanswer : ((Client.copy links).historyOrNone (some (c, n), w)).1 = _ :=
    historyOrNone_answered hp
  rw [hh] at hanswer
  exact ⟨records, _, _, Prod.ext hanswer hstate, hu.trans hc, ht, hall⟩

/-- A connection over which whatever is answered to a question can be read. -/
def Link.Readable (link : Link ω T) (user : String) : Prop :=
  ∀ q w body, q.user = user → q.method = .get → (link.send q w).1 = .response 200 body →
    ∃ v, Json.ofBody? body = some v

theorem tryAll_shown (hk : link.Keeps user tree) (hl : link.Readable user) {q : Request}
    (hq : q.user = user) (hm : q.method = .get) (pauses : List Int) (w : ω)
    (hs : Settled (Client.tryAll link q pauses w).1) :
    ∃ v, (Client.tryAll link q pauses w).1 = .ok v ∧ Shows ((tree w).at? q.node) v := by
  induction pauses generalizing w with
  | nil => obtain hs | ⟨v, hs⟩ := hs <;> cases hs
  | cons pause pauses ih =>
    have hv := hk.send q w hq
    have hread := hl q w
    cases hsend : link.send q w with
    | mk o w' =>
      rw [hsend] at hv hread
      cases ho : o.verdict? with
      | some r =>
        rw [tryAll_cons_some hsend ho] at hs ⊢
        obtain ⟨body, rfl, -⟩ := Outcome.verdict_settled ho hs
        obtain ⟨v, hb⟩ := hread body hq hm rfl
        have hr := ho.symm.trans (Outcome.verdict_readable hb)
        exact ⟨v, Option.some.inj hr, hv.shown hm body v rfl hb⟩
      | none =>
        rw [tryAll_cons_none hsend ho] at hs ⊢
        -- A request that only reads has left the tree alone, whether it was carried out or lost.
        obtain ⟨v, hv', hshow⟩ := ih _ hs
        -- A question changes nothing, answered or not.
        have ht : tree w' = tree w := by
          have hg : q.apply (tree w) = tree w := by rw [Request.apply, hm]
          obtain hb | hb := hv.once
          · exact hb
          · exact hb.trans hg
        rw [hk.sleep, ht] at hshow
        exact ⟨v, hv', hshow⟩

/-- A question that is settled has been answered with what the tree holds. -/
theorem ask_shown (hk : link.Keeps user tree) (hl : link.Readable user) {node : List String}
    {c : Client T} (hc : c.user = user) {w : ω}
    (hs : Settled (c.ask link .get node (fun _ => none) w).1) :
    ∃ v, (c.ask link .get node (fun _ => none) w).1 = .ok v ∧ Shows ((tree w).at? node) v := by
  obtain ⟨now, w', hw, hr, -⟩ :=
    ask_tried (P := fun v => tree v = tree w) (fun t v h => (hk.sleep t v).trans h) rfl hs
  have hq : (c.request .get node none).user = user := hc
  rw [hr] at hs ⊢
  rw [← hw]
  exact tryAll_shown hk hl hq rfl _ _ hs

end CovertVault.Remote
