import CovertVault.Formula.ResultText
import CovertVault.Proofs.Number.Finite
import CovertVault.Proofs.Outcome

namespace CovertVault.Formula
open Number

theorem isFinite_of_checked {v w : Float} (h : checked v = .ok w) : w.isFinite = true := by
  unfold checked at h
  split at h
  · next hf =>
    cases h
    exact hf
  · cases h

theorem BinOp.isFinite_of_apply {o : BinOp} {left right v : Float}
    (h : o.apply left right = .ok v) : v.isFinite = true := by
  cases o with
  | div =>
    simp only [BinOp.apply] at h
    split at h
    · cases h
    · exact isFinite_of_checked h
  | add | sub | mul => exact isFinite_of_checked h

/-- Numbers that are all finite. -/
def AllFinite (ns : List Float) : Prop := ∀ v ∈ ns, v.isFinite = true

variable {ns ns' : List Float} {ps : List Pending} {m m' : Machine}

theorem AllFinite.cons {v : Float} (hv : v.isFinite = true) (h : AllFinite ns) :
    AllFinite (v :: ns) := List.forall_mem_cons.2 ⟨hv, h⟩

theorem AllFinite.applyTop (h : AllFinite ns) {o : BinOp} (ha : applyTop o ns = .ok ns') :
    AllFinite ns' := by
  unfold Formula.applyTop at ha
  split at ha
  · next right left rest =>
    obtain ⟨v, hv, rfl⟩ := map_eq_ok ha
    exact .cons (BinOp.isFinite_of_apply hv) fun w hw => h w (.tail _ (.tail _ hw))
  · cases ha

theorem AllFinite.reduceWhile (h : AllFinite ns) {p : BinOp → Bool}
    (hr : reduceWhile p ns ps = .ok m) : AllFinite m.numbers := by
  induction ps generalizing ns with
  | nil =>
    cases hr
    exact h
  | cons q ps ih =>
    cases q with
    | group =>
      cases hr
      exact h
    | op o =>
      rw [Formula.reduceWhile] at hr
      split at hr
      · -- Applying an operator fails where its result is not finite.
        obtain ⟨ns', ha, hr⟩ := bind_eq_ok hr
        exact ih (h.applyTop ha) hr
      · cases hr
        exact h

theorem AllFinite.reduceAll (h : AllFinite ns) (hr : reduceAll ns ps = .ok ns') :
    AllFinite ns' := by
  induction ps generalizing ns with
  | nil =>
    cases hr
    exact h
  | cons q ps ih =>
    cases q with
    | group => cases hr
    | op o =>
      obtain ⟨ns₁, ha, hr⟩ := bind_eq_ok hr
      exact ih (h.applyTop ha) hr

/-- A lexeme puts nothing on the stack that is not finite. -/
theorem AllFinite.step (h : AllFinite m.numbers) {l : Lexeme} (hs : m.step l = .ok m') :
    AllFinite m'.numbers := by
  cases l with
  | number t =>
    obtain ⟨v, hv, hs⟩ := bind_eq_ok hs
    cases hs
    exact .cons (isFinite_of_checked hv) h
  | negation =>
    cases hs
    exact .cons rfl h
  | opening =>
    cases hs
    exact h
  | closing =>
    obtain ⟨⟨ns, ps⟩, hr, hs⟩ := bind_eq_ok hs
    have hns : AllFinite ns := h.reduceWhile hr
    cases ps with
    | nil => cases hs
    | cons q ps =>
      cases hs
      exact hns
  | op o =>
    obtain ⟨⟨ns, ps⟩, hr, hs⟩ := bind_eq_ok hs
    have hns : AllFinite ns := h.reduceWhile hr
    cases hs
    exact hns
  | bad err => cases hs

theorem AllFinite.run {ls : List Lexeme} (h : AllFinite m.numbers)
    (hr : ls.foldlM Machine.step m = .ok m') : AllFinite m'.numbers := by
  induction ls generalizing m with
  | nil =>
    cases hr
    exact h
  | cons l ls ih =>
    obtain ⟨m₁, hs, hr⟩ := bind_eq_ok hr
    exact ih (h.step hs) hr

theorem isFinite_of_evaluate {s : List Char} {v : Float} (h : evaluate s = .ok v) :
    v.isFinite = true := by
  obtain ⟨m, hm, hf⟩ := bind_eq_ok h
  have hn : AllFinite m.numbers := AllFinite.run (m := ⟨[], []⟩) nofun hm
  obtain ⟨ns, hr, hv⟩ := bind_eq_ok hf
  have hns := hn.reduceAll hr
  split at hv
  · cases hv
    rfl
  · cases hv
    exact hns _ (.head _)
  · cases hv

/-- What is shown of a value is the text of a number. -/
theorem formatNumber_of_evaluate {s : List Char} {v : Float} (h : evaluate s = .ok v) :
    ∃ d, formatNumber v = exactText d := by
  obtain ⟨d, hd⟩ := exists_exactFloat (isFinite_of_evaluate h)
  refine ⟨d, ?_⟩
  unfold formatNumber
  rw [hd]

end CovertVault.Formula
