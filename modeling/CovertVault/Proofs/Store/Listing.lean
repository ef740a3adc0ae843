import CovertVault.Proofs.Store.Orderly
import Mathlib.Data.String.Basic

namespace CovertVault.Store

variable {α : Type} {time : α → String} {id : α → Int}

theorem pairwise_newestFirst (time : α → String) (id : α → Int) (rows : List α) :
    (newestFirst time id rows).Pairwise fun a b => time b < time a ∨
      time a = time b ∧ id b ≤ id a := by
  have h : (newestFirst time id rows).Pairwise fun a b => decide (time b < time a ∨
      time a = time b ∧ id b ≤ id a) = true := by
    refine List.pairwise_mergeSort ?_ ?_ rows
    · simp only [decide_eq_true_eq]
      rintro a b c (hab | ⟨hab, hi⟩) (hbc | ⟨hbc, hj⟩)
      · exact .inl (hbc.trans hab)
      · exact .inl (hbc ▸ hab)
      · exact .inl (hab ▸ hbc)
      · exact .inr ⟨hab.trans hbc, hj.trans hi⟩
    · intro a b
      simp only [Bool.or_eq_true, decide_eq_true_eq]
      obtain hlt | he | hlt := lt_trichotomy (time a) (time b)
      · exact .inr (.inl hlt)
      · exact (Int.le_total (id b) (id a)).imp (fun hi => .inr ⟨he, hi⟩)
          fun hi => .inr ⟨he.symm, hi⟩
      · exact .inl (.inl hlt)
  exact h.imp of_decide_eq_true

/-- One row stands strictly before another in a listing. -/
def Newer (time : α → String) (id : α → Int) (a b : α) : Prop :=
  time b < time a ∨ time a = time b ∧ id b < id a

/-- Rows with ids of their own are listed strictly in order, hence none of them twice. -/
theorem newer_newestFirst {rows : List α} (h : (rows.map id).Nodup) :
    (newestFirst time id rows).Pairwise (Newer time id) := by
  have hid : (newestFirst time id rows).Pairwise fun a b => id a ≠ id b :=
    List.pairwise_map.1 (((newestFirst_perm time id rows).map id).nodup_iff.2 h)
  exact ((pairwise_newestFirst time id rows).and hid).imp fun ⟨hab, hne⟩ =>
    hab.imp_right fun ⟨ht, hi⟩ => ⟨ht, lt_of_le_of_ne hi hne.symm⟩

/-- There is only one order in which rows with ids of their own are listed. -/
theorem newestFirst_eq {rows listed : List α} (hid : (rows.map id).Nodup) (hp : listed.Perm rows)
    (hs : listed.Pairwise fun a b => time b < time a ∨ time a = time b ∧ id b ≤ id a) :
    newestFirst time id rows = listed := by
  have hn := newestFirst_perm time id rows
  refine List.Perm.eq_of_pairwise (fun a b ha hb hab hba => ?_) (pairwise_newestFirst time id rows)
    hs (hn.trans hp.symm)
  -- Two rows, each of which may stand before the other, have one id, and so they are one.
  have he : id a = id b := by
    obtain hlt | ⟨he, hi⟩ := hab
    · obtain hlt' | ⟨he', -⟩ := hba
      · exact absurd (hlt.trans hlt') (lt_irrefl _)
      · exact absurd hlt (he' ▸ lt_irrefl _)
    · obtain hlt' | ⟨-, hi'⟩ := hba
      · exact absurd hlt' (he ▸ lt_irrefl _)
      · omega
  have ha := find?_id hid (hn.mem_iff.1 ha)
  rw [he, find?_id hid (hp.mem_iff.1 hb)] at ha
  exact (Option.some.inj ha).symm

/-- Rows in the order of their times and ids are listed from the last to the first. -/
theorem newestFirst_eq_reverse {rows : List α}
    (h : rows.Pairwise fun a b => (time a = time b ∨ time a < time b) ∧ id a < id b) :
    newestFirst time id rows = rows.reverse := by
  refine newestFirst_eq (List.pairwise_map.2 (h.imp fun hab => Int.ne_of_lt hab.2))
    rows.reverse_perm (List.pairwise_reverse.2 (h.imp fun hab => ?_))
  exact hab.1.symm.imp_right fun he => ⟨he.symm, Int.le_of_lt hab.2⟩

end CovertVault.Store
