import CovertVault.Number.Grouped
import CovertVault.Proofs.Number.Digits

namespace CovertVault.Number
open Text

theorem trim_of_ends {p : Char → Bool} {s : List Char} (hh : ∀ c ∈ s.head?, p c = false)
    (hl : ∀ c ∈ s.getLast?, p c = false) : trim p s = s := by
  have hd {r : List Char} (h : ∀ c ∈ r.head?, p c = false) : r.dropWhile p = r := by
    cases r with
    | nil => rfl
    | cons c r => exact List.dropWhile_cons_of_neg (by simp [h c rfl])
  have hr : ∀ c ∈ s.reverse.head?, p c = false := fun c hc =>
    hl c (by rwa [List.head?_reverse] at hc)
  rw [trim, hd hh, hd hr, List.reverse_reverse]

theorem not_isBlank {c : Char} (h : 0x21 ≤ c.toNat ∧ c.toNat ≤ 0x7e) : isBlank c = false := by
  simp [isBlank, inRanges, covers]
  omega

theorem groupedDigits?_digits {isDigit : Char → Bool} {ds : List Char} (hn : ds ≠ [])
    (hd : ∀ c ∈ ds, isDigit c = true) (hu : '_' ∉ ds) : groupedDigits? isDigit ds = some ds := by
  fun_induction groupedDigits? isDigit ds with
  | case1 => exact absurd rfl hn
  | case2 => rfl
  | case3 c hc => exact absurd (hd c (by simp)) hc
  | case4 c r hc ih => exact absurd (by simp) hu
  | case5 => exact absurd (by simp) hu
  | case6 c r hr hx hc ih =>
    rw [ih hr (fun d h => hd d (.tail _ h)) fun h => hu (.tail _ h)]
    rfl
  | case7 c r _ _ hc => exact absurd (hd c (by simp)) hc

theorem not_isBlank_of_mem_intText {n : Int} {c : Char} (hc : c ∈ intText n) :
    isBlank c = false := by
  have hd (h : c ∈ natText n.natAbs) : isBlank c = false := by
    have hr := isAsciiDigit_iff.1 (isAsciiDigit_of_mem_natText h)
    exact not_isBlank (by omega)
  unfold intText at hc
  split at hc
  · obtain rfl | h := List.mem_cons.1 hc
    · exact not_isBlank (by decide)
    · exact hd h
  · exact hd hc

theorem splitSign_intText (n : Int) :
    splitSign (intText n) = (decide (n < 0), natText n.natAbs) := by
  unfold intText
  split
  · next h => simp [splitSign, h]
  · next h =>
    obtain ⟨d, r, hn⟩ := List.exists_cons_of_ne_nil (natText_ne_nil n.natAbs)
    have hd : isAsciiDigit d = true := isAsciiDigit_of_mem_natText (hn ▸ List.mem_cons_self)
    have hs : d ≠ '+' ∧ d ≠ '-' := by
      constructor <;> (rintro rfl; cases hd)
    rw [hn]
    unfold splitSign
    split <;> simp_all

/-- A number is read back from its text. -/
theorem looseInt?_intText {n : Int} (h : (natText n.natAbs).length ≤ digitLimit) :
    looseInt? (intText n) = some n := by
  have ht : trim isBlank (intText n) = intText n :=
    trim_of_ends (fun _ hc => not_isBlank_of_mem_intText (List.mem_of_mem_head? hc))
      fun _ hc => not_isBlank_of_mem_intText (List.mem_of_mem_getLast? hc)
  have hd : ∀ c ∈ natText n.natAbs, isDecimal c = true := fun c hc =>
    isDecimal_ascii (isAsciiDigit_of_mem_natText hc)
  have hu : '_' ∉ natText n.natAbs := fun hc =>
    absurd (isAsciiDigit_of_mem_natText hc) (by decide)
  have hn : signed (decide (n < 0)) n.natAbs = n := by
    by_cases h0 : n < 0
    · rw [signed, decide_eq_true h0, if_pos rfl]
      omega
    · rw [signed, decide_eq_false h0, if_neg Bool.false_ne_true]
      omega
  unfold looseInt?
  rw [ht, splitSign_intText]
  simp [groupedDigits?_digits (natText_ne_nil _) hd hu, Nat.not_lt.2 h, decimalValue_natText, hn]

end CovertVault.Number
