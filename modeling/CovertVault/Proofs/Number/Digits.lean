import CovertVault.Number.Decimal
import CovertVault.Text.Digit
import Mathlib.Algebra.Group.Nat.Defs
import Mathlib.Data.List.Basic
import Mathlib.Data.List.Induction
import Mathlib.Tactic.Ring

namespace CovertVault.Number
open Text

theorem isAsciiDigit_iff {c : Char} : isAsciiDigit c = true ↔ 48 ≤ c.toNat ∧ c.toNat ≤ 57 := by
  simp [isAsciiDigit, Char.le_def, UInt32.le_iff_toNat_le]

theorem digitValue?_ascii {c : Char} (h : isAsciiDigit c = true) :
    digitValue? c = some (c.toNat - 48) := by
  have hc := isAsciiDigit_iff.1 h
  have h1 : (decide (48 ≤ c.toNat) && decide (c.toNat < 48 + 10)) = true := by
    simp
    omega
  simp only [digitValue?, digitZeros, List.find?_cons, h1, Option.map_some]

theorem isDecimal_ascii {c : Char} (h : isAsciiDigit c = true) : isDecimal c = true := by
  simp [isDecimal, digitValue?_ascii h]

theorem natText_ne_nil (n : Nat) : natText n ≠ [] := Nat.toDigits_ne_nil

theorem isAsciiDigit_of_mem_natText {n : Nat} {c : Char} (h : c ∈ natText n) :
    isAsciiDigit c = true := by
  have hd : c.isDigit = true := Nat.isDigit_of_mem_toDigits (by decide) (by decide) h
  simpa [Char.isDigit, isAsciiDigit, Char.le_def] using hd

theorem decimalValue_eq_ofDigitChars {ds : List Char} (h : ∀ c ∈ ds, isAsciiDigit c = true) :
    decimalValue ds = Nat.ofDigitChars 10 ds 0 := by
  unfold decimalValue Nat.ofDigitChars
  refine List.foldl_ext _ _ _ fun n c hc => ?_
  rw [digitValue?_ascii (h c hc)]
  rfl

/-- The digits of a number read back as the number. -/
theorem decimalValue_natText (n : Nat) : decimalValue (natText n) = n := by
  rw [decimalValue_eq_ofDigitChars fun _ => isAsciiDigit_of_mem_natText]
  exact Nat.ofDigitChars_ten_toDigits

theorem natText_injective : Function.Injective natText :=
  Function.LeftInverse.injective decimalValue_natText

theorem intText_injective : Function.Injective intText := by
  -- A minus is no digit, so the texts of numbers on different sides of zero differ.
  have hm (n : Nat) (r : List Char) : natText n ≠ '-' :: r := by
    intro h
    have hd : isAsciiDigit '-' = true :=
      isAsciiDigit_of_mem_natText (n := n) (h ▸ List.mem_cons_self)
    cases hd
  intro m n h
  unfold intText at h
  split_ifs at h with hm' hn' hn'
  · have := natText_injective (List.cons.inj h).2
    omega
  · exact absurd h.symm (hm _ _)
  · exact absurd h (hm _ _)
  · have := natText_injective h
    omega

theorem length_natText_le {n k : Nat} (hk : 0 < k) : (natText n).length ≤ k ↔ n < 10 ^ k :=
  Nat.length_toDigits_le_iff (by decide) hk

theorem decimalValue_lt {ds : List Char} (h : ∀ c ∈ ds, isAsciiDigit c = true) :
    decimalValue ds < 10 ^ ds.length := by
  induction ds using List.reverseRecOn with
  | nil => decide
  | append_singleton ds c ih =>
    have hc := h c (by simp)
    have hr := isAsciiDigit_iff.1 hc
    have hl := ih fun d hd => h d (by simp [hd])
    have ha : decimalValue (ds ++ [c]) = 10 * decimalValue ds + (c.toNat - 48) := by
      simp [decimalValue, digitValue?_ascii hc]
    rw [ha, List.length_append, List.length_singleton, Nat.pow_succ]
    omega

/-- No superfluous zero stands in front of a number. -/
theorem natText_zero_cons {n : Nat} {ds : List Char} (h : natText n = '0' :: ds) : ds = [] := by
  have hd : ∀ c ∈ ds, isAsciiDigit c = true := fun c hc =>
    isAsciiDigit_of_mem_natText (n := n) (h ▸ List.mem_cons_of_mem _ hc)
  have hn : n = decimalValue ds := by
    rw [← decimalValue_natText n, h]
    rfl
  by_cases hne : ds = []
  · exact hne
  · have hl : (natText n).length ≤ ds.length :=
      (length_natText_le (List.length_pos_iff.2 hne)).2 (hn ▸ decimalValue_lt hd)
    rw [h, List.length_cons] at hl
    omega

/-- Digits behind others shift their value. -/
theorem decimalValue_append_mul (ds fs : List Char) :
    decimalValue (ds ++ fs) = decimalValue ds * 10 ^ fs.length + decimalValue fs := by
  induction fs using List.reverseRecOn with
  | nil => simp [decimalValue]
  | append_singleton fs c ih =>
    have hc (r : List Char) :
        decimalValue (r ++ [c]) = 10 * decimalValue r + (digitValue? c).getD 0 := by
      simp [decimalValue]
    rw [← List.append_assoc, hc, hc, ih, List.length_append, List.length_singleton, Nat.pow_succ]
    ring

theorem decimalValue_zeros (k : Nat) : decimalValue (List.replicate k '0') = 0 := by
  induction k with
  | zero => rfl
  | succ k ih =>
    rw [List.replicate_succ', decimalValue_append_mul, ih]
    rfl

theorem paddedText_ne_nil (width n : Nat) : paddedText width n ≠ [] := by
  simp [paddedText, natText_ne_nil]

theorem isAsciiDigit_of_mem_paddedText {width n : Nat} {c : Char} (h : c ∈ paddedText width n) :
    isAsciiDigit c = true := by
  obtain h | h := List.mem_append.1 h
  · rw [List.eq_of_mem_replicate h]
    rfl
  · exact isAsciiDigit_of_mem_natText h

theorem length_paddedText (width n : Nat) :
    (paddedText width n).length = max width (natText n).length := by
  simp only [paddedText, List.length_append, List.length_replicate]
  omega

theorem decimalValue_paddedText (width n : Nat) : decimalValue (paddedText width n) = n := by
  rw [paddedText, decimalValue_append_mul, decimalValue_zeros, decimalValue_natText, Nat.zero_mul,
    Nat.zero_add]

/-- The digits before and behind a point are those of the whole. -/
theorem decimalValue_pointText {places : Nat} (hp : 0 < places) (n : Nat) :
    decimalValue (natText (n / 10 ^ places) ++ paddedText places (n % 10 ^ places)) = n ∧
      (paddedText places (n % 10 ^ places)).length = places := by
  have hl : (natText (n % 10 ^ places)).length ≤ places :=
    (length_natText_le hp).2 (Nat.mod_lt _ (Nat.pow_pos (by decide)))
  have hlength : (paddedText places (n % 10 ^ places)).length = places := by
    rw [length_paddedText, Nat.max_eq_left hl]
  refine ⟨?_, hlength⟩
  rw [decimalValue_append_mul, hlength, decimalValue_natText, decimalValue_paddedText,
    Nat.div_add_mod']

end CovertVault.Number
