import CovertVault.Number.Round
import Mathlib.Algebra.Order.Field.Basic
import Mathlib.Algebra.Order.Field.Rat
import Mathlib.Algebra.Order.Ring.Abs
import Mathlib.Data.Rat.Cast.Order
import Mathlib.Tactic.FieldSimp
import Mathlib.Tactic.Linarith
import Mathlib.Tactic.NormNum
import Mathlib.Tactic.Ring

namespace CovertVault.Number

/-- A whole number at most half away; an even one if it is just half away. -/
structure RoundsTo (x : ℚ) (m : ℕ) : Prop where
  near : |x - m| ≤ 1 / 2
  even : |x - m| = 1 / 2 → m % 2 = 0

theorem roundsTo_roundHalfEven (num : ℕ) {den : ℕ} (hd : 0 < den) :
    RoundsTo (num / den) (roundHalfEven num den) := by
  have hden : (0 : ℚ) < den := Nat.cast_pos.2 hd
  have hx : (num / den : ℚ) = (num / den : ℕ) + (num % den : ℕ) / den := by
    rw [div_eq_iff hden.ne', add_mul, div_mul_cancel₀ _ hden.ne']
    exact_mod_cast (Nat.div_add_mod' num den).symm
  have hpart : (0 : ℚ) ≤ (num % den : ℕ) / den := by positivity
  have hhalf : ((num % den : ℕ) / den : ℚ) = (2 * (num % den) : ℕ) / den / 2 := by
    push_cast
    ring
  -- What is behind the whole ones decides.
  rw [hx]
  unfold roundHalfEven
  split
  · next h =>
    have h : 2 * (num % den) < den := Nat.compare_eq_lt.1 h
    have hq : ((2 * (num % den) : ℕ) / den : ℚ) < 1 := (div_lt_one hden).2 (Nat.cast_lt.2 h)
    have ha : |((num / den : ℕ) + (num % den : ℕ) / den : ℚ) - (num / den : ℕ)| < 1 / 2 := by
      rw [add_sub_cancel_left, abs_of_nonneg hpart]
      linarith
    exact ⟨ha.le, fun he => absurd he ha.ne⟩
  · next h =>
    have h : 2 * (num % den) = den := Nat.compare_eq_eq.1 h
    have hq : ((num % den : ℕ) / den : ℚ) = 1 / 2 := by
      rw [hhalf, h, div_self hden.ne']
    rw [hq]
    dsimp only
    refine ⟨?_, fun _ => by omega⟩
    obtain he | he := Nat.mod_two_eq_zero_or_one (num / den) <;> rw [he] <;> push_cast <;>
      rw [abs_le] <;> constructor <;> linarith
  · next h =>
    have h : den < 2 * (num % den) := Nat.compare_eq_gt.1 h
    have hq : 1 < ((2 * (num % den) : ℕ) / den : ℚ) := (one_lt_div hden).2 (Nat.cast_lt.2 h)
    have hlt : ((num % den : ℕ) / den : ℚ) < 1 :=
      (div_lt_one hden).2 (Nat.cast_lt.2 (Nat.mod_lt _ hd))
    have ha : |((num / den : ℕ) + (num % den : ℕ) / den : ℚ) - (num / den + 1 : ℕ)| < 1 / 2 := by
      rw [Nat.cast_add_one, abs_lt]
      constructor <;> linarith
    exact ⟨ha.le, fun he => absurd he ha.ne⟩

namespace RoundsTo

variable {x : ℚ} {m : ℕ}

/-- Other whole numbers are at least half away. -/
theorem half_le (h : RoundsTo x m) {k : ℤ} (hk : k ≠ m) : 1 / 2 ≤ |x - k| := by
  have hone : (1 : ℚ) ≤ |(m : ℚ) - k| := by
    have h1 : (1 : ℤ) ≤ |(m : ℤ) - k| := Int.one_le_abs (sub_ne_zero.2 hk.symm)
    exact_mod_cast h1
  have htri : |(m : ℚ) - k| ≤ |x - m| + |x - k| := by
    rw [abs_sub_comm x m]
    exact abs_sub_le (m : ℚ) x k
  have hnear := h.near
  linarith

/-- None is nearer. -/
theorem nearest (h : RoundsTo x m) (k : ℤ) : |x - m| ≤ |x - k| := by
  by_cases hk : k = m
  · rw [hk, Int.cast_natCast]
  · exact h.near.trans (h.half_le hk)

theorem tie (h : RoundsTo x m) {k : ℤ} (he : |x - k| = |x - m|) : k = m ∨ m % 2 = 0 := by
  by_cases hk : k = m
  · exact .inl hk
  · exact .inr (h.even (le_antisymm h.near (he ▸ h.half_le hk)))

/-- Rounding goes beyond no whole number. -/
theorem le_of_le (h : RoundsTo x m) {b : ℕ} (hx : x ≤ b) : m ≤ b := by
  by_contra hb
  have hm : (b : ℚ) + 1 ≤ m := by exact_mod_cast Nat.lt_of_not_le hb
  have hn := h.near
  have ht := h.even
  rw [abs_sub_comm, abs_of_nonneg (by linarith)] at hn ht
  linarith

theorem ge_of_ge (h : RoundsTo x m) {b : ℕ} (hx : (b : ℚ) ≤ x) : b ≤ m := by
  by_contra hb
  have hm : (m : ℚ) + 1 ≤ b := by exact_mod_cast Nat.lt_of_not_le hb
  have hn := h.near
  rw [abs_of_nonneg (by linarith)] at hn
  linarith

/-- A half goes down to zero, the even one. -/
theorem eq_zero_of_le_half (h : RoundsTo x m) (hx : x ≤ 1 / 2) : m = 0 := by
  have hle : m ≤ 1 := h.le_of_le (by push_cast; linarith)
  obtain rfl | rfl : m = 0 ∨ m = 1 := by omega
  · rfl
  have hdist : |x - (1 : ℕ)| = 1 - x := by
    rw [abs_sub_comm, Nat.cast_one, abs_of_nonneg (by linarith)]
  have hnear := h.near
  rw [hdist] at hnear
  have hone := h.even (by rw [hdist]; linarith)
  omega

/-- The error of a value that is rounded when scaled. -/
theorem error_le {c : ℚ} (h : RoundsTo (x * c) m) (hc : 0 < c) : |m / c - x| ≤ 1 / 2 / c := by
  have he : |m / c - x| = |x * c - m| / c := by
    rw [abs_sub_comm (x * c), ← abs_of_pos hc, ← abs_div, abs_of_pos hc, sub_div,
      mul_div_cancel_right₀ _ hc.ne']
  rw [he]
  exact div_le_div_of_nonneg_right h.near hc.le

end RoundsTo

end CovertVault.Number
