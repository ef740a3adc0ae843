import CovertVault.Number.Decimal
import CovertVault.Proofs.Number.Finite
import CovertVault.Proofs.Number.Rounding
import Mathlib

namespace CovertVault.Number
open Float.Model

/-- What is not finite counts as zero. -/
def unpackedValue : UnpackedFloat → ℚ
  | .finite sign mantissa exponent _ => sign.apply mantissa * 2 ^ exponent
  | _ => 0

/-- The value of a binary64. -/
def valueOf (v : Float) : ℚ := unpackedValue v.toModel.unpack

def withSign (negative : Bool) (x : ℚ) : ℚ := if negative then -x else x

/-- A finite binary64 that is nearest to a value. Where two are, its last bit is zero. -/
structure IsNearest (x : ℚ) (w : Float) : Prop where
  finite : w.isFinite = true
  nearest : ∀ u : Float, u.isFinite = true → |x - valueOf w| ≤ |x - valueOf u|
  even : ∀ u : Float, u.isFinite = true → |x - valueOf u| = |x - valueOf w| →
    valueOf u = valueOf w ∨ w.toBits.toNat % 2 = 0

namespace ExactFloat

def size (d : ExactFloat) : ℚ := d.mantissa * 2 ^ d.exponent

def value (d : ExactFloat) : ℚ := withSign d.negative d.size

/-- The significands and exponents that there are. -/
structure InRange (d : ExactFloat) : Prop where
  mantissa : d.mantissa < 2 ^ 53
  exponent_ge : -1074 ≤ d.exponent
  exponent_le : d.exponent ≤ 971

end ExactFloat

variable {v : Float} {d : ExactFloat} {x s : ℚ}

theorem ExactFloat.size_nonneg (d : ExactFloat) : 0 ≤ d.size := by
  unfold ExactFloat.size
  positivity

theorem withSign_zero (negative : Bool) : withSign negative 0 = 0 := by
  cases negative <;> simp [withSign]

theorem withSign_sub (negative : Bool) (x s : ℚ) :
    |withSign negative x - withSign negative s| = |x - s| := by
  cases negative with
  | false => rfl
  | true =>
    rw [withSign, withSign, if_pos rfl, if_pos rfl, neg_sub_neg, abs_sub_comm]

theorem abs_withSign (negative : Bool) (x : ℚ) : |withSign negative x| = |x| := by
  cases negative with
  | false => rfl
  | true => exact abs_neg x

/-- A number of the other sign is not nearer than the one of the same size. -/
theorem withSign_sub_other (hx : 0 < x) (hs : 0 ≤ s) (n n' : Bool) :
    |x - s| ≤ |withSign n x - withSign n' s| ∧
      (|withSign n x - withSign n' s| = |x - s| → withSign n' s = withSign n s) := by
  by_cases hn : n' = n
  · rw [hn, withSign_sub]
    exact ⟨le_refl _, fun _ => rfl⟩
  · have he : |withSign n x - withSign n' s| = x + s := by
      have hp : 0 ≤ x + s := by linarith
      cases n <;> cases n' <;> simp_all [withSign]
      · rw [← neg_add', abs_neg, abs_of_nonneg hp]
    rw [he]
    refine ⟨abs_le.2 ⟨by linarith, by linarith⟩, fun ha => ?_⟩
    have hzero : s = 0 := by
      obtain h | h := abs_cases (x - s) <;> linarith
    rw [hzero, withSign_zero, withSign_zero]

theorem toNat_unpackMantissa (b : BitVec 64) :
    (@UnpackedFloat.unpackMantissa Format.binary64 b).toNat = b.toNat % leadingBit := by
  unfold UnpackedFloat.unpackMantissa
  rw [BitVec.toNat_cast, BitVec.extractLsb_toNat, Nat.shiftRight_eq_div_pow]
  simp [leadingBit]

theorem ofBitVec_unpackSign (b : BitVec 64) :
    UnpackedFloat.Sign.ofBitVec (@UnpackedFloat.unpackSign Format.binary64 b) =
      if signBit ≤ b.toNat then .negative else .positive := by
  have hb : (@UnpackedFloat.unpackSign Format.binary64 b).toNat = b.toNat / signBit := by
    unfold UnpackedFloat.unpackSign
    rw [BitVec.toNat_cast, BitVec.extractLsb_toNat, Nat.shiftRight_eq_div_pow]
    have := b.isLt
    simp [signBit]
    omega
  unfold UnpackedFloat.Sign.ofBitVec
  have := b.isLt
  by_cases h : signBit ≤ b.toNat
  · have hne : @UnpackedFloat.unpackSign Format.binary64 b ≠ 0#1 := by
      intro h0
      rw [h0] at hb
      simp [signBit] at hb h
      omega
    rw [if_neg hne, if_pos h]
  · have h0 : @UnpackedFloat.unpackSign Format.binary64 b = 0#1 := by
      refine BitVec.eq_of_toNat_eq (hb.trans ?_)
      simp [signBit] at h ⊢
      omega
    rw [if_pos h0, if_neg h]

theorem toNat_unpackExponent_eq {b : BitVec 64} {e : BitVec 11} :
    @UnpackedFloat.unpackExponent Format.binary64 b = e ↔
      b.toNat / leadingBit % 0x800 = e.toNat := by
  rw [← toNat_unpackExponent]
  exact BitVec.toNat_inj.symm

theorem toNat_leading_append (m : BitVec 52) : (1#1 ++ m).toNat = leadingBit + m.toNat := by
  rw [BitVec.toNat_append, ← Nat.shiftLeft_add_eq_or_of_lt m.isLt]
  rfl

theorem apply_sign (negative : Prop) [Decidable negative] (m : ℕ) (e : ℤ) :
    (((if negative then UnpackedFloat.Sign.negative else .positive).apply m : ℤ) : ℚ) * 2 ^ e =
      (ExactFloat.mk negative m e).value := by
  by_cases h : negative <;>
    simp [h, UnpackedFloat.Sign.apply, ExactFloat.value, ExactFloat.size, withSign]

theorem unpackedValue_finite (sign : UnpackedFloat.Sign) (m : ℕ) (e : ℤ) (hm : 0 < m) :
    unpackedValue (.finite sign m e hm) = sign.apply m * 2 ^ e := rfl

/-- A bit pattern unpacked is a number that is made of its fields. -/
theorem unpack_fields {b : BitVec 64} (h : b.toNat / leadingBit % 0x800 ≠ 2047) :
    (UnpackedFloat.unpack Format.binary64 b).isFinite = true ∧
      unpackedValue (UnpackedFloat.unpack Format.binary64 b) =
        if b.toNat / leadingBit % 0x800 = 0 then
          (ExactFloat.mk (signBit ≤ b.toNat) (b.toNat % leadingBit) (-1074)).value
        else (ExactFloat.mk (signBit ≤ b.toNat) (leadingBit + b.toNat % leadingBit)
          ((b.toNat / leadingBit % 0x800 : ℕ) - 1075)).value := by
  have hm := toNat_unpackMantissa b
  have he := toNat_unpackExponent b
  have hs := ofBitVec_unpackSign b
  unfold UnpackedFloat.unpack
  dsimp only
  rw [if_neg fun hinf => h (toNat_unpackExponent_eq.1 hinf)]
  by_cases hzero : b.toNat / leadingBit % 0x800 = 0
  · rw [if_pos (toNat_unpackExponent_eq.2 hzero), if_pos hzero]
    split
    · next hnone =>
      have hfraction : b.toNat % leadingBit = 0 := by
        rw [← hm, hnone]
        rfl
      refine ⟨rfl, ?_⟩
      rw [hfraction]
      simp [unpackedValue, ExactFloat.value, ExactFloat.size, withSign_zero]
    · refine ⟨rfl, ?_⟩
      rw [unpackedValue_finite, hs, hm, he, hzero, apply_sign]
      rfl
  · rw [if_neg fun h0 => hzero (toNat_unpackExponent_eq.1 h0), if_neg hzero]
    refine ⟨rfl, ?_⟩
    rw [unpackedValue_finite, hs, toNat_leading_append, hm, he, apply_sign]
    rfl

/-- The parts of a number are those that it is made of, and in their range. -/
theorem exact_spec (h : ExactFloat.ofFloat? v = some d) :
    v.isFinite = true ∧ valueOf v = d.value ∧ d.InRange := by
  have hlt : v.toBits.toNat % leadingBit < leadingBit := Nat.mod_lt _ (by decide)
  have hf : v.toBits.toNat / leadingBit % 0x800 < 0x800 := Nat.mod_lt _ (by decide)
  unfold ExactFloat.ofFloat? at h
  dsimp only at h
  split at h
  · cases h
  next hinf =>
  obtain ⟨hfin, hv⟩ := unpack_fields (b := v.toBits.toBitVec) hinf
  refine ⟨hfin, ?_⟩
  split at h
  · next hzero =>
    cases h
    exact ⟨hv.trans (if_pos hzero), by simp [leadingBit] at hlt ⊢; omega, by simp, by simp⟩
  · next hpos =>
    cases h
    exact ⟨hv.trans (if_neg hpos), by simp [leadingBit] at hlt ⊢; omega, by simp; omega,
      by simp; omega⟩

/-- Only bit patterns of no number are changed. -/
theorem toBits_ofBits {u : UInt64} (h : u.toNat / leadingBit % 0x800 ≠ 2047) :
    (Float.ofBits u).toBits = u := by
  have hn : @UnpackedFloat.isNaNBits Format.binary64 u.toBitVec = false := by
    unfold UnpackedFloat.isNaNBits
    refine decide_eq_false fun hnan => h (toNat_unpackExponent_eq.1 hnan.1)
  have hp := @UnpackedFloat.pack_unpack Format.binary64 u.toBitVec
  rw [hn] at hp
  exact congrArg UInt64.ofBitVec hp

variable {b : ℕ}

theorem field_signed (negative : Bool) (hb : b < infinityBits) :
    (if negative then signBit + b else b) / leadingBit % 0x800 = b / leadingBit ∧
      b / leadingBit < 2047 ∧ (if negative then signBit + b else b) < 2 ^ 64 ∧
        (if negative then signBit + b else b) % leadingBit = b % leadingBit ∧
          (signBit ≤ (if negative then signBit + b else b) ↔ negative = true) := by
  cases negative <;> simp [infinityBits, leadingBit, signBit] at hb ⊢ <;> omega

theorem toBits_floatOfBits (negative : Bool) (hb : b < infinityBits) :
    (floatOfBits negative b).toBits.toNat = if negative then signBit + b else b := by
  obtain ⟨hf, hlt, hw, -, -⟩ := field_signed negative hb
  have hu : (UInt64.ofNat (if negative then signBit + b else b)).toNat =
      if negative then signBit + b else b := by
    rw [UInt64.toNat_ofNat', Nat.mod_eq_of_lt hw]
  rw [floatOfBits, toBits_ofBits (by rw [hu, hf]; exact hlt.ne), hu]

theorem ofFloat?_floatOfBits (negative : Bool) (hb : b < infinityBits) :
    ExactFloat.ofFloat? (floatOfBits negative b) = some
      (if b / leadingBit = 0 then ⟨negative, b % leadingBit, -1074⟩
        else ⟨negative, leadingBit + b % leadingBit, (b / leadingBit : ℕ) - 1075⟩) := by
  obtain ⟨hf, hlt, -, hm, hs⟩ := field_signed negative hb
  unfold ExactFloat.ofFloat?
  dsimp only
  rw [toBits_floatOfBits negative hb, hf, hm, if_neg hlt.ne]
  simp only [hs, Bool.decide_eq_true]
  split <;> rfl

/-- A significand behind the exponent field, its leading bit being added to the field. -/
theorem valueOf_floatOfBits (negative : Bool) {j m : ℕ} (hm : m ≤ 2 ^ 53) (hj : j = 0 ∨ 2 ^ 52 ≤ m)
    (hb : j * leadingBit + m < infinityBits) :
    (floatOfBits negative (j * leadingBit + m)).isFinite = true ∧
      valueOf (floatOfBits negative (j * leadingBit + m)) =
        withSign negative (m * 2 ^ ((j : ℤ) - 1074)) := by
  obtain ⟨hfin, hv, -⟩ := exact_spec (ofFloat?_floatOfBits negative hb)
  refine ⟨hfin, hv.trans ?_⟩
  have hl : leadingBit = 2 ^ 52 := rfl
  have hpow (k : ℕ) : (2 : ℚ) ^ ((j + k : ℕ) - 1075 : ℤ) = 2 ^ k / 2 * 2 ^ ((j : ℤ) - 1074) := by
    rw [show ((j + k : ℕ) - 1075 : ℤ) = (k : ℤ) + -1 + (j - 1074) by push_cast; ring,
      zpow_add₀ two_ne_zero, zpow_add₀ two_ne_zero, zpow_natCast, zpow_neg_one]
    rfl
  obtain hlt | hge := Nat.lt_or_ge m leadingBit
  · obtain rfl : j = 0 := hj.resolve_right (by omega)
    rw [Nat.zero_mul, Nat.zero_add, Nat.div_eq_of_lt hlt, Nat.mod_eq_of_lt hlt, if_pos rfl]
    simp [ExactFloat.value, ExactFloat.size]
  · -- The leading bit is in the field, and a significand rounded up to a power of two is, too.
    obtain ⟨k, f, hk, hf, hkf⟩ : ∃ k f, (j * leadingBit + m) / leadingBit = j + (k + 1) ∧
        (j * leadingBit + m) % leadingBit = f ∧ m = (leadingBit + f) * 2 ^ k := by
      rw [hl] at hge ⊢
      obtain he | he := Nat.lt_or_ge m (2 * 2 ^ 52)
      · exact ⟨0, m - 2 ^ 52, by omega, by omega, by omega⟩
      · exact ⟨1, 0, by omega, by omega, by omega⟩
    rw [hk, hf, if_neg (by omega), ExactFloat.value, ExactFloat.size, hkf, hpow, pow_succ]
    push_cast
    ring_nf

variable {num den : ℕ}

/-- One of the two powers is one. -/
theorem zpow_eq_div (a : ℚ) (k : ℤ) : a ^ k = a ^ k.toNat / a ^ (-k).toNat := by
  obtain ⟨n, rfl | rfl⟩ := k.eq_nat_or_neg <;> simp

theorem two_zpow_le_ratio (hd : 0 < den) (k : ℤ) :
    den * Nat.pow 2 k.toNat ≤ num * Nat.pow 2 (-k).toNat ↔ (2 : ℚ) ^ k ≤ num / den := by
  have hden : (0 : ℚ) < den := Nat.cast_pos.2 hd
  rw [zpow_eq_div, div_le_div_iff₀ (by positivity) hden, mul_comm den]
  exact_mod_cast Iff.rfl

theorem log2_bounds (hn : num ≠ 0) (hd : den ≠ 0) :
    (2 : ℚ) ^ (num.log2 - den.log2 - 1 : ℤ) < num / den ∧
      (num / den : ℚ) < 2 ^ (num.log2 - den.log2 + 1 : ℤ) := by
  have hden : (0 : ℚ) < den := Nat.cast_pos.2 (Nat.pos_of_ne_zero hd)
  have hnl : (2 ^ num.log2 : ℚ) ≤ num := by exact_mod_cast Nat.log2_self_le hn
  have hnu : (num : ℚ) < 2 ^ (num.log2 + 1) := by exact_mod_cast Nat.lt_log2_self
  have hdl : (2 ^ den.log2 : ℚ) ≤ den := by exact_mod_cast Nat.log2_self_le hd
  have hdu : (den : ℚ) < 2 ^ (den.log2 + 1) := by exact_mod_cast Nat.lt_log2_self
  have hlow : (2 : ℚ) ^ (num.log2 - den.log2 - 1 : ℤ) = 2 ^ num.log2 / 2 ^ (den.log2 + 1) := by
    rw [sub_sub, zpow_sub₀ two_ne_zero]
    norm_cast
  have hhigh : (2 : ℚ) ^ (num.log2 - den.log2 + 1 : ℤ) = 2 ^ (num.log2 + 1) / 2 ^ den.log2 := by
    rw [sub_add_eq_add_sub, zpow_sub₀ two_ne_zero]
    norm_cast
  rw [hlow, hhigh]
  exact ⟨div_lt_div₀' hnl hdu (by positivity) hden,
    div_lt_div₀ hnu hdl (by positivity) (by positivity)⟩

/-- A ratio has at most 53 bits in front of the last one that is kept, and just as many unless this
is the last bit of all. -/
theorem lastBit_spec (hn : num ≠ 0) (hd : den ≠ 0) :
    -1074 ≤ lastBit num den ∧ (num / den : ℚ) < 2 ^ 53 * 2 ^ lastBit num den ∧
      (lastBit num den = -1074 ∨ (2 ^ 52 * 2 ^ lastBit num den : ℚ) ≤ num / den) := by
  obtain ⟨hlow, hhigh⟩ := log2_bounds hn hd
  obtain ⟨k, hk, hl, hu⟩ : ∃ k : ℤ, lastBit num den = max (k - 52) (-1074) ∧
      (2 : ℚ) ^ k ≤ num / den ∧ (num / den : ℚ) < 2 ^ (k + 1) := by
    unfold lastBit
    dsimp only
    split
    · next h =>
      exact ⟨_, rfl, (two_zpow_le_ratio (Nat.pos_of_ne_zero hd) _).1 h, hhigh⟩
    · next h =>
      rw [two_zpow_le_ratio (Nat.pos_of_ne_zero hd), not_le] at h
      exact ⟨_, rfl, hlow.le, by rwa [sub_add_cancel]⟩
  have h53 : (2 : ℚ) ^ 53 * 2 ^ lastBit num den = 2 ^ (lastBit num den + 53) := by
    rw [zpow_add₀ two_ne_zero, mul_comm]
    rfl
  have h52 : (2 : ℚ) ^ 52 * 2 ^ lastBit num den = 2 ^ (lastBit num den + 52) := by
    rw [zpow_add₀ two_ne_zero, mul_comm]
    rfl
  rw [h53, h52, hk]
  refine ⟨le_max_right _ _, hu.trans_le (zpow_le_zpow_right₀ one_le_two (by omega)), ?_⟩
  obtain h | h := le_total (k - 52) (-1074)
  · exact .inl (max_eq_right h)
  · right
    rw [max_eq_left h, sub_add_cancel]
    exact hl

/-- The greatest value. -/
def largest : ℚ := (2 ^ 53 - 1 : ℕ) * 2 ^ (971 : ℤ)

variable {q : ℤ} {m : ℕ}

/-- A number is a multiple of a bit, or it is smaller than those with this bit as their last. -/
theorem ExactFloat.InRange.multiple (hd : d.InRange) (q : ℤ) :
    (∃ k : ℤ, d.size = k * 2 ^ q) ∨ q ≠ -1074 ∧ d.size < 2 ^ 52 * 2 ^ q := by
  by_cases h : q ≤ d.exponent
  · left
    obtain ⟨n, hn⟩ := Int.le.dest h
    refine ⟨d.mantissa * 2 ^ n, ?_⟩
    rw [ExactFloat.size, ← hn, zpow_add₀ two_ne_zero, zpow_natCast]
    push_cast
    ring
  · right
    have hge := hd.exponent_ge
    refine ⟨by omega, ?_⟩
    have hm : (d.mantissa : ℚ) < 2 ^ 53 := by exact_mod_cast hd.mantissa
    calc d.size < 2 ^ 53 * 2 ^ d.exponent := by
          rw [ExactFloat.size]
          exact mul_lt_mul_of_pos_right hm (by positivity)
      _ ≤ 2 ^ 53 * 2 ^ (q - 1) :=
          mul_le_mul_of_nonneg_left (zpow_le_zpow_right₀ one_le_two (by omega)) (by positivity)
      _ = 2 ^ 52 * 2 ^ q := by
          rw [zpow_sub_one₀ two_ne_zero]
          ring

/-- Rounded at its last bit, a value is rounded to the nearest size. -/
theorem size_nearest (hx : q = -1074 ∨ 2 ^ 52 * 2 ^ q ≤ x) (hm : RoundsTo (x / 2 ^ q) m)
    (hd : d.InRange) : |x - m * 2 ^ q| ≤ |x - d.size| ∧
      (|x - d.size| = |x - m * 2 ^ q| → d.size = m * 2 ^ q ∨ m % 2 = 0) := by
  have hpos : (0 : ℚ) < 2 ^ q := by positivity
  have hscale (k : ℤ) : |x - k * 2 ^ q| = |x / 2 ^ q - k| * 2 ^ q := by
    rw [← abs_of_pos hpos, ← abs_mul, abs_of_pos hpos, sub_mul, div_mul_cancel₀ _ hpos.ne']
  have hscale' : |x - m * 2 ^ q| = |x / 2 ^ q - m| * 2 ^ q := hscale m
  -- The other number is a multiple of the same bit, or too small to come near.
  obtain ⟨k, hk⟩ | ⟨hq, hlt⟩ := hd.multiple q
  · rw [hk, hscale, hscale']
    refine ⟨mul_le_mul_of_nonneg_right (hm.nearest k) hpos.le, fun he => ?_⟩
    obtain rfl | hm := hm.tie (mul_right_cancel₀ hpos.ne' he)
    · exact .inl rfl
    · exact .inr hm
  · have hge : (2 ^ 52 * 2 ^ q : ℚ) ≤ x := hx.resolve_left hq
    have hbound : |x - m * 2 ^ q| ≤ x - 2 ^ 52 * 2 ^ q :=
      calc |x - m * 2 ^ q| = |x / 2 ^ q - m| * 2 ^ q := hscale'
        _ ≤ |x / 2 ^ q - (2 ^ 52 : ℤ)| * 2 ^ q :=
          mul_le_mul_of_nonneg_right (hm.nearest (2 ^ 52)) hpos.le
        _ = |x - (2 ^ 52 : ℤ) * 2 ^ q| := (hscale _).symm
        _ = x - 2 ^ 52 * 2 ^ q := by
          rw [Int.cast_pow, Int.cast_ofNat]
          exact abs_of_nonneg (by linarith)
    have hsize : |x - d.size| = x - d.size := abs_of_nonneg (by linarith)
    rw [hsize]
    exact ⟨by linarith, fun he => by linarith⟩

/-- The last bit of a ratio that is not beyond the greatest number is one of those that there
are. -/
theorem lastBit_le (hn : num ≠ 0) (hd : den ≠ 0) (hmax : (num / den : ℚ) ≤ largest) :
    lastBit num den ≤ 971 := by
  obtain ⟨-, -, hge⟩ := lastBit_spec hn hd
  by_contra hq
  have hx := hge.resolve_left (by omega)
  have hstep : (2 ^ 52 * 2 ^ (971 + 1 : ℤ) : ℚ) ≤ 2 ^ 52 * 2 ^ lastBit num den :=
    mul_le_mul_of_nonneg_left (zpow_le_zpow_right₀ one_le_two (by omega)) (by positivity)
  have hbeyond := hstep.trans (hx.trans hmax)
  rw [zpow_add_one₀ two_ne_zero, largest] at hbeyond
  have hp : (0 : ℚ) < 2 ^ (971 : ℤ) := by positivity
  have hm : ((2 ^ 53 - 1 : ℕ) : ℚ) < 2 ^ 53 := by norm_num
  generalize (2 : ℚ) ^ (971 : ℤ) = p at hbeyond hp
  have := mul_lt_mul_of_pos_right hm hp
  linarith

theorem ratio_div_zpow (num den : ℕ) (q : ℤ) :
    ((num * Nat.pow 2 (-q).toNat : ℕ) / (den * Nat.pow 2 q.toNat : ℕ) : ℚ) =
      num / den / 2 ^ q := by
  rw [zpow_eq_div, div_div, ← mul_div_assoc, div_div_eq_mul_div]
  exact_mod_cast rfl

/-- A ratio that is not beyond the greatest number, rounded at its last bit. -/
theorem nearestBits_spec (hn : num ≠ 0) (hd : den ≠ 0) (hmax : (num / den : ℚ) ≤ largest) :
    ∃ j m : ℕ, nearestBits num den = j * leadingBit + m ∧ m ≤ 2 ^ 53 ∧ (j = 0 ∨ 2 ^ 52 ≤ m) ∧
      j * leadingBit + m < infinityBits ∧ RoundsTo (num / den / 2 ^ ((j : ℤ) - 1074)) m ∧
        ((j : ℤ) - 1074 = -1074 ∨ (2 ^ 52 * 2 ^ ((j : ℤ) - 1074) : ℚ) ≤ num / den) := by
  obtain ⟨hq, hlt, hge⟩ := lastBit_spec hn hd
  have hq971 := lastBit_le hn hd hmax
  unfold nearestBits
  dsimp only
  rw [if_neg hn]
  generalize lastBit num den = q at hq hlt hge hq971 ⊢
  have hpos : (0 : ℚ) < 2 ^ q := by positivity
  have hj : ((q + 1074).toNat : ℤ) - 1074 = q := by omega
  have hdpos : 0 < den * Nat.pow 2 q.toNat :=
    Nat.mul_pos (Nat.pos_of_ne_zero hd) (Nat.pow_pos Nat.two_pos)
  have hr := roundsTo_roundHalfEven (num * Nat.pow 2 (-q).toNat) hdpos
  rw [ratio_div_zpow] at hr
  generalize roundHalfEven (num * Nat.pow 2 (-q).toNat) (den * Nat.pow 2 q.toNat) = m at hr ⊢
  have hle : m ≤ 2 ^ 53 := hr.le_of_le (by
    rw [div_le_iff₀ hpos]
    exact_mod_cast hlt.le)
  have hfull : q = -1074 ∨ 2 ^ 52 ≤ m := hge.imp_right fun h => hr.ge_of_ge (by
    rw [le_div_iff₀ hpos]
    exact_mod_cast h)
  have hbits : (q + 1074).toNat * leadingBit + m < infinityBits := by
    have hl : leadingBit = 2 ^ 52 ∧ infinityBits = 2047 * 2 ^ 52 := ⟨rfl, rfl⟩
    rw [hl.1, hl.2]
    -- At the greatest exponent a carry into the next would be infinity, so the bound decides.
    by_cases he : q = 971
    · have hm : m ≤ 2 ^ 53 - 1 := hr.le_of_le (by
        rw [div_le_iff₀ hpos, he]
        exact hmax)
      omega
    · omega
  refine ⟨(q + 1074).toNat, m, min_eq_left hbits.le, hle, hfull.imp_left fun h => by omega, hbits,
    by rwa [hj], by rwa [hj]⟩

/-- Every finite number is a candidate. -/
theorem exists_inRange {u : Float} (h : u.isFinite = true) :
    ∃ d : ExactFloat, valueOf u = withSign d.negative d.size ∧ d.InRange := by
  obtain ⟨d, hd⟩ := exists_exactFloat h
  obtain ⟨-, hv, hr⟩ := exact_spec hd
  exact ⟨d, hv, hr⟩

theorem isNearest_zero (negative : Bool) : IsNearest 0 (floatOfBits negative 0) := by
  obtain ⟨hfin, hv⟩ :=
    valueOf_floatOfBits negative (j := 0) (m := 0) (by decide) (.inl rfl) (by decide)
  have hzero : valueOf (floatOfBits negative 0) = 0 :=
    hv.trans (by rw [Nat.cast_zero, zero_mul, withSign_zero])
  refine ⟨hfin, fun u _ => ?_, fun u _ he => .inl ?_⟩
  · rw [hzero, sub_zero, abs_zero]
    exact abs_nonneg _
  · rw [hzero] at he ⊢
    simpa using he

/-- The number made for a ratio is nearest to it, unless it is beyond the greatest. -/
theorem isNearest_nearest (negative : Bool) (hd : den ≠ 0) (hmax : (num / den : ℚ) ≤ largest) :
    IsNearest (withSign negative (num / den)) (nearest negative num den) := by
  by_cases hn : num = 0
  · rw [nearest, nearestBits, if_pos hn, hn, Nat.cast_zero, zero_div, withSign_zero]
    exact isNearest_zero negative
  obtain ⟨j, m, hbits, hm, hj, hlt, hr, hge⟩ := nearestBits_spec hn hd hmax
  rw [nearest, hbits]
  obtain ⟨hfin, hv⟩ := valueOf_floatOfBits negative hm hj hlt
  have hx : (0 : ℚ) < num / den :=
    div_pos (Nat.cast_pos.2 (Nat.pos_of_ne_zero hn)) (Nat.cast_pos.2 (Nat.pos_of_ne_zero hd))
  refine ⟨hfin, fun u hu => ?_, fun u hu he => ?_⟩
  · obtain ⟨d, hud, hd⟩ := exists_inRange hu
    rw [hv, hud, withSign_sub]
    exact (size_nearest hge hr hd).1.trans (withSign_sub_other hx d.size_nonneg _ _).1
  · obtain ⟨d, hud, hd⟩ := exists_inRange hu
    obtain ⟨hnear, htie⟩ := size_nearest hge hr hd
    obtain ⟨hother, hsame⟩ := withSign_sub_other hx d.size_nonneg negative d.negative
    rw [hv, hud, withSign_sub] at he
    have hdist : |(num / den : ℚ) - d.size| = |(num / den : ℚ) - m * 2 ^ ((j : ℤ) - 1074)| :=
      le_antisymm (he ▸ hother) hnear
    rw [hv, hud, hsame (he.trans hdist.symm)]
    obtain hs | hs := htie hdist
    · exact .inl (congrArg _ hs)
    · right
      rw [toBits_floatOfBits negative hlt]
      have hl : leadingBit = 2 ^ 52 ∧ signBit = 2 ^ 63 := ⟨rfl, rfl⟩
      rw [hl.1, hl.2]
      split <;> omega

/-- A decimal number that is not settled by its exponent is read as the nearest binary64. -/
theorem isNearest_toFloat (d : Decimal) (hlow : -330 ≤ d.exponent) (hhigh : d.exponent ≤ 400)
    (hmax : (d.digits * 10 ^ d.exponent : ℚ) ≤ largest) :
    IsNearest (withSign d.negative (d.digits * 10 ^ d.exponent)) d.toFloat := by
  unfold Decimal.toFloat
  by_cases hz : d.digits = 0
  · rw [if_pos hz, hz, Nat.cast_zero, zero_mul, withSign_zero]
    exact isNearest_zero d.negative
  rw [if_neg hz, if_neg (by omega), if_neg (by omega)]
  have hratio : (d.digits * 10 ^ d.exponent : ℚ) =
      (d.digits * Nat.pow 10 d.exponent.toNat : ℕ) / (Nat.pow 10 (-d.exponent).toNat : ℕ) := by
    rw [zpow_eq_div, ← mul_div_assoc]
    exact_mod_cast rfl
  rw [hratio] at hmax ⊢
  exact isNearest_nearest d.negative (Nat.pow_pos (by decide)).ne' hmax

theorem ExactFloat.size_eq (d : ExactFloat) : d.size = d.num / d.den := by
  rw [size, zpow_eq_div, ← mul_div_assoc, num, den]
  exact_mod_cast rfl

theorem ExactFloat.den_pos (d : ExactFloat) : 0 < d.den := Nat.pow_pos Nat.two_pos

theorem ExactFloat.InRange.size_le (h : d.InRange) : d.size ≤ largest := by
  have hm : d.mantissa ≤ 2 ^ 53 - 1 := Nat.le_sub_one_of_lt h.mantissa
  unfold ExactFloat.size largest
  gcongr
  · exact one_le_two
  · exact h.exponent_le

theorem largest_eq : largest = ((2 ^ 53 - 1) * 2 ^ 971 : ℕ) := by
  rw [largest, Nat.cast_mul, Nat.cast_pow, Nat.cast_ofNat]
  rfl

theorem pow_308_le_largest : (10 : ℚ) ^ 308 ≤ largest := by
  have h : 10 ^ 308 ≤ (2 ^ 53 - 1) * 2 ^ 971 := by decide +kernel
  rw [largest_eq]
  exact_mod_cast h

/-- Rounded to seven digits the greatest number is rounded down. -/
theorem rounded_largest : (1797693 : ℚ) * 10 ^ 302 ≤ largest ∧
    2 * largest < (3595387 : ℚ) * 10 ^ 302 := by
  have hle : 1797693 * 10 ^ 302 ≤ (2 ^ 53 - 1) * 2 ^ 971 := by decide +kernel
  have hlt : 2 * ((2 ^ 53 - 1) * 2 ^ 971) < 3595387 * 10 ^ 302 := by decide +kernel
  rw [largest_eq]
  exact ⟨by exact_mod_cast hle, by exact_mod_cast hlt⟩

end CovertVault.Number
