import CovertVault.Proofs.Number.Nearest

namespace CovertVault.Number
open Float.Model UnpackedFloat

/-- A number that has an exponent field. -/
inductive Packable : UnpackedFloat → Prop
  | zero (s : Sign) : Packable (.zero s)
  | finite (s : Sign) {m : ℕ} {e : ℤ} (hm : 0 < m) : e ≤ 971 → Packable (.finite s m e hm)

theorem Packable.isFinite_pack {f : UnpackedFloat} (h : Packable f) :
    (Float.ofModel (Float.Model.pack f)).isFinite = true := by
  refine (unpack_fields (b := UnpackedFloat.pack Format.binary64 f) ?_).1
  rw [← toNat_unpackExponent]
  cases h with
  | zero s =>
    rw [UnpackedFloat.pack, packedZero, unpackExponent_packComponents]
    decide
  | @finite s m e hm he =>
    have hb : ¬ 2 ^ Format.binary64.exponentBits ≤ (e + Format.binary64.exponentBias +
        Format.binary64.mantissaBitsWithoutImplicit).toNat + 1 := by
      simp [Format.exponentBias]
      omega
    rw [UnpackedFloat.pack]
    dsimp only
    rw [if_neg hb]
    split
    · rw [unpackExponent_packComponents, BitVec.toNat_ofNat]
      simp [Format.exponentBias]
      omega
    · rw [unpackExponent_packComponents]
      decide

/-- A finite number taken apart. -/
inductive Unpacked : UnpackedFloat → Prop
  | zero (s : Sign) : Unpacked (.zero s)
  | finite (s : Sign) {m : ℕ} {e : ℤ} (hm : 0 < m) : m < 2 ^ 53 → -1074 ≤ e → e ≤ 971 →
      Unpacked (.finite s m e hm)

theorem unpacked_of_isFinite {v : Float} (h : v.isFinite = true) : Unpacked v.toModel.unpack := by
  have hf : v.toBits.toNat / leadingBit % 0x800 ≠ 2047 := fun hf => by
    rw [isFinite_eq_false hf] at h
    cases h
  have hlt : v.toBits.toNat / leadingBit % 0x800 < 0x800 := Nat.mod_lt _ (by decide)
  show Unpacked (UnpackedFloat.unpack Format.binary64 v.toBits.toBitVec)
  rw [← UInt64.toNat_toBitVec, ← toNat_unpackExponent] at hf hlt
  unfold UnpackedFloat.unpack
  dsimp only
  rw [if_neg fun hinf => hf (by rw [hinf]; rfl)]
  have hm := (@unpackMantissa Format.binary64 v.toBits.toBitVec).isLt
  split
  · next hzero =>
    split
    · exact .zero _
    · refine .finite _ _ (hm.trans (by decide)) ?_ ?_ <;> rw [hzero] <;> decide
  · next hpos =>
    have hne := fun h0 => hpos (BitVec.eq_of_toNat_eq h0)
    simp only [Format.exponentBias] at hne ⊢
    refine .finite _ _ ?_ ?_ ?_
    · rw [toNat_leading_append]
      simp [leadingBit] at hm ⊢
      omega
    · simp at hne ⊢
      omega
    · simp at hne ⊢
      omega

theorem mantissa_shiftRight (em : ExtendedMantissa) (n : ℕ) :
    (em >>> n).mantissa = em.mantissa / 2 ^ n := by
  show (n.repeat ExtendedMantissa.shiftRightOne em).mantissa = _
  induction n with
  | zero => simp [Nat.repeat]
  | succ n ih =>
    rw [Nat.repeat, ExtendedMantissa.shiftRightOne, ih, Nat.div_div_eq_div_mul, Nat.pow_succ]

theorem roundedMantissa_le (em : ExtendedMantissa) : em.roundedMantissa ≤ em.mantissa + 1 := by
  obtain ⟨m, r, s⟩ := em
  unfold ExtendedMantissa.roundedMantissa
  cases r <;> cases s <;>
    simp only [ExtendedMantissa.accuracy, Accuracy.roundToNearestEven] <;> omega

theorem mantissa_ofMantissaAndAccuracy (m : ℕ) (a : Accuracy) :
    (ExtendedMantissa.ofMantissaAndAccuracy m a).mantissa = m := by
  cases a with
  | exact => rfl
  | inexact o => cases o <;> rfl

theorem log2_le_of_lt {m k : ℕ} (h : m < 2 ^ (k + 1)) : m.log2 ≤ k := by
  by_cases hm : m = 0
  · simp [hm]
  · exact Nat.le_of_lt_succ ((Nat.log2_lt hm).2 h)

/-- What is left of a mantissa has at most 53 bits, and its exponent is only raised to that end. -/
theorem shiftToTargetExponent_spec (m : ℕ) (e : ℤ) (a : Accuracy) :
    (shiftToTargetExponent Format.binary64 m e a).1.mantissa < 2 ^ 53 ∧
      (shiftToTargetExponent Format.binary64 m e a).2 =
        max e (max (totalExponent m e - 53) (-1074)) := by
  have ht : Format.binary64.targetExponent (totalExponent m e) =
      max (totalExponent m e - 53) (-1074) := rfl
  unfold shiftToTargetExponent shiftToExponent
  dsimp only
  rw [ht, mantissa_shiftRight, mantissa_ofMantissaAndAccuracy]
  constructor
  · rw [Nat.div_lt_iff_lt_mul (Nat.two_pow_pos _), ← pow_add]
    refine Nat.lt_log2_self.trans_le (Nat.pow_le_pow_right Nat.two_pos ?_)
    unfold totalExponent
    omega
  · omega

/-- Rounding carries into a new bit at most. -/
theorem packable_roundWithAccuracy (s : Sign) {m : ℕ} {e : ℤ} (a : Accuracy)
    (ht : totalExponent m e ≤ 1023) (he : e ≤ 970) :
    Packable (roundWithAccuracy Format.binary64 s m e a) := by
  obtain ⟨hm, hx⟩ := shiftToTargetExponent_spec m e a
  unfold roundWithAccuracy
  generalize shiftToTargetExponent Format.binary64 m e a = shifted at hm hx
  obtain ⟨em, e₁⟩ := shifted
  dsimp only at hm hx ⊢
  have hr : em.roundedMantissa.log2 ≤ 53 := log2_le_of_lt (by
    have := roundedMantissa_le em
    omega)
  obtain ⟨-, hy⟩ := shiftToTargetExponent_spec em.roundedMantissa e₁ .exact
  generalize shiftToTargetExponent Format.binary64 em.roundedMantissa e₁ .exact = final at hy
  obtain ⟨em₂, e₂⟩ := final
  dsimp only at hy ⊢
  split
  · exact .zero _
  · refine .finite _ _ ?_
    unfold totalExponent at hy
    omega

theorem log2_mono {a b : ℕ} (h : a ≤ b) : a.log2 ≤ b.log2 :=
  log2_le_of_lt (h.trans_lt Nat.lt_log2_self)

theorem log2_shiftLeft_le (a s : ℕ) : (a <<< s).log2 ≤ a.log2 + s := by
  refine log2_le_of_lt ?_
  rw [Nat.shiftLeft_eq, Nat.add_right_comm, pow_add]
  exact Nat.mul_lt_mul_of_pos_right Nat.lt_log2_self (Nat.two_pow_pos s)

theorem log2_div_le {a c k : ℕ} (hc : 2 ^ k ≤ c) : (a / c).log2 ≤ a.log2 - k := by
  refine log2_le_of_lt ((Nat.div_lt_iff_lt_mul ((Nat.two_pow_pos k).trans_le hc)).2 ?_)
  calc a < 2 ^ (a.log2 + 1) := Nat.lt_log2_self
    _ ≤ 2 ^ (a.log2 - k + 1) * 2 ^ k := by
        rw [← pow_add]
        exact Nat.pow_le_pow_right Nat.two_pos (by omega)
    _ ≤ 2 ^ (a.log2 - k + 1) * c := Nat.mul_le_mul_left _ hc

/-- A hundredth of a finite number is finite. -/
theorem isFinite_div_hundred {v : Float} (h : v.isFinite = true) :
    (v / 100.0).isFinite = true := by
  have h100 : (100.0 : Float).toModel.unpack =
      .finite .positive (25 * 2 ^ 48) (-46) (by decide) := rfl
  refine Packable.isFinite_pack (f := UnpackedFloat.div Format.binary64 v.toModel.unpack
    (100.0 : Float).toModel.unpack) ?_
  have hu := unpacked_of_isFinite h
  rw [h100]
  generalize v.toModel.unpack = f at hu
  cases hu with
  | zero s => exact .zero _
  | @finite s m e hm hlt hlow hhigh =>
    have hlog : m.log2 ≤ 52 := log2_le_of_lt hlt
    have htwo : (25 * 2 ^ 48 : ℕ).log2 = 52 := by decide +kernel
    have ht : Format.binary64.targetExponent
        (totalExponent m e - totalExponent (25 * 2 ^ 48) (-46)) ≤ 964 := by
      show max (totalExponent m e - totalExponent (25 * 2 ^ 48) (-46) - 53) (-1074) ≤ 964
      unfold totalExponent
      omega
    refine packable_roundWithAccuracy _ _ ?_ ((min_le_right _ _).trans (ht.trans (by decide)))
    generalize Format.binary64.targetExponent _ = t at ht ⊢
    have hq := (log2_div_le (a := m <<< (e - -46 - min (e - -46) t).toNat)
      (show 2 ^ 52 ≤ 25 * 2 ^ 48 by decide)).trans
        (Nat.sub_le_sub_right (log2_shiftLeft_le _ _) 52)
    show totalExponent (m <<< (e - -46 - min (e - -46) t).toNat / (25 * 2 ^ 48))
      (min (e - -46) t) ≤ 1023
    unfold totalExponent
    omega

/-- The exponent of a root: half the one of what it is the root of, or less where 53 bits are not
had otherwise. -/
def rootExponent (m : ℕ) (e : ℤ) : ℤ :=
  min (e / 2) (max ((totalExponent m e + 1) / 2 - 53) (-1074))

/-- So is the root of one that is not negative. -/
theorem isFinite_sqrt {v : Float} (h : v.isFinite = true) (hv : 0 ≤ valueOf v) :
    v.sqrt.isFinite = true := by
  refine Packable.isFinite_pack (f := UnpackedFloat.sqrt Format.binary64 v.toModel.unpack) ?_
  unfold valueOf at hv
  have hu := unpacked_of_isFinite h
  generalize v.toModel.unpack = f at hu hv
  cases hu with
  | zero s => exact .zero _
  | @finite s m e hm hlt hlow hhigh =>
    cases s with
    | negative =>
      have hpos : (0 : ℚ) < m * 2 ^ e := by positivity
      simp only [unpackedValue, Sign.apply, Int.cast_neg, Int.cast_natCast, neg_mul] at hv
      linarith
    | positive =>
      have hlog : m.log2 ≤ 52 := log2_le_of_lt hlt
      have ht : rootExponent m e ≤ e / 2 ∧ rootExponent m e ≤ 970 ∧
          totalExponent m e - rootExponent m e ≤ 1023 := by
        unfold rootExponent totalExponent
        omega
      have hr := (log2_mono (Nat.sqrt_le_self _)).trans
        (log2_shiftLeft_le m (e - 2 * rootExponent m e).toNat)
      refine packable_roundWithAccuracy _ _ ?_ ht.2.1
      show totalExponent (m <<< (e - 2 * rootExponent m e).toNat).sqrt (rootExponent m e) ≤ 1023
      unfold totalExponent at ht ⊢
      omega

/-- Less than zero is what has a value less than zero. -/
theorem lt_zero_iff {v : Float} (h : v.isFinite = true) : v < 0.0 ↔ valueOf v < 0 := by
  have hzero : (0.0 : Float).toModel.unpack = .zero .positive := rfl
  have hlt : v < 0.0 ↔ v.toModel.unpack.compare (.zero .positive) = some .lt := by
    rw [← hzero]
    show decide (v.toModel < (0.0 : Float).toModel) = true ↔ _
    rw [decide_eq_true_iff]
    exact beq_iff_eq
  rw [hlt]
  unfold valueOf
  have hu := unpacked_of_isFinite h
  generalize v.toModel.unpack = f at hu
  cases hu with
  | zero s => simp [UnpackedFloat.compare, unpackedValue]
  | @finite s m e hm _ _ _ =>
    have hpos : (0 : ℚ) < m * 2 ^ e := by positivity
    cases s with
    | negative => simpa [UnpackedFloat.compare, unpackedValue, Sign.apply] using hpos
    | positive => simpa [UnpackedFloat.compare, unpackedValue, Sign.apply] using hpos.le

end CovertVault.Number
