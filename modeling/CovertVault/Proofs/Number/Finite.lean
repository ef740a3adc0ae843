import CovertVault.Number.Binary64

namespace CovertVault.Number
open Float.Model

/-- The exponent field of a bit pattern. -/
theorem toNat_unpackExponent (b : BitVec 64) :
    (@UnpackedFloat.unpackExponent Format.binary64 b).toNat =
      b.toNat / leadingBit % 0x800 := by
  unfold UnpackedFloat.unpackExponent
  rw [BitVec.toNat_cast, BitVec.extractLsb_toNat, Nat.shiftRight_eq_div_pow]
  rfl

/-- The greatest exponent field belongs to what is not finite. -/
theorem isFinite_eq_false {v : Float} (h : v.toBits.toNat / leadingBit % 0x800 = 2047) :
    v.isFinite = false := by
  have he : @UnpackedFloat.unpackExponent Format.binary64 v.toBits.toBitVec = -1#11 :=
    BitVec.eq_of_toNat_eq ((toNat_unpackExponent _).trans h)
  show (UnpackedFloat.unpack Format.binary64 v.toBits.toBitVec).isFinite = false
  unfold UnpackedFloat.unpack
  dsimp only
  rw [if_pos he]
  split <;> rfl

theorem exists_exactFloat {v : Float} (h : v.isFinite = true) :
    ∃ d, ExactFloat.ofFloat? v = some d := by
  by_cases hf : v.toBits.toNat / leadingBit % 0x800 = 2047
  · rw [isFinite_eq_false hf] at h
    cases h
  · unfold ExactFloat.ofFloat?
    dsimp only
    rw [if_neg hf]
    split
    · exact ⟨_, rfl⟩
    · exact ⟨_, rfl⟩

end CovertVault.Number
