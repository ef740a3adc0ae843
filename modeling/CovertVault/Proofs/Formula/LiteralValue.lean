import CovertVault.Proofs.Formula.NumberPattern

namespace CovertVault.Formula
open Number Text

variable {s ds fs x : List Char}

theorem decimalValue_append (ds fs : List Char) : decimalValue (ds ++ fs) =
    fs.foldl (fun n c => 10 * n + (digitValue? c).getD 0) (decimalValue ds) :=
  List.foldl_append

theorem literalDecimal_signed (negative : Bool) (h : IsNumber s) :
    literalDecimal (signText negative ++ s) = unsignedValue negative s := by
  cases negative with
  | true => rfl
  | false =>
    have hm : s.head? ≠ some '-' := h.head_ne (by simp)
    show literalDecimal s = _
    unfold literalDecimal
    split
    · exact absurd rfl hm
    · rfl

/-- Digits without a point, and what of the literal is behind them. -/
theorem unsignedValue_digits (negative : Bool) (hd : ∀ c ∈ ds, isDecimal c = true)
    (hx : NoDigitNext x) (hp : x.head? ≠ some '.') :
    unsignedValue negative (ds ++ x) = ⟨negative, decimalValue ds, exponentValue x⟩ := by
  unfold unsignedValue
  rw [digitsOf_append hd hx, afterDigits_append hd hx]
  dsimp only
  split
  · exact absurd rfl hp
  · rfl

/-- Digits with a point among them, and what of the literal is behind them. -/
theorem unsignedValue_point (negative : Bool) (hd : ∀ c ∈ ds, isDecimal c = true)
    (hf : ∀ c ∈ fs, isDecimal c = true) (hx : NoDigitNext x) :
    unsignedValue negative (ds ++ '.' :: (fs ++ x)) =
      ⟨negative, decimalValue (ds ++ fs), exponentValue x - fs.length⟩ := by
  unfold unsignedValue
  rw [digitsOf_append hd (noDigitNext_point _), afterDigits_append hd (noDigitNext_point _)]
  show (⟨negative, decimalValue (ds ++ digitsOf (fs ++ x)),
    exponentValue (afterDigits (fs ++ x)) - (digitsOf (fs ++ x)).length⟩ : Decimal) = _
  rw [digitsOf_append hf hx, afterDigits_append hf hx]

theorem unsignedValue_whole (negative : Bool) (hd : ∀ c ∈ ds, isDecimal c = true) :
    unsignedValue negative ds = ⟨negative, decimalValue ds, 0⟩ := by
  have h := unsignedValue_digits negative hd (x := []) (by simp [NoDigitNext]) (by simp)
  rwa [List.append_nil] at h

theorem unsignedValue_pointed (negative : Bool) (hd : ∀ c ∈ ds, isDecimal c = true)
    (hf : ∀ c ∈ fs, isDecimal c = true) :
    unsignedValue negative (ds ++ '.' :: fs) =
      ⟨negative, decimalValue (ds ++ fs), 0 - (fs.length : Int)⟩ := by
  have h := unsignedValue_point negative hd hf (x := []) (by simp [NoDigitNext])
  rwa [List.append_nil] at h

end CovertVault.Formula
