import CovertVault.Proofs.Keypad.Chaining

namespace CovertVault

namespace Formula
open Number Text

variable {d : ExactFloat} {v : Float} {n n' : DecimalText}

/-- The text writes a decimal number with this value. -/
def Denotes (t : List Char) (x : ℚ) : Prop :=
  ∃ n : DecimalText, n.WellFormed ∧ n.text = t ∧ n.value = x

/-- A text does not write two values. -/
theorem DecimalText.value_eq (h : n.WellFormed) (h' : n'.WellFormed) (he : n.text = n'.text) :
    n.value = n'.value := by
  have hd := h.literalDecimal_text
  rw [he, h'.literalDecimal_text, Decimal.mk.injEq] at hd
  obtain ⟨hs, hw, hx⟩ := hd
  rw [value, value, size, size, hs, hw, hx]

theorem floor_eq_zero (h : d.size < 1) : d.num / d.den = 0 := by
  have hden : (0 : ℚ) < d.den := Nat.cast_pos.2 d.den_pos
  rw [d.size_eq, div_lt_one hden, Nat.cast_lt] at h
  exact Nat.div_eq_of_lt h

/-- Of the numbers below one, zero alone is a whole one. -/
theorem isWhole_iff_of_lt_one (h : d.size < 1) : d.isWhole = true ↔ d.size = 0 := by
  constructor
  · intro hw
    rw [size_of_isWhole hw, floor_eq_zero h, Nat.cast_zero]
  · intro hz
    exact isWhole_of_size (k := 0) (by rw [hz, Int.cast_zero])

theorem stripZeros_of_small (h : d.size ≤ 5 / 10 ^ 11) :
    stripZeros (fixedText 10 d) = signText d.negative ++ ['0'] := by
  have hhalf : d.size * 10 ^ 10 ≤ 1 / 2 := by
    calc d.size * 10 ^ 10 ≤ 5 / 10 ^ 11 * 10 ^ 10 := by gcongr
      _ = 1 / 2 := by norm_num
  rw [fixedText, (roundsTo_fixed 10 d).eq_zero_of_le_half hhalf]
  cases d.negative <;> decide

/-- A zero loses its sign as a whole number, and a number below zero keeps it. -/
theorem exactText_of_small (h : d.size ≤ 5 / 10 ^ 11) :
    exactText d = signText (d.negative && d.size ≠ 0) ++ ['0'] := by
  have hlt : d.size < 1 := h.trans_lt (by norm_num)
  unfold exactText
  dsimp only
  rw [floor_eq_zero hlt, stripZeros_of_small h]
  by_cases hz : d.size = 0
  · rw [if_pos ⟨(isWhole_iff_of_lt_one hlt).2 hz, by decide⟩]
    simp [hz, natText]
  · rw [if_neg fun hw => hz ((isWhole_iff_of_lt_one hlt).1 hw.1)]
    cases d.negative <;> simp [hz, signText]

theorem value_neg_iff (d : ExactFloat) : d.value < 0 ↔ d.negative = true ∧ d.size ≠ 0 := by
  have hs := d.size_nonneg
  rw [ExactFloat.value]
  cases d.negative with
  | false => simpa [withSign] using hs
  | true => simpa [withSign] using hs.lt_iff_ne'

theorem denotes_zero (negative : Bool) : Denotes (signText negative ++ ['0']) 0 := by
  have hdigits : ∀ c ∈ ['0'], isAsciiDigit c = true := fun c hc => by
    rw [List.mem_singleton.1 hc]
    rfl
  have hvalue : decimalValue ['0'] = 0 := rfl
  refine ⟨⟨negative, ['0'], [], []⟩, ⟨by simp, hdigits, .inl rfl⟩, ?_, ?_⟩
  · simp [DecimalText.text, DecimalText.significand, DecimalText.exponent]
  · simp [DecimalText.value, DecimalText.size, hvalue, withSign_zero]

/-- What the text of a number says of zero. Half of the tenth decimal is rounded to it, and a minus
stands before it if the number itself is below zero. -/
structure ShowsZero (v : Float) (t : List Char) : Prop where
  zero_iff : Denotes t 0 ↔ |valueOf v| ≤ 5 / 10 ^ 11
  text : Denotes t 0 → t = signText (valueOf v < 0) ++ ['0']

/-- What is more than half of the last decimal away from zero is not shown as zero. -/
theorem size_le_of_denotes_zero (hr : d.InRange) (hz : Denotes (exactText d) 0) :
    d.size ≤ 5 / 10 ^ 11 := by
  obtain ⟨n, htext, hn, -⟩ := exists_shows hr
  obtain ⟨n', hn', htext', hzero⟩ := hz
  have hnear := hn.near
  rw [DecimalText.value_eq hn.wellFormed hn' (htext.symm.trans htext'.symm), hzero, zero_sub,
    abs_neg, abs_value, le_max_iff] at hnear
  obtain hsmall | hsmall := hnear
  · exact hsmall
  · linarith

theorem showsZero_formatNumber (h : v.isFinite = true) : ShowsZero v (formatNumber v) := by
  obtain ⟨d, hd⟩ := exists_exactFloat h
  obtain ⟨-, hv, hr⟩ := exact_spec hd
  have hformat : formatNumber v = exactText d := by rw [formatNumber, hd]
  have hneg : (d.negative && d.size ≠ 0) = decide (d.value < 0) := by
    rw [Bool.eq_iff_iff, decide_eq_true_iff, value_neg_iff]
    simp
  rw [hformat]
  constructor
  · rw [hv, abs_value]
    refine ⟨size_le_of_denotes_zero hr, fun hsmall => ?_⟩
    rw [exactText_of_small hsmall]
    exact denotes_zero _
  · intro hz
    rw [exactText_of_small (size_le_of_denotes_zero hr hz), hneg, hv]

end Formula

namespace Keypad
open Formula Number Editor

variable {s t : List Char}

/-- What equals shows and carries on, and what the next expression begins with, is the text of the
value. -/
theorem equals_chains (h : evaluateAndFormat s = .ok t) {e e' : Editor} {r : Evaluation}
    (hs : render Token.evaluable e.closedTokens = s) (he : e.equals = .ok (some r, e')) :
    r.result = t ∧ e'.carry = some t ∧ (e'.leaveEquals true).trail = [.operand (.literal t)] := by
  obtain ⟨v, hv, rfl⟩ := map_eq_ok h
  have hne := (formatNumber_readable (isFinite_of_evaluate hv)).1.ne_nil
  unfold Editor.equals at he
  rw [hs, hv] at he
  split at he
  · cases he
  · cases he
    exact ⟨rfl, rfl, congrArg Editor.trail (leaveEquals_result rfl rfl hne)⟩

/-- A result is a zero just when the value is at most half of the tenth decimal away from zero. It
has a minus if the value is below zero, and none for a zero of either sign. On the keypad the result
that is shown is the one that is calculated on with. -/
theorem zero_results (h : evaluateAndFormat s = .ok t) :
    (∃ v, evaluate s = .ok v ∧ ShowsZero v t) ∧
    ∀ (e e' : Editor) (r : Evaluation), render Token.evaluable e.closedTokens = s →
      e.equals = .ok (some r, e') →
        r.result = t ∧ e'.carry = some t ∧
          (e'.leaveEquals true).trail = [.operand (.literal t)] := by
  refine ⟨?_, fun e e' r hs he => equals_chains h hs he⟩
  obtain ⟨v, hv, rfl⟩ := map_eq_ok h
  exact ⟨v, hv, showsZero_formatNumber (isFinite_of_evaluate hv)⟩

/-- A hundred-billionth below zero is shown as a zero with a minus. -/
theorem tinyQuotient_signed : evaluateAndFormat "-1/100000000000".toList = .ok "-0".toList ∧
    Denotes "-0".toList 0 ∧ "-0".toList ≠ "0".toList :=
  ⟨by decide +kernel, denotes_zero true, by decide⟩

/-- The same quotient, evaluated and typed. -/
theorem zero_results_tinyQuotient :
    let keys : List Key := [.operator ['-'], .digit ['1'], .operator ['÷'], .digit ['1'],
      .digit ['0']] ++ List.replicate 5 .doubleZero
    let r : Evaluation := ⟨"-1÷100000000000".toList, "-1÷100000000000".toList, "-0".toList⟩
    let e' : Editor := ⟨[], some "-0".toList, true⟩
    evaluateAndFormat "-1/100000000000".toList = .ok "-0".toList ∧
      (∃ v, evaluate "-1/100000000000".toList = .ok v ∧ ShowsZero v "-0".toList) ∧
      render Token.evaluable (run keys).closedTokens = "-1/100000000000".toList ∧
      (run keys).equals = .ok (some r, e') ∧
      r.result = "-0".toList ∧ e'.carry = some "-0".toList ∧
      (e'.leaveEquals true).trail = [.operand (.literal "-0".toList)] := by
  intro keys r e'
  have hshown : evaluateAndFormat "-1/100000000000".toList = .ok "-0".toList := by
    decide +kernel
  have htyped : render Token.evaluable (run keys).closedTokens = "-1/100000000000".toList := by
    decide +kernel
  have hequals : (run keys).equals = .ok (some r, e') := by decide +kernel
  obtain ⟨hzero, hchain⟩ := zero_results hshown
  exact ⟨hshown, hzero, htyped, hequals, hchain _ _ _ htyped hequals⟩

end Keypad
end CovertVault
