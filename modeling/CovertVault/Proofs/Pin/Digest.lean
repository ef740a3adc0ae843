import CovertVault.Pin.Basic
import CovertVault.Proofs.Text.Ascii

namespace CovertVault

namespace Pin

theorem ascii_digest (pin : String) : Text.Ascii (digest pin).toList := by
  rw [digest, String.toList_ofList, Bytes.hexText]
  exact Text.ascii_flatMap fun b => Text.ascii_hex 2 b.toNat

theorem length_sha256 (m : Bytes) : (Digest.sha256 m).length = 32 := rfl

theorem digest_ne_empty (pin : String) : digest pin ≠ "" := by
  intro h
  have hl := congrArg (fun s => s.toList.length) h
  have hs := length_sha256 (Bytes.ofString pin)
  simp only [digest, String.toList_ofList] at hl
  cases hd : Digest.sha256 (Bytes.ofString pin) with
  | nil =>
    rw [hd] at hs
    cases hs
  | cons b bs =>
    rw [hd] at hl
    simp [Bytes.hexText, Text.hex] at hl

/-- A stored digest lets in the texts with that digest, but never the empty one. -/
theorem verify_digest (pin stored : String) :
    verify (some pin) (some (digest stored)) =
      .ok (decide (pin ≠ "") && decide (digest pin = digest stored)) := by
  have ha : (digest stored).toList.all (fun c => c.toNat < 128) = true := by
    simpa [Text.Ascii] using ascii_digest stored
  unfold verify
  by_cases hp : pin = ""
  · simp [hp]
  · simp [hp, digest_ne_empty, ha]

theorem isValid_iff {pin : String} :
    isValid pin = true ↔ pin.toList.length = 5 ∧ ∀ c ∈ pin.toList, '0' ≤ c ∧ c ≤ '9' := by
  unfold isValid
  rw [Bool.and_eq_true, decide_eq_true_iff, List.all_eq_true]
  simp only [Text.isAsciiDigit, Bool.and_eq_true, decide_eq_true_iff, pinLength]

theorem ascii_of_isValid {pin : String} (h : isValid pin = true) : Text.Ascii pin.toList := by
  intro c hc
  have h9 : c.toNat ≤ 57 := ((isValid_iff.1 h).2 c hc).2
  omega

theorem length_ofString {pin : String} (h : isValid pin = true) :
    (Bytes.ofString pin).length = 5 := by
  rw [Bytes.ofString, Text.length_utf8 (ascii_of_isValid h), (isValid_iff.1 h).1]

theorem ne_empty_of_isValid {pin : String} (h : isValid pin = true) : pin ≠ "" := by
  rintro rfl
  revert h
  decide

end Pin

end CovertVault
