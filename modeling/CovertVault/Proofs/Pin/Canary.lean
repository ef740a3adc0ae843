import CovertVault.Proofs.Cipher.Stream
import CovertVault.Proofs.Pin.Digest

namespace CovertVault.Pin
open Cipher

/-- A PIN opens the canary of another just when both hide the text of canaries alike. -/
theorem checkCanary_iff_underPin {p q : String} : checkCanary (some (canary p)) q = true ↔
    underPin p canaryText = underPin q canaryText := by
  have hopen : checkCanary (some (canary p)) q =
      decide (some (underPin q (underPin p canaryText)) = some canaryText) := rfl
  rw [hopen, decide_eq_true_iff, Option.some_inj]
  constructor
  · intro h
    have hq := congrArg (underPin q) h
    rwa [underPin_underPin] at hq
  · intro h
    rw [h, underPin_underPin]

/-- A PIN opens its own canary. -/
theorem checkCanary_canary (pin : String) : checkCanary (some (canary pin)) pin = true :=
  checkCanary_iff_underPin.2 rfl

/-- Valid PINs that hide five bytes in the same way are the same. -/
theorem eq_of_underPin_eq {p q : String} (hp : isValid p = true) (hq : isValid q = true)
    {data : Bytes} (hl : 5 ≤ data.length) (h : underPin p data = underPin q data) : p = q := by
  have hlp := length_ofString hp
  have hlq := length_ofString hq
  exact (underPin_eq_iff (hlp.trans hlq.symm) (hlp.trans_le hl)).1 h

theorem length_canaryText : canaryText.length = 20 := rfl

/-- A canary tells keys apart as far as it is long. Of texts that take one number of bytes, at most
twenty, only the one that it was made with opens it, and of valid PINs likewise. -/
theorem canary_tells_apart (p q : String) :
    (checkCanary (some (canary p)) q = true ↔
      (keyStream (Bytes.ofString p)).take 20 = (keyStream (Bytes.ofString q)).take 20) ∧
    ((Bytes.ofString p).length = (Bytes.ofString q).length → (Bytes.ofString p).length ≤ 20 →
      (checkCanary (some (canary p)) q = true ↔ p = q)) ∧
    (isValid p = true → isValid q = true →
      (checkCanary (some (canary p)) q = true ↔ p = q)) := by
  refine ⟨?_, fun hl hn => ?_, fun hp hq => ?_⟩
  · rw [checkCanary_iff_underPin, ← length_canaryText]
    exact xorStream_eq_iff
  · rw [checkCanary_iff_underPin, underPin_eq_iff hl (hn.trans_eq length_canaryText.symm)]
  · have hfive : 5 ≤ canaryText.length := by decide
    rw [checkCanary_iff_underPin]
    exact ⟨eq_of_underPin_eq hp hq hfive, congrArg (underPin · canaryText)⟩

/-- Two accented letters of one first byte, and two PINs. -/
theorem canary_tells_apart_accented :
    (Bytes.ofString "é").length = (Bytes.ofString "è").length ∧
      (Bytes.ofString "é").length ≤ 20 ∧
      (checkCanary (some (canary "é")) "è" = true ↔ "é" = "è") ∧
      isValid "13579" = true ∧ isValid "97531" = true ∧
      (checkCanary (some (canary "13579")) "97531" = true ↔ "13579" = "97531") := by
  have hl : (Bytes.ofString "é").length = (Bytes.ofString "è").length := by decide
  have hn : (Bytes.ofString "é").length ≤ 20 := by decide
  have hp : isValid "13579" = true := by decide
  have hq : isValid "97531" = true := by decide
  exact ⟨hl, hn, (canary_tells_apart "é" "è").2.1 hl hn, hp, hq,
    (canary_tells_apart "13579" "97531").2.2 hp hq⟩

/-- A key and its repetition. -/
example : checkCanary (some (canary "12")) "121212" = true := by decide

end CovertVault.Pin
