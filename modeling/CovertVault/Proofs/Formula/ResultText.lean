import CovertVault.Formula.ResultText
import CovertVault.Proofs.Formula.NumberPattern
import CovertVault.Proofs.Number.Digits

namespace CovertVault.Formula
open Number Text

theorem isDigits_natText (n : Nat) : IsDigits (natText n) :=
  ⟨natText_ne_nil n, fun _ h => isDecimal_ascii (isAsciiDigit_of_mem_natText h)⟩

theorem isDigits_paddedText (width n : Nat) : IsDigits (paddedText width n) :=
  ⟨paddedText_ne_nil width n, fun _ h => isDecimal_ascii (isAsciiDigit_of_mem_paddedText h)⟩

theorem IsSignificand.isNumber {s : List Char} (h : IsSignificand s) : IsNumber s :=
  ⟨s, [], h, .absent, by simp⟩

theorem IsNumber.signed {s : List Char} (h : IsNumber s) (negative : Bool) :
    IsSignedNumber (signText negative ++ s) := by
  cases negative with
  | false => exact .inl h
  | true => exact .inr ⟨s, rfl, h⟩

/-- Zeros go from behind a point, and the point goes with the last of the decimals. -/
theorem stripZeros_point (s : List Char) {fs : List Char} (hp : '.' ∉ fs) : ∃ gs z,
    fs = gs ++ List.replicate z '0' ∧
      stripZeros (s ++ '.' :: fs) = s ++ if gs = [] then [] else '.' :: gs := by
  have hsplit : fs = (fs.reverse.dropWhile (· = '0')).reverse ++
      List.replicate (fs.reverse.takeWhile (· = '0')).length '0' := by
    have hz : fs.reverse.takeWhile (· = '0') =
        List.replicate (fs.reverse.takeWhile (· = '0')).length '0' :=
      List.eq_replicate_of_mem fun c hc =>
        of_decide_eq_true (List.all_eq_true.1 List.all_takeWhile c hc)
    conv_lhs => rw [← fs.reverse_reverse, ← List.takeWhile_append_dropWhile (l := fs.reverse)
      (p := (· = '0')), List.reverse_append, hz, List.reverse_replicate]
  refine ⟨_, _, hsplit, ?_⟩
  unfold stripZeros
  rw [List.reverse_append, List.reverse_cons, List.append_assoc, List.dropWhile_append]
  cases h : fs.reverse.dropWhile (· = '0') with
  | nil => simp
  | cons c r =>
    have hc : c ≠ '.' := by
      rintro rfl
      have hm : '.' ∈ fs.reverse := (List.dropWhile_sublist _).mem (h ▸ List.mem_cons_self)
      exact hp (List.mem_reverse.1 hm)
    simp only [List.isEmpty_cons, Bool.false_eq_true, if_false, List.cons_append]
    split
    · next he => exact absurd (List.cons.inj he).1 hc
    · simp

theorem point_notMem_paddedText (width n : Nat) : '.' ∉ paddedText width n := fun h => by
  have := (isDigits_paddedText width n).2 '.' h
  revert this
  decide

-- Stated for any number of places: at a numeral, checking it would compute powers of ten.
theorem scientificText_eq (places : Nat) (d : ExactFloat) :
    scientificText places d =
      signText d.negative ++ pointText places (scientificParts places d).1 ++ 'E' :: '+' ::
        paddedText 2 (scientificParts places d).2 := rfl

/-- A result that is not negative, as it is shown. -/
inductive IsResult : List Char → Prop
  | whole {ds : List Char} : IsDigits ds → IsResult ds
  | pointed {ds fs : List Char} : IsDigits ds → IsDigits fs → IsResult (ds ++ '.' :: fs)
  | scientific {ds fs xs : List Char} : IsDigits ds → IsDigits fs → IsDigits xs →
      IsResult (ds ++ '.' :: (fs ++ 'E' :: '+' :: xs))

theorem exactText_eq (d : ExactFloat) :
    ∃ negative s, exactText d = signText negative ++ s ∧ IsResult s := by
  unfold exactText
  dsimp only
  split
  · exact ⟨_, _, rfl, .whole (isDigits_natText _)⟩
  split
  · rw [scientificText_eq, pointText, List.append_assoc, List.append_assoc, List.cons_append]
    exact ⟨_, _, rfl, .scientific (isDigits_natText _) (isDigits_paddedText _ _)
      (isDigits_paddedText _ _)⟩
  · unfold fixedText pointText
    rw [← List.append_assoc]
    obtain ⟨gs, z, hf, h⟩ := stripZeros_point
      (signText d.negative ++ natText (roundHalfEven (d.num * Nat.pow 10 10) d.den / Nat.pow 10 10))
      (point_notMem_paddedText 10 (roundHalfEven (d.num * Nat.pow 10 10) d.den % Nat.pow 10 10))
    rw [h]
    split
    · exact ⟨_, _, List.append_nil _, .whole (isDigits_natText _)⟩
    · next hn =>
      have hgs : IsDigits gs := ⟨hn, fun c hc =>
        (isDigits_paddedText _ _).2 c (hf ▸ List.mem_append_left _ hc)⟩
      exact ⟨_, _, List.append_assoc _ _ _, .pointed (isDigits_natText _) hgs⟩

theorem IsResult.isNumber {s : List Char} (h : IsResult s) : IsNumber s := by
  cases h with
  | whole hd => exact (IsSignificand.whole hd).isNumber
  | pointed hd hf => exact (IsSignificand.pointed hd hf.2).isNumber
  | scientific hd hf hx =>
    exact ⟨_, _, .pointed hd hf.2, .present (.inr rfl) (.inr (.inl rfl)) hx, by simp⟩

theorem isSignedNumber_exactText (d : ExactFloat) : IsSignedNumber (exactText d) := by
  obtain ⟨negative, s, hd, hs⟩ := exactText_eq d
  rw [hd]
  exact hs.isNumber.signed negative

/-- What is shown of a result can be read as a number, unless the result is not finite. -/
theorem isSignedNumber_formatNumber {v : Float} (h : formatNumber v ≠ errorText) :
    IsSignedNumber (formatNumber v) := by
  unfold formatNumber at h ⊢
  split
  · next hv => simp [hv] at h
  · exact isSignedNumber_exactText _

end CovertVault.Formula
