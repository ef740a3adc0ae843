import CovertVault.Proofs.Formula.Evaluation
import CovertVault.Proofs.Formula.LiteralValue
import CovertVault.Proofs.Formula.ResultText
import CovertVault.Proofs.Number.Nearest

namespace CovertVault.Formula
open Number Text

/-- A decimal number in the form in which numbers are shown. Without decimals there is no point, and
without a power of ten no mark of one. -/
structure DecimalText where
  negative : Bool
  whole : List Char
  decimals : List Char
  power : List Char

namespace DecimalText

def significand (n : DecimalText) : List Char :=
  n.whole ++ if n.decimals = [] then [] else '.' :: n.decimals

def exponent (n : DecimalText) : List Char := if n.power = [] then [] else 'E' :: '+' :: n.power

def text (n : DecimalText) : List Char := signText n.negative ++ (n.significand ++ n.exponent)

def size (n : DecimalText) : ℚ :=
  decimalValue (n.whole ++ n.decimals) * 10 ^ ((decimalValue n.power : ℤ) - n.decimals.length)

def value (n : DecimalText) : ℚ := withSign n.negative n.size

theorem text_scientific {n : DecimalText} (hd : n.decimals ≠ []) (hp : n.power ≠ []) : n.text =
    signText n.negative ++ (n.whole ++ '.' :: n.decimals) ++ 'E' :: '+' :: n.power := by
  simp [text, significand, exponent, hd, hp]

structure WellFormed (n : DecimalText) : Prop where
  whole : n.whole ≠ []
  digits : ∀ c ∈ n.whole ++ n.decimals ++ n.power, isAsciiDigit c = true
  power : n.power = [] ∨ n.power.length = 2 ∨ n.power.length = 3

variable {n : DecimalText}

theorem WellFormed.isDecimal (h : n.WellFormed) : (∀ c ∈ n.whole, isDecimal c = true) ∧
    (∀ c ∈ n.decimals, isDecimal c = true) ∧ ∀ c ∈ n.power, isDecimal c = true := by
  refine ⟨fun c hc => ?_, fun c hc => ?_, fun c hc => ?_⟩ <;>
    exact isDecimal_ascii (h.digits c (by simp [hc]))

theorem WellFormed.isNumber (h : n.WellFormed) : IsNumber (n.significand ++ n.exponent) := by
  obtain ⟨hw, hd, hp⟩ := h.isDecimal
  refine ⟨n.significand, n.exponent, ?_, ?_, rfl⟩
  · unfold significand
    split
    · rw [List.append_nil]
      exact .whole ⟨h.whole, hw⟩
    · exact .pointed ⟨h.whole, hw⟩ hd
  · unfold exponent
    split
    · exact .absent
    · next hne =>
      have hsign : ['+'] = [] ∨ ['+'] = ['+'] ∨ ['+'] = ['-'] := .inr (.inl rfl)
      exact .present (.inr rfl) hsign ⟨hne, hp⟩

theorem noDigitNext_exponent (n : DecimalText) :
    NoDigitNext n.exponent ∧ n.exponent.head? ≠ some '.' := by
  unfold exponent
  split
  · exact ⟨nofun, nofun⟩
  · refine ⟨fun c hc => ?_, nofun⟩
    obtain rfl := Option.some.inj hc
    decide

theorem exponentValue_exponent (n : DecimalText) :
    exponentValue n.exponent = decimalValue n.power := by
  unfold exponent
  split
  · next h =>
    rw [h]
    rfl
  · rfl

/-- What the text writes. -/
theorem WellFormed.literalDecimal_text (h : n.WellFormed) : literalDecimal n.text =
    ⟨n.negative, decimalValue (n.whole ++ n.decimals),
      decimalValue n.power - n.decimals.length⟩ := by
  obtain ⟨hw, hd, -⟩ := h.isDecimal
  obtain ⟨hx, hp⟩ := n.noDigitNext_exponent
  rw [text, literalDecimal_signed _ h.isNumber, significand]
  split
  · next hz =>
    rw [List.append_nil, unsignedValue_digits _ hw hx hp, exponentValue_exponent, hz]
    simp
  · rw [List.append_assoc, List.cons_append, unsignedValue_point _ hw hd hx, exponentValue_exponent]

theorem WellFormed.literalValue_nearest (h : n.WellFormed) (hd : n.decimals.length ≤ 330)
    (hp : decimalValue n.power ≤ 400) (hmax : n.size ≤ largest) :
    IsNearest n.value (literalValue n.text) := by
  rw [literalValue, h.literalDecimal_text]
  refine isNearest_toFloat ⟨n.negative, decimalValue (n.whole ++ n.decimals),
    decimalValue n.power - n.decimals.length⟩ ?_ ?_ hmax
  · show (-330 : ℤ) ≤ decimalValue n.power - n.decimals.length
    omega
  · show (decimalValue n.power - n.decimals.length : ℤ) ≤ 400
    omega

/-- The text has a value, the nearest to what it writes. -/
theorem WellFormed.evaluate_nearest (h : n.WellFormed) (hd : n.decimals.length ≤ 330)
    (hp : decimalValue n.power ≤ 400) (hmax : n.size ≤ largest) :
    ∃ w, evaluate n.text = .ok w ∧ IsNearest n.value w := by
  let e : Expr := .term (.factor (.number 0 n.negative ⟨n.significand ++ n.exponent, h.isNumber⟩))
  have hv : evaluate n.text = checked (literalValue n.text) := evaluate_text e
  have hnear := h.literalValue_nearest hd hp hmax
  exact ⟨_, hv.trans (if_pos hnear.finite), hnear⟩

end DecimalText

variable {d : ExactFloat} {n : DecimalText}

theorem length_signText (negative : Bool) : (signText negative).length ≤ 1 := by
  cases negative <;> simp [signText]

/-- A text of a number: short enough, near enough, and not beyond the greatest number. -/
structure DecimalText.Shows (n : DecimalText) (d : ExactFloat) : Prop where
  wellFormed : n.WellFormed
  short : n.text.length ≤ 16
  near : |n.value - d.value| ≤ max (5 / 10 ^ 11) (5 / 10 ^ 7 * |d.value|)
  decimals : n.decimals.length ≤ 10
  power : decimalValue n.power ≤ 400
  size_le : n.size ≤ largest

theorem abs_value (d : ExactFloat) : |d.value| = d.size := by
  rw [ExactFloat.value, abs_withSign, abs_of_nonneg d.size_nonneg]

theorem near_of_size {b : ℚ} (hs : n.negative = d.negative) (h : |n.size - d.size| ≤ b) :
    |n.value - d.value| ≤ b := by
  rw [DecimalText.value, ExactFloat.value, hs, withSign_sub]
  exact h

theorem size_of_isWhole (h : d.isWhole = true) : d.size = (d.num / d.den : ℕ) := by
  have hmod : d.num % d.den = 0 := by simpa [ExactFloat.isWhole] using h
  rw [d.size_eq, Nat.cast_div (Nat.dvd_of_mod_eq_zero hmod) (Nat.cast_ne_zero.2 d.den_pos.ne')]

theorem isWhole_of_size {k : ℤ} (h : d.size = k) : d.isWhole = true := by
  have hden : (d.den : ℚ) ≠ 0 := Nat.cast_ne_zero.2 d.den_pos.ne'
  rw [d.size_eq, div_eq_iff hden] at h
  have hdvd : (d.den : ℤ) ∣ d.num := ⟨k, by rw [mul_comm]; exact_mod_cast h⟩
  simpa [ExactFloat.isWhole] using Nat.mod_eq_zero_of_dvd (Int.natCast_dvd_natCast.1 hdvd)

/-- A whole number in full. A zero has no sign. -/
def wholeForm (d : ExactFloat) : DecimalText :=
  ⟨d.negative && d.num / d.den ≠ 0, natText (d.num / d.den), [], []⟩

theorem wholeForm_text (d : ExactFloat) : (wholeForm d).text =
    signText (d.negative && d.num / d.den ≠ 0) ++ natText (d.num / d.den) := by
  simp [wholeForm, DecimalText.text, DecimalText.significand, DecimalText.exponent]

theorem wholeForm_value (hw : d.isWhole = true) : (wholeForm d).value = d.value := by
  have hsize := size_of_isWhole hw
  have hs : (wholeForm d).size = d.size := by
    rw [DecimalText.size, wholeForm, List.append_nil, decimalValue_natText, hsize]
    simp [decimalValue]
  rw [DecimalText.value, ExactFloat.value, hs]
  by_cases hz : d.num / d.den = 0
  · rw [hsize, hz, Nat.cast_zero, withSign_zero, withSign_zero]
  · simp [wholeForm, hz]

theorem shows_wholeForm (hr : d.InRange) (hw : d.isWhole = true)
    (hlt : d.num / d.den < 1000000000000000) : (wholeForm d).Shows d := by
  have hv := wholeForm_value hw
  refine ⟨⟨natText_ne_nil _, fun c hc => ?_, .inl rfl⟩, ?_, ?_, Nat.zero_le _, Nat.zero_le _, ?_⟩
  · rw [wholeForm, List.append_nil, List.append_nil] at hc
    exact isAsciiDigit_of_mem_natText hc
  · have hlength : (natText (d.num / d.den)).length ≤ 15 := (length_natText_le (by decide)).2 hlt
    have hsign := length_signText (d.negative && d.num / d.den ≠ 0)
    rw [wholeForm_text, List.length_append]
    omega
  · rw [hv, sub_self, abs_zero]
    exact le_max_of_le_left (by norm_num)
  · have habs := congrArg abs hv
    rw [abs_value, DecimalText.value, abs_withSign] at habs
    exact (le_abs_self _).trans (habs.le.trans hr.size_le)

theorem roundsTo_fixed (places : ℕ) (d : ExactFloat) :
    RoundsTo (d.size * 10 ^ places) (roundHalfEven (d.num * Nat.pow 10 places) d.den) := by
  have h := roundsTo_roundHalfEven (d.num * Nat.pow 10 places) d.den_pos
  have hx : ((d.num * Nat.pow 10 places : ℕ) / d.den : ℚ) = d.size * 10 ^ places := by
    rw [d.size_eq, div_mul_eq_mul_div]
    exact_mod_cast rfl
  rwa [hx] at h

/-- The decimals that are left when zeros are stripped. -/
theorem exists_fixedForm (places : ℕ) (hp : 0 < places) (d : ExactFloat) : ∃ gs,
    (∀ c ∈ gs, isAsciiDigit c = true) ∧ gs.length ≤ places ∧
      stripZeros (fixedText places d) = DecimalText.text ⟨d.negative,
        natText (roundHalfEven (d.num * Nat.pow 10 places) d.den / 10 ^ places), gs, []⟩ ∧
      DecimalText.size ⟨d.negative,
        natText (roundHalfEven (d.num * Nat.pow 10 places) d.den / 10 ^ places), gs, []⟩ =
          roundHalfEven (d.num * Nat.pow 10 places) d.den / 10 ^ places := by
  have htext : fixedText places d = signText d.negative ++
      natText (roundHalfEven (d.num * Nat.pow 10 places) d.den / 10 ^ places) ++ '.' ::
        paddedText places (roundHalfEven (d.num * Nat.pow 10 places) d.den % 10 ^ places) := by
    rw [List.append_assoc]
    rfl
  rw [htext]
  generalize roundHalfEven (d.num * Nat.pow 10 places) d.den = m
  obtain ⟨gs, z, hf, hs⟩ := stripZeros_point (signText d.negative ++ natText (m / 10 ^ places))
    (point_notMem_paddedText places (m % 10 ^ places))
  obtain ⟨hv, hl⟩ := decimalValue_pointText hp m
  have hz : gs.length + z = places := by
    rw [hf, List.length_append, List.length_replicate] at hl
    exact hl
  refine ⟨gs, fun c hc => ?_, by omega, ?_, ?_⟩
  · exact isAsciiDigit_of_mem_paddedText (hf ▸ List.mem_append_left _ hc)
  · rw [hs]
    simp [DecimalText.text, DecimalText.significand, DecimalText.exponent]
  · rw [hf, ← List.append_assoc, decimalValue_append_mul, decimalValue_zeros, List.length_replicate,
      Nat.add_zero] at hv
    have hexp : (decimalValue [] : ℤ) - gs.length = -(gs.length : ℤ) := zero_sub _
    rw [DecimalText.size, hexp, zpow_neg, zpow_natCast]
    generalize decimalValue (natText (m / 10 ^ places) ++ gs) = w at hv
    rw [← hv, ← hz, pow_add]
    push_cast
    field_simp

theorem shows_fixedForm (d : ExactFloat) (hl : (stripZeros (fixedText 10 d)).length ≤ 15) :
    ∃ n : DecimalText, stripZeros (fixedText 10 d) = n.text ∧ n.Shows d := by
  obtain ⟨gs, hg, hlen, htext, hsize⟩ := exists_fixedForm 10 (by decide) d
  have hr := roundsTo_fixed 10 d
  generalize roundHalfEven (d.num * Nat.pow 10 10) d.den = m at htext hsize hr
  rw [htext] at hl
  refine ⟨_, htext, ⟨natText_ne_nil _, fun c hc => ?_, .inl rfl⟩, hl.trans (by decide), ?_, hlen,
    Nat.zero_le _, ?_⟩
  · rw [List.append_nil] at hc
    obtain hc | hc := List.mem_append.1 hc
    · exact isAsciiDigit_of_mem_natText hc
    · exact hg c hc
  · refine le_max_of_le_left (near_of_size rfl ?_)
    rw [hsize]
    exact (hr.error_le (by positivity)).trans (by norm_num)
  · have hwhole : m / 10 ^ 10 < 10 ^ 15 := by
      rw [← length_natText_le (by decide)]
      simp only [DecimalText.text, DecimalText.significand, List.length_append] at hl
      omega
    have hm : (m : ℚ) ≤ 10 ^ 25 := by
      exact_mod_cast (Nat.lt_of_div_lt_div (c := 10 ^ 10) (by omega)).le
    rw [hsize]
    calc (m / 10 ^ 10 : ℚ) ≤ 10 ^ 25 / 10 ^ 10 := by gcongr
      _ = 10 ^ 15 := by norm_num
      _ ≤ 10 ^ 308 := pow_le_pow_right₀ (by norm_num) (by decide)
      _ ≤ largest := pow_308_le_largest

/-- What takes more than fifteen characters is at least one. -/
theorem one_le_of_length (h : 15 < (stripZeros (fixedText 10 d)).length) :
    1 ≤ d.num / d.den := by
  obtain ⟨gs, -, hlen, htext, -⟩ := exists_fixedForm 10 (by decide) d
  have hr := roundsTo_fixed 10 d
  generalize roundHalfEven (d.num * Nat.pow 10 10) d.den = m at htext hr
  have hwhole : ¬ m / 10 ^ 10 < 10 ^ 3 := by
    rw [← length_natText_le (by decide)]
    have hsign := length_signText d.negative
    have hpoint : (if gs = [] then [] else '.' :: gs).length ≤ gs.length + 1 := by
      split <;> simp
    rw [htext] at h
    simp only [DecimalText.text, DecimalText.significand, DecimalText.exponent, if_true,
      List.length_append, List.length_nil] at h
    omega
  have hm : 10 ^ 10 < m := by
    have := Nat.div_mul_le_self m (10 ^ 10)
    omega
  have hone : (1 : ℚ) ≤ d.size := by
    by_contra hlt
    have hle : d.size * 10 ^ 10 ≤ (10 ^ 10 : ℕ) := by
      push_cast
      linarith
    have := hr.le_of_le hle
    omega
  rw [d.size_eq, one_le_div (Nat.cast_pos.2 d.den_pos), Nat.cast_le] at hone
  exact Nat.div_pos hone d.den_pos

/-- The power of ten of the leading digit. -/
theorem magnitude_bounds (h : 1 ≤ d.num / d.den) :
    (10 : ℚ) ^ d.magnitude ≤ d.size ∧ d.size < 10 ^ (d.magnitude + 1) := by
  have hlen : 0 < (natText (d.num / d.den)).length := List.length_pos_iff.2 (natText_ne_nil _)
  have hlow : 10 ^ d.magnitude ≤ d.num / d.den := by
    unfold ExactFloat.magnitude
    by_cases hz : (natText (d.num / d.den)).length - 1 = 0
    · rwa [hz, Nat.pow_zero]
    · rw [← Nat.not_lt, ← length_natText_le (Nat.pos_of_ne_zero hz)]
      omega
  have hhigh : d.num / d.den < 10 ^ (d.magnitude + 1) := by
    rw [ExactFloat.magnitude, Nat.sub_add_cancel hlen, ← length_natText_le hlen]
  have hden : (0 : ℚ) < d.den := Nat.cast_pos.2 d.den_pos
  rw [d.size_eq, le_div_iff₀ hden, div_lt_iff₀ hden]
  constructor
  · exact_mod_cast (Nat.le_div_iff_mul_le d.den_pos).1 hlow
  · exact_mod_cast (Nat.div_lt_iff_lt_mul d.den_pos).1 hhigh

theorem roundsTo_scientific (places : ℕ) (d : ExactFloat) :
    RoundsTo (d.size * (10 ^ places / 10 ^ d.magnitude))
      (roundHalfEven (d.num * Nat.pow 10 places) (d.den * Nat.pow 10 d.magnitude)) := by
  have hpos : 0 < d.den * Nat.pow 10 d.magnitude :=
    Nat.mul_pos d.den_pos (Nat.pow_pos (by decide))
  have h := roundsTo_roundHalfEven (d.num * Nat.pow 10 places) hpos
  have hx : ((d.num * Nat.pow 10 places : ℕ) / (d.den * Nat.pow 10 d.magnitude : ℕ) : ℚ) =
      d.size * (10 ^ places / 10 ^ d.magnitude) := by
    rw [d.size_eq, div_mul_div_comm]
    exact_mod_cast rfl
  rwa [hx] at h

/-- The significand is rounded, and one that is rounded up to a new digit loses a zero to the power
of ten. -/
theorem scientificParts_spec (places : ℕ) (h : 1 ≤ d.num / d.den) : ∃ m : ℕ,
    RoundsTo (d.size * (10 ^ places / 10 ^ d.magnitude)) m ∧ m ≤ 10 ^ (places + 1) ∧
      (scientificParts places d).1 * 10 ^ (scientificParts places d).2 = m * 10 ^ d.magnitude ∧
        (scientificParts places d).1 / 10 ^ places < 10 ∧
          (scientificParts places d).2 ≤ d.magnitude + 1 := by
  have hr := roundsTo_scientific places d
  have hle : roundHalfEven (d.num * Nat.pow 10 places) (d.den * Nat.pow 10 d.magnitude) ≤
      10 ^ (places + 1) := hr.le_of_le (by
    have hhigh := (magnitude_bounds h).2
    have hp : (0 : ℚ) < 10 ^ d.magnitude := by positivity
    rw [mul_div_assoc', div_le_iff₀ hp]
    push_cast
    rw [pow_succ] at hhigh ⊢
    have := mul_le_mul_of_nonneg_right hhigh.le (by positivity : (0 : ℚ) ≤ 10 ^ places)
    linarith)
  refine ⟨_, hr, hle, ?_⟩
  unfold scientificParts
  dsimp only
  generalize roundHalfEven (d.num * Nat.pow 10 places) (d.den * Nat.pow 10 d.magnitude) = m at hle
  split
  · next hm =>
    have hm : m = 10 ^ (places + 1) := hm
    refine ⟨?_, ?_, le_refl _⟩
    · show 10 ^ places * 10 ^ (d.magnitude + 1) = m * 10 ^ d.magnitude
      rw [hm]
      ring
    · show 10 ^ places / 10 ^ places < 10
      rw [Nat.div_self (Nat.pow_pos (by decide))]
      decide
  · next hm =>
    have hm : m ≠ 10 ^ (places + 1) := hm
    refine ⟨rfl, ?_, Nat.le_succ _⟩
    rw [Nat.div_lt_iff_lt_mul (Nat.pow_pos (by decide)), Nat.mul_comm, ← Nat.pow_succ]
    omega

/-- A significand in units of its last place, and a power of ten. -/
def scientificForm (places : ℕ) (negative : Bool) (m e : ℕ) : DecimalText :=
  ⟨negative, natText (m / 10 ^ places), paddedText places (m % 10 ^ places), paddedText 2 e⟩

theorem scientificForm_text (places : ℕ) (negative : Bool) (m e : ℕ) :
    (scientificForm places negative m e).text =
      signText negative ++ pointText places m ++ 'E' :: '+' :: paddedText 2 e :=
  DecimalText.text_scientific (paddedText_ne_nil _ _) (paddedText_ne_nil _ _)

theorem scientificForm_size {places : ℕ} (hp : 0 < places) (negative : Bool) (m e : ℕ) :
    (scientificForm places negative m e).size = m * 10 ^ e / 10 ^ places := by
  obtain ⟨hv, hl⟩ := decimalValue_pointText hp m
  rw [DecimalText.size, scientificForm, hv, hl, decimalValue_paddedText,
    zpow_sub₀ (by norm_num), zpow_natCast, zpow_natCast, mul_div_assoc]

/-- No number has a greater power of ten. -/
theorem magnitude_le (hr : d.InRange) (h : 1 ≤ d.num / d.den) : d.magnitude ≤ 308 := by
  by_contra hlt
  have hpow : (10 : ℚ) ^ (302 + 7) ≤ 10 ^ d.magnitude :=
    pow_le_pow_right₀ (by norm_num) (by omega)
  have hx := hpow.trans ((magnitude_bounds h).1.trans hr.size_le)
  have hl := rounded_largest.2
  rw [pow_add] at hx
  have hp : (0 : ℚ) < 10 ^ 302 := by positivity
  generalize (10 : ℚ) ^ 302 = p at hx hl hp
  linarith

/-- Not even where the power of ten is the greatest does rounding go beyond the greatest number. -/
theorem scientific_size_le (hr : d.InRange) (h : 1 ≤ d.num / d.den) {m : ℕ}
    (hm : RoundsTo (d.size * (10 ^ 6 / 10 ^ d.magnitude)) m) (hle : m ≤ 10 ^ (6 + 1)) :
    (m * 10 ^ d.magnitude / 10 ^ 6 : ℚ) ≤ largest := by
  have hsix : (0 : ℚ) < 10 ^ 6 := by norm_num
  rw [div_le_iff₀ hsix]
  obtain hlt | heq := Nat.lt_or_eq_of_le (magnitude_le hr h)
  · have hm : (m : ℚ) ≤ 10 ^ 7 := by exact_mod_cast hle
    calc (m * 10 ^ d.magnitude : ℚ) ≤ 10 ^ 7 * 10 ^ 307 := by
          gcongr
          · norm_num
          · omega
      _ = 10 ^ 308 * 10 ^ 6 := by rw [← pow_add, ← pow_add]
      _ ≤ largest * 10 ^ 6 := mul_le_mul_of_nonneg_right pow_308_le_largest hsix.le
  · obtain ⟨hlow, hhigh⟩ := rounded_largest
    have hsize := hr.size_le
    have hp : (0 : ℚ) < 10 ^ 302 := by positivity
    have hpow : (10 : ℚ) ^ d.magnitude = 10 ^ 302 * 10 ^ 6 := by rw [heq, ← pow_add]
    rw [hpow, mul_comm ((10 : ℚ) ^ 302), div_mul_cancel_left₀ hsix.ne'] at hm
    rw [hpow, ← mul_assoc]
    generalize (10 : ℚ) ^ 302 = p at hlow hhigh hp hm ⊢
    have hm : m ≤ 1797693 := by
      by_contra hgt
      have hmq : (1797694 : ℚ) ≤ m := by exact_mod_cast Nat.lt_of_not_le hgt
      have hnear := hm.near
      have hscaled : d.size * p⁻¹ < 3595387 / 2 := by
        rw [← div_eq_mul_inv, div_lt_iff₀ hp]
        linarith
      rw [abs_le] at hnear
      linarith
    have hmq : (m : ℚ) ≤ 1797693 := by exact_mod_cast hm
    have := mul_le_mul_of_nonneg_right hmq hp.le
    exact mul_le_mul_of_nonneg_right (this.trans hlow) hsix.le

theorem scientific_near (h : 1 ≤ d.num / d.den) {m : ℕ}
    (hm : RoundsTo (d.size * (10 ^ 6 / 10 ^ d.magnitude)) m) :
    |(m * 10 ^ d.magnitude / 10 ^ 6 : ℚ) - d.size| ≤ 5 / 10 ^ 7 * d.size := by
  have hlow := (magnitude_bounds h).1
  have hp : (0 : ℚ) < 10 ^ d.magnitude := by positivity
  have herr := hm.error_le (by positivity)
  generalize (10 : ℚ) ^ d.magnitude = p at hlow hp herr ⊢
  rw [div_div_eq_mul_div, div_div_eq_mul_div] at herr
  refine herr.trans ?_
  calc (1 / 2 * p / 10 ^ 6 : ℚ) = 5 / 10 ^ 7 * p := by ring
    _ ≤ 5 / 10 ^ 7 * d.size := by gcongr

theorem shows_scientificForm (hr : d.InRange) (h : 1 ≤ d.num / d.den) {m a e : ℕ}
    (hm : RoundsTo (d.size * (10 ^ 6 / 10 ^ d.magnitude)) m) (hle : m ≤ 10 ^ (6 + 1))
    (hsame : a * 10 ^ e = m * 10 ^ d.magnitude) (hdigit : a / 10 ^ 6 < 10)
    (hpower : e ≤ d.magnitude + 1) : (scientificForm 6 d.negative a e).Shows d := by
  have hmag := magnitude_le hr h
  have hsize : (scientificForm 6 d.negative a e).size = m * 10 ^ d.magnitude / 10 ^ 6 := by
    rw [scientificForm_size (by decide)]
    congr 1
    exact_mod_cast hsame
  have hwhole : (natText (a / 10 ^ 6)).length ≤ 1 := (length_natText_le (by decide)).2 hdigit
  have hdecimals : (paddedText 6 (a % 10 ^ 6)).length = 6 :=
    (decimalValue_pointText (by decide) _).2
  have hexponent : (paddedText 2 e).length = 2 ∨ (paddedText 2 e).length = 3 := by
    have hthree : (natText e).length ≤ 3 := (length_natText_le (by decide)).2 (by omega)
    rw [length_paddedText]
    omega
  refine ⟨⟨natText_ne_nil _, fun c hc => ?_, .inr hexponent⟩, ?_, ?_, ?_, ?_, ?_⟩
  · obtain hc | hc := List.mem_append.1 hc
    · obtain hc | hc := List.mem_append.1 hc
      · exact isAsciiDigit_of_mem_natText hc
      · exact isAsciiDigit_of_mem_paddedText hc
    · exact isAsciiDigit_of_mem_paddedText hc
  · have hsign := length_signText d.negative
    rw [DecimalText.text_scientific (paddedText_ne_nil _ _) (paddedText_ne_nil _ _)]
    simp only [scientificForm, List.length_append, List.length_cons]
    omega
  · refine le_max_of_le_right (near_of_size rfl ?_)
    rw [hsize, abs_value]
    exact scientific_near h hm
  · rw [scientificForm, hdecimals]
    decide
  · rw [scientificForm, decimalValue_paddedText]
    omega
  · rw [hsize]
    exact scientific_size_le hr h hm hle

theorem exists_shows (hr : d.InRange) : ∃ n : DecimalText, exactText d = n.text ∧ n.Shows d ∧
    ((∃ k : ℤ, d.value = k) → |d.value| < 10 ^ 15 → n.value = d.value) := by
  unfold exactText
  dsimp only
  split
  · next hw =>
    exact ⟨wholeForm d, (wholeForm_text d).symm, shows_wholeForm hr hw.1 hw.2,
      fun _ _ => wholeForm_value hw.1⟩
  next hw =>
  -- A whole number so small has been shown in full.
  have hnot (hk : ∃ k : ℤ, d.value = k) (hlt : |d.value| < 10 ^ 15) : False := by
    obtain ⟨k, hk⟩ := hk
    rw [abs_value] at hlt
    have hwhole : d.isWhole = true := isWhole_of_size (k := |k|) (by
      rw [← abs_value, hk, Int.cast_abs])
    rw [size_of_isWhole hwhole] at hlt
    exact hw ⟨hwhole, by exact_mod_cast hlt⟩
  split
  · next hlong =>
    have hone := one_le_of_length hlong
    obtain ⟨m, hm, hle, hsame, hdigit, hpower⟩ := scientificParts_spec 6 hone
    exact ⟨_, (scientificText_eq 6 d).trans (scientificForm_text 6 _ _ _).symm,
      shows_scientificForm hr hone hm hle hsame hdigit hpower, fun hk hlt => (hnot hk hlt).elim⟩
  · next hshort =>
    obtain ⟨n, htext, hn⟩ := shows_fixedForm d (Nat.le_of_not_lt hshort)
    exact ⟨n, htext, hn, fun hk hlt => (hnot hk hlt).elim⟩

/-- The text of a finite number is at most sixteen characters of a decimal number, which is near the
number, and is the number itself if that is a whole one below `10 ^ 15`. Evaluated, the text gives
the binary64 nearest to the decimal number. -/
theorem formatNumber_accurate (v : Float) (h : v.isFinite = true) :
    ∃ n : DecimalText, n.WellFormed ∧ formatNumber v = n.text ∧ (formatNumber v).length ≤ 16 ∧
      |n.value - valueOf v| ≤ max (5 / 10 ^ 11) (5 / 10 ^ 7 * |valueOf v|) ∧
        ((∃ k : ℤ, valueOf v = k) → |valueOf v| < 10 ^ 15 → n.value = valueOf v) ∧
          ∃ w, evaluate (formatNumber v) = .ok w ∧ IsNearest n.value w := by
  obtain ⟨d, hd⟩ := exists_exactFloat h
  obtain ⟨-, hv, hr⟩ := exact_spec hd
  obtain ⟨n, htext, hn, hwhole⟩ := exists_shows hr
  have hformat : formatNumber v = n.text := by
    rw [formatNumber, hd]
    exact htext
  rw [hformat, hv]
  exact ⟨n, hn.wellFormed, rfl, hn.short, hn.near, hwhole,
    hn.wellFormed.evaluate_nearest (hn.decimals.trans (by decide)) hn.power hn.size_le⟩

/-- The greatest number is rounded down, and so it does not overflow when it is read back. -/
theorem formatNumber_largest : (Float.ofBits 0x7FEFFFFFFFFFFFFF).isFinite = true ∧
    formatNumber (Float.ofBits 0x7FEFFFFFFFFFFFFF) = "1.797693E+308".toList ∧
      ∃ n : DecimalText, n.WellFormed ∧ n.text = "1.797693E+308".toList ∧
        ∃ w, evaluate "1.797693E+308".toList = .ok w ∧ IsNearest n.value w := by
  have hfin : (Float.ofBits 0x7FEFFFFFFFFFFFFF).isFinite = true := by decide +kernel
  have hformat : formatNumber (Float.ofBits 0x7FEFFFFFFFFFFFFF) = "1.797693E+308".toList := by
    decide +kernel
  obtain ⟨n, hn, htext, -, -, -, hw⟩ := formatNumber_accurate _ hfin
  rw [hformat] at htext hw
  exact ⟨hfin, hformat, n, hn, htext.symm, hw⟩

end CovertVault.Formula
