import CovertVault.Formula.Literal

namespace CovertVault.Formula
open Text

/-- One or more decimal digits of any script. -/
def IsDigits (s : List Char) : Prop := s ≠ [] ∧ ∀ c ∈ s, isDecimal c = true

theorem IsDigits.head {ds : List Char} (h : IsDigits ds) (r : List Char) :
    ∃ c s, ds ++ r = c :: s ∧ isDecimal c = true := by
  obtain ⟨c, ds, rfl⟩ := List.exists_cons_of_ne_nil h.1
  exact ⟨c, ds ++ r, rfl, h.2 c (.head _)⟩

/-- Digits with a point behind, between or before them, or without one. -/
inductive IsSignificand : List Char → Prop
  | whole {ds : List Char} : IsDigits ds → IsSignificand ds
  | pointed {ds fs : List Char} : IsDigits ds → (∀ c ∈ fs, isDecimal c = true) →
      IsSignificand (ds ++ '.' :: fs)
  | fraction {fs : List Char} : IsDigits fs → IsSignificand ('.' :: fs)

inductive IsExponent : List Char → Prop
  | absent : IsExponent []
  | present {mark : Char} {sign ds : List Char} : mark = 'e' ∨ mark = 'E' →
      sign = [] ∨ sign = ['+'] ∨ sign = ['-'] → IsDigits ds → IsExponent (mark :: (sign ++ ds))

/-- A number without a sign. -/
def IsNumber (s : List Char) : Prop :=
  ∃ significand exponent, IsSignificand significand ∧ IsExponent exponent ∧
    s = significand ++ exponent

/-- A number, perhaps with a minus. -/
def IsSignedNumber (s : List Char) : Prop := IsNumber s ∨ ∃ r, s = '-' :: r ∧ IsNumber r

/-- Nothing that could be a further part of a number. -/
def NoDigitNext (r : List Char) : Prop := ∀ c ∈ r.head?, isDecimal c = false

def NoNumberNext (r : List Char) : Prop :=
  NoDigitNext r ∧ ∀ c ∈ r.head?, c ≠ '.' ∧ c ≠ 'e' ∧ c ≠ 'E'

@[simp] theorem noNumberNext_nil : NoNumberNext [] := by simp [NoNumberNext, NoDigitNext]

theorem not_in_number {c : Char} (h : c ∈ [' ', '+', '-', '*', '/', '(', ')']) :
    isDecimal c = false ∧ c ≠ '.' ∧ c ≠ 'e' ∧ c ≠ 'E' := by
  simp only [List.mem_cons, List.not_mem_nil, or_false] at h
  rcases h with rfl | rfl | rfl | rfl | rfl | rfl | rfl <;> decide

theorem noNumberNext_cons {c : Char} (h : c ∈ [' ', '+', '-', '*', '/', '(', ')'])
    (r : List Char) : NoNumberNext (c :: r) := by
  simp [NoNumberNext, NoDigitNext, not_in_number h]

theorem noDigitNext_point (r : List Char) : NoDigitNext ('.' :: r) := by
  intro c hc
  obtain rfl : '.' = c := by simpa using hc
  decide

theorem digitsOf_append {ds r : List Char} (hd : ∀ c ∈ ds, isDecimal c = true)
    (hr : NoDigitNext r) : digitsOf (ds ++ r) = ds := by
  unfold digitsOf
  rw [List.takeWhile_append_of_pos hd]
  cases r with
  | nil => simp
  | cons c r => simp [hr c (by simp)]

theorem afterDigits_append {ds r : List Char} (hd : ∀ c ∈ ds, isDecimal c = true)
    (hr : NoDigitNext r) : afterDigits (ds ++ r) = r := by
  have h := digitsOf_append_afterDigits (ds ++ r)
  rw [digitsOf_append hd hr] at h
  exact List.append_cancel_left h

theorem scanSignificand_append {t r : List Char} (ht : IsSignificand t) (hr : NoDigitNext r)
    (hp : r.head? ≠ some '.') : scanSignificand (t ++ r) = some (t, r) := by
  cases ht with
  | whole h =>
    obtain ⟨d, ds, rfl⟩ := List.exists_cons_of_ne_nil h.1
    unfold scanSignificand
    rw [digitsOf_append h.2 hr, afterDigits_append h.2 hr]
    cases r with
    | nil => rfl
    | cons c r =>
      have hc : c ≠ '.' := by simpa using hp
      split <;> simp_all
  | @pointed ds fs h hf =>
    obtain ⟨d, ds, rfl⟩ := List.exists_cons_of_ne_nil h.1
    have hpt := noDigitNext_point (fs ++ r)
    have he : d :: ds ++ '.' :: fs ++ r = d :: ds ++ '.' :: (fs ++ r) := by simp
    unfold scanSignificand
    rw [he, digitsOf_append h.2 hpt, afterDigits_append h.2 hpt]
    simp only [digitsOf_append hf hr, afterDigits_append hf hr]
  | @fraction fs h =>
    -- The run of digits before the point is there as well, but it is empty.
    obtain ⟨d, fs, rfl⟩ := List.exists_cons_of_ne_nil h.1
    have hpt := noDigitNext_point (d :: fs ++ r)
    have hn : ∀ c ∈ ([] : List Char), isDecimal c = true := by simp
    have hd := digitsOf_append hn hpt
    have ha := afterDigits_append hn hpt
    simp only [List.nil_append] at hd ha
    unfold scanSignificand
    rw [List.cons_append, hd, ha]
    simp only [digitsOf_append h.2 hr, afterDigits_append h.2 hr]

theorem scanSign_append_digits {sign ds r : List Char}
    (hs : sign = [] ∨ sign = ['+'] ∨ sign = ['-']) (hd : IsDigits ds) :
    scanSign (sign ++ (ds ++ r)) = (sign, ds ++ r) := by
  obtain ⟨d, ds, rfl⟩ := List.exists_cons_of_ne_nil hd.1
  have h : d ≠ '+' ∧ d ≠ '-' := by
    have := hd.2 d (by simp)
    constructor <;> (rintro rfl; revert this; decide)
  rcases hs with rfl | rfl | rfl
  · simp only [List.nil_append, List.cons_append]
    unfold scanSign
    split <;> simp_all
  · rfl
  · rfl

theorem scanExponent_isExponent {x r : List Char} (hx : IsExponent x) (hr : NoNumberNext r) :
    scanExponent (x ++ r) = (x, r) := by
  cases hx with
  | absent =>
    -- No exponent: what follows must not look like one either.
    cases r with
    | nil => rfl
    | cons c r =>
      obtain ⟨-, h1, h2⟩ := hr.2 c (by simp)
      simp [scanExponent, h1, h2]
  | @present mark sign ds hm hs hd =>
    have h := scanSign_append_digits (r := r) hs hd
    have hds := digitsOf_append hd.2 hr.1
    have hda := afterDigits_append hd.2 hr.1
    obtain ⟨d, ds', rfl⟩ := List.exists_cons_of_ne_nil hd.1
    simp only [List.cons_append, List.append_assoc] at h hds hda ⊢
    simp only [scanExponent, if_pos hm, h, hds, hda, List.cons_append]

theorem IsExponent.noDigitNext {x r : List Char} (hx : IsExponent x) (hr : NoNumberNext r) :
    NoDigitNext (x ++ r) ∧ (x ++ r).head? ≠ some '.' := by
  cases hx with
  | absent =>
    refine ⟨hr.1, fun h => ?_⟩
    exact (hr.2 '.' h).1 rfl
  | present hm _ _ =>
    rcases hm with rfl | rfl <;> exact ⟨by simp [NoDigitNext]; decide, by simp⟩

/-- A number is scanned whole, whatever follows that cannot prolong it. -/
theorem scanUnsigned_append {u r : List Char} (hu : IsNumber u) (hr : NoNumberNext r) :
    scanUnsigned (u ++ r) = some (u, r) := by
  obtain ⟨t, x, ht, hx, rfl⟩ := hu
  obtain ⟨h1, h2⟩ := hx.noDigitNext hr
  unfold scanUnsigned
  rw [List.append_assoc, scanSignificand_append ht h1 h2]
  simp [scanExponent_isExponent hx hr]

/-- How a number begins. -/
theorem IsNumber.head {u : List Char} (hu : IsNumber u) :
    ∃ c r, u = c :: r ∧ (isDecimal c = true ∨ c = '.') := by
  obtain ⟨t, x, ht, -, rfl⟩ := hu
  cases ht with
  | whole h =>
    obtain ⟨d, ds, rfl⟩ := List.exists_cons_of_ne_nil h.1
    exact ⟨d, ds ++ x, rfl, .inl (h.2 d (by simp))⟩
  | @pointed _ fs h _ =>
    obtain ⟨d, ds, rfl⟩ := List.exists_cons_of_ne_nil h.1
    exact ⟨d, ds ++ '.' :: fs ++ x, by simp, .inl (h.2 d (by simp))⟩
  | @fraction fs h => exact ⟨'.', fs ++ x, rfl, .inr rfl⟩

theorem IsNumber.head_ne {u : List Char} (hu : IsNumber u) {c : Char}
    (hc : c ∈ [' ', '+', '-', '*', '/', '(', ')']) : u.head? ≠ some c := by
  obtain ⟨d, r, rfl, hd⟩ := hu.head
  have h := not_in_number hc
  intro he
  obtain rfl : d = c := by simpa using he
  simp_all

theorem IsNumber.count_point {u : List Char} (hu : IsNumber u) : u.count '.' ≤ 1 := by
  have hd {ds : List Char} (h : ∀ c ∈ ds, isDecimal c = true) : ds.count '.' = 0 := by
    refine List.count_eq_zero.2 fun hp => ?_
    have hn : isDecimal '.' = false := by decide
    simp [h '.' hp] at hn
  have hx {x : List Char} (h : IsExponent x) : x.count '.' = 0 := by
    cases h with
    | absent => rfl
    | present hm hs h =>
      obtain rfl | rfl := hm <;> obtain rfl | rfl | rfl := hs <;> simp [hd h.2]
  obtain ⟨t, x, ht, h, rfl⟩ := hu
  cases ht with
  | whole h' => simp [hx h, hd h'.2]
  | pointed h' hf => simp [hx h, hd h'.2, hd hf]
  | fraction h' => simp [hx h, hd h'.2]

theorem IsNumber.scanLiteral_append {u r : List Char} (hu : IsNumber u) (hr : NoNumberNext r) :
    scanLiteral (u ++ r) = some (u, r) := by
  have h : (u ++ r).head? ≠ some '-' := by
    obtain ⟨c, s, rfl, -⟩ := hu.head
    simpa using hu.head_ne (c := '-') (by simp)
  rw [← scanUnsigned_append hu hr]
  unfold scanLiteral
  split <;> simp_all

theorem IsNumber.scanLiteral_minus {u r : List Char} (hu : IsNumber u) (hr : NoNumberNext r) :
    scanLiteral ('-' :: (u ++ r)) = some ('-' :: u, r) := by
  simp [scanLiteral, scanUnsigned_append hu hr]

theorem isDecimal_of_mem_digitsOf {s : List Char} {c : Char} (hc : c ∈ digitsOf s) :
    isDecimal c = true :=
  List.all_eq_true.1 List.all_takeWhile c hc

theorem isDigits_of_digitsOf {s ds : List Char} {d : Char} (h : digitsOf s = d :: ds) :
    IsDigits (d :: ds) :=
  ⟨by simp, fun _ hc => isDecimal_of_mem_digitsOf (h ▸ hc)⟩

theorem isSignificand_of_scan {s t r : List Char} (h : scanSignificand s = some (t, r)) :
    IsSignificand t := by
  unfold scanSignificand at h
  split at h
  · split at h
    · cases h
    · next hd =>
      cases h
      exact .fraction (isDigits_of_digitsOf hd)
  · cases h
  · next hd _ =>
    cases h
    exact .pointed (isDigits_of_digitsOf hd) fun _ hc => isDecimal_of_mem_digitsOf hc
  · next hd _ =>
    cases h
    exact .whole (isDigits_of_digitsOf hd)

theorem scanSign_cases (s : List Char) :
    (scanSign s).1 = [] ∨ (scanSign s).1 = ['+'] ∨ (scanSign s).1 = ['-'] := by
  unfold scanSign
  split <;> simp

theorem isExponent_scanExponent (s : List Char) : IsExponent (scanExponent s).1 := by
  unfold scanExponent
  split
  · exact .absent
  · next c r =>
    split
    · next hc =>
      split
      · exact .absent
      · next hd => exact .present hc (scanSign_cases r) (isDigits_of_digitsOf hd)
    · exact .absent

theorem isNumber_of_scan {s t r : List Char} (h : scanUnsigned s = some (t, r)) : IsNumber t := by
  obtain ⟨⟨t', r'⟩, hs, he⟩ := Option.map_eq_some_iff.1 h
  cases he
  exact ⟨t', _, isSignificand_of_scan hs, isExponent_scanExponent r', rfl⟩

theorem isSignedNumber_of_scan {s t r : List Char} (h : scanLiteral s = some (t, r)) :
    IsSignedNumber t := by
  unfold scanLiteral at h
  split at h
  · obtain ⟨⟨t', r'⟩, hs, he⟩ := Option.map_eq_some_iff.1 h
    cases he
    exact .inr ⟨t', rfl, isNumber_of_scan hs⟩
  · exact .inl (isNumber_of_scan h)

theorem isLiteral_iff {s : List Char} : isLiteral s = true ↔ IsSignedNumber s := by
  constructor
  · intro h
    unfold isLiteral at h
    split at h
    · next t hs =>
      have hn := isSignedNumber_of_scan hs
      rwa [(scanLiteral_eq hs).1, List.append_nil]
    · cases h
  · rintro (hn | ⟨r, rfl, hn⟩)
    · have hs := hn.scanLiteral_append noNumberNext_nil
      rw [List.append_nil] at hs
      unfold isLiteral
      rw [hs]
    · have hs := hn.scanLiteral_minus noNumberNext_nil
      rw [List.append_nil] at hs
      unfold isLiteral
      rw [hs]

end CovertVault.Formula
