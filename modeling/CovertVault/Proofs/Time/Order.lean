import CovertVault.Proofs.Number.Digits
import CovertVault.Time.Stamp
import Mathlib.Algebra.GroupWithZero.Nat
import Mathlib.Data.String.Basic

namespace CovertVault.Time
open Number

/-- From `lo` up to below `hi`, texts of one length that rise with their number. -/
structure Rising (write : Nat → List Char) (lo hi : Nat) : Prop where
  length : ∀ m n, lo ≤ m → m < hi → lo ≤ n → n < hi → (write m).length = (write n).length
  lt : ∀ m n, lo ≤ m → m < n → n < hi → write m < write n

theorem append_lt_append {a b : List Char} (h : a < b) (hl : a.length = b.length)
    (c d : List Char) : a ++ c < b ++ d := by
  induction a generalizing b with
  | nil =>
    obtain rfl := List.length_eq_zero_iff.1 hl.symm
    exact absurd h (List.lt_irrefl _)
  | cons x a ih =>
    cases b with
    | nil => cases hl
    | cons y b =>
      -- The first difference lies in the parts in front, since they are equally long.
      obtain hx | ⟨rfl, hab⟩ := List.cons_lt_cons_iff.1 h
      · exact List.cons_lt_cons_iff.2 (.inl hx)
      · exact List.cons_lt_cons_iff.2 (.inr ⟨rfl, ih hab (Nat.succ.inj hl)⟩)

variable {write low : Nat → List Char} {lo hi b : Nat}

/-- A number written as a high part and a low part. -/
theorem Rising.place (h : Rising write lo hi) (hl : Rising low 0 b) (hb : 0 < b) :
    Rising (fun n => write (n / b) ++ low (n % b)) (lo * b) (hi * b) where
  length m n hm hm' hn hn' := by
    have hlo := hl.length (m % b) (n % b) (Nat.zero_le _) (Nat.mod_lt m hb) (Nat.zero_le _)
      (Nat.mod_lt n hb)
    have hhi := h.length (m / b) (n / b) ((Nat.le_div_iff_mul_le hb).2 hm)
      ((Nat.div_lt_iff_lt_mul hb).2 hm') ((Nat.le_div_iff_mul_le hb).2 hn)
      ((Nat.div_lt_iff_lt_mul hb).2 hn')
    rw [List.length_append, List.length_append, hhi, hlo]
  lt m n hm hmn hn := by
    have hm' : lo ≤ m / b := (Nat.le_div_iff_mul_le hb).2 hm
    have hn' : n / b < hi := (Nat.div_lt_iff_lt_mul hb).2 hn
    obtain hd | hd := Nat.eq_or_lt_of_le (Nat.div_le_div_right (c := b) (Nat.le_of_lt hmn))
    · -- The high parts are the same, so the low parts decide.
      have hmod : m % b < n % b := by
        have hm := Nat.div_add_mod m b
        have hn := Nat.div_add_mod n b
        rw [hd] at hm
        omega
      rw [hd]
      exact List.append_left_lt (hl.lt _ _ (Nat.zero_le _) hmod (Nat.mod_lt n hb))
    · exact append_lt_append (h.lt _ _ hm' hd hn')
        (h.length _ _ hm' (hd.trans hn') (hm'.trans (Nat.le_of_lt hd)) hn') _ _

theorem Rising.congr (h : Rising write lo hi) {write' : Nat → List Char}
    (he : ∀ n, lo ≤ n → n < hi → write' n = write n) : Rising write' lo hi where
  length m n hm hm' hn hn' := by
    rw [he m hm hm', he n hn hn']
    exact h.length m n hm hm' hn hn'
  lt m n hm hmn hn := by
    rw [he m hm (hmn.trans hn), he n (hm.trans (Nat.le_of_lt hmn)) hn]
    exact h.lt m n hm hmn hn

/-- With a sign in front. -/
theorem Rising.behind (h : Rising write lo hi) (c : Char) :
    Rising (fun n => c :: write n) lo hi where
  length m n hm hm' hn hn' := congrArg Nat.succ (h.length m n hm hm' hn hn')
  lt m n hm hmn hn := List.cons_lt_cons_iff.2 (.inr ⟨rfl, h.lt m n hm hmn hn⟩)

theorem Rising.le (h : Rising write lo hi) {m n : Nat} (hm : lo ≤ m) (hmn : m ≤ n) (hn : n < hi) :
    write m = write n ∨ write m < write n :=
  (Nat.eq_or_lt_of_le hmn).imp (congrArg write) fun hlt => h.lt m n hm hlt hn

theorem Rising.mono (h : Rising write lo hi) {lo' hi' : Nat} (hlo : lo ≤ lo') (hhi : hi' ≤ hi) :
    Rising write lo' hi' where
  length m n hm hm' hn hn' :=
    h.length m n (hlo.trans hm) (hm'.trans_le hhi) (hlo.trans hn) (hn'.trans_le hhi)
  lt m n hm hmn hn := h.lt m n (hlo.trans hm) hmn (hn.trans_le hhi)

theorem rising_digit : Rising (fun d => [Nat.digitChar d]) 0 10 where
  length _ _ _ _ _ _ := rfl
  lt m n _ hmn hn := by
    have h : ∀ n < 10, ∀ m < n, Nat.digitChar m < Nat.digitChar n := by decide
    exact List.cons_lt_cons_iff.2 (.inl (h n hn m hmn))

/-- Numbers of four digits. -/
theorem rising_natText : Rising natText 1000 10000 := by
  have hp {lo hi : Nat} (h : Rising natText lo hi) (hlo : 0 < lo) :
      Rising natText (lo * 10) (hi * 10) :=
    (h.place rising_digit (by decide)).congr fun n hn _ =>
      Nat.toDigits_of_base_le (by decide) (by omega)
  have h1 : Rising natText 1 10 := (rising_digit.mono (Nat.zero_le _) (Nat.le_refl _)).congr
    fun n _ hn => Nat.toDigits_of_lt_base hn
  exact hp (hp (hp h1 (by decide)) (by decide)) (by decide)

/-- Numbers of two digits, perhaps with a zero in front. -/
theorem rising_paddedText : Rising (paddedText 2) 0 100 :=
  (rising_digit.place rising_digit (by decide)).congr fun n _ hn => by
    revert n
    decide

theorem yearStart_yearOf (day : Int) :
    yearStart (yearOf day) ≤ day ∧ day < yearStart (yearOf day + 1) := by
  unfold yearOf
  dsimp only
  unfold yearStart
  split
  · omega
  · split
    · omega
    · omega

theorem yearStart_mono {y y' : Int} (h : y ≤ y') : yearStart y ≤ yearStart y' := by
  unfold yearStart
  omega

theorem yearOf_mono {day day' : Int} (h : day ≤ day') : yearOf day ≤ yearOf day' := by
  have hd := yearStart_yearOf day
  have hd' := yearStart_yearOf day'
  by_contra hn
  have hy : yearOf day' + 1 ≤ yearOf day := by omega
  have := yearStart_mono hy
  omega

theorem sum_monthLengths (y : Int) :
    ((monthLengths y).sum : Int) = yearStart (y + 1) - yearStart y := by
  unfold monthLengths isLeap
  by_cases h : yearStart (y + 1) - yearStart y = 366
  · simp [h]
  · have : yearStart (y + 1) - yearStart y = 365 := by
      revert h
      unfold yearStart
      omega
    simp [this]

theorem le_of_mem_monthLengths {y : Int} {n : Nat} (h : n ∈ monthLengths y) : n ≤ 31 := by
  unfold monthLengths at h
  cases hy : isLeap y <;> simp [hy] at h <;> omega

/-- Month and day of the month as one number. -/
def monthKey (md : Nat × Nat) : Nat := md.1 * 100 + md.2

/-- The days of the months that are left over. -/
theorem monthDay_bounds {lengths : List Nat} (hl : ∀ n ∈ lengths, n ≤ 31) (month day : Nat)
    (hd : day < lengths.sum) :
    month ≤ (monthDay lengths month day).1 ∧
      (monthDay lengths month day).1 < month + lengths.length ∧
      1 ≤ (monthDay lengths month day).2 ∧ (monthDay lengths month day).2 ≤ 31 := by
  induction lengths generalizing month day with
  | nil => simp at hd
  | cons n rest ih =>
    have hn := hl n List.mem_cons_self
    rw [List.sum_cons] at hd
    unfold monthDay
    rw [List.length_cons]
    split
    · dsimp only
      omega
    · have := ih (fun k hk => hl k (List.mem_cons_of_mem _ hk)) (month + 1) (day - n) (by omega)
      omega

theorem monthKey_lt {lengths : List Nat} (hl : ∀ n ∈ lengths, n ≤ 31) (month : Nat)
    {day day' : Nat} (h : day < day') (hd : day' < lengths.sum) :
    monthKey (monthDay lengths month day) < monthKey (monthDay lengths month day') := by
  induction lengths generalizing month day day' with
  | nil => simp at hd
  | cons n rest ih =>
    have hn := hl n List.mem_cons_self
    have hr : ∀ k ∈ rest, k ≤ 31 := fun k hk => hl k (List.mem_cons_of_mem _ hk)
    rw [List.sum_cons] at hd
    unfold monthDay
    split
    · split
      · unfold monthKey
        dsimp only
        omega
      · -- The earlier day is in this month, the later one is not.
        have := monthDay_bounds hr (month + 1) (day' - n) (by omega)
        unfold monthKey
        dsimp only
        omega
    · rw [if_neg (by omega)]
      exact ih hr (month + 1) (by omega) (by omega)

/-- Year, month and day of the month as one number. -/
def dateKey (day : Int) : Nat :=
  (yearOf day).toNat * 10000 +
    monthKey (monthDay (monthLengths (yearOf day)) 1 (day - yearStart (yearOf day)).toNat)

theorem dayOfYear_lt (day : Int) :
    (day - yearStart (yearOf day)).toNat < (monthLengths (yearOf day)).sum := by
  have hs := sum_monthLengths (yearOf day)
  have hd := yearStart_yearOf day
  omega

/-- No month is beyond the twelfth, and no day beyond the thirty-first. -/
theorem monthDay_yearOf (day : Int) :
    (monthDay (monthLengths (yearOf day)) 1 (day - yearStart (yearOf day)).toNat).1 ≤ 12 ∧
      (monthDay (monthLengths (yearOf day)) 1 (day - yearStart (yearOf day)).toNat).2 ≤ 31 := by
  have h := monthDay_bounds (fun n => le_of_mem_monthLengths (y := yearOf day)) 1 _
    (dayOfYear_lt day)
  have hl : (monthLengths (yearOf day)).length = 12 := rfl
  omega

theorem dateKey_lt {day day' : Int} (h : day < day') (hy : 0 ≤ yearOf day) :
    dateKey day < dateKey day' := by
  have hd := yearStart_yearOf day
  have hm := monthDay_yearOf day
  unfold dateKey
  obtain hlt | he := Int.lt_or_eq_of_le (yearOf_mono (Int.le_of_lt h))
  · unfold monthKey
    omega
  · have hl : (day - yearStart (yearOf day)).toNat < (day' - yearStart (yearOf day)).toNat := by
      omega
    have hk := monthKey_lt (fun n => le_of_mem_monthLengths (y := yearOf day)) 1 hl
      (by rw [he]; exact dayOfYear_lt day')
    rw [← he]
    omega

/-- Hour, minute and second as one number. -/
def timeKey (t : DateTime) : Nat := (t.hour * 100 + t.minute) * 100 + t.second

/-- All parts as one number. -/
def DateTime.key (t : DateTime) : Nat :=
  ((((t.year.toNat * 100 + t.month) * 100 + t.day) * 100 + t.hour) * 100 + t.minute) * 100 +
    t.second

/-- All parts but the year have two digits at most. -/
structure DateTime.InDigits (t : DateTime) : Prop where
  month : t.month < 100
  day : t.day < 100
  hour : t.hour < 100
  minute : t.minute < 100
  second : t.second < 100

theorem inDigits_dateTime (seconds : Int) : (dateTime seconds).InDigits := by
  have hm := monthDay_yearOf (seconds / secondsPerDay + epochDay)
  have hr : (seconds % secondsPerDay).toNat < 86400 := by
    unfold secondsPerDay
    omega
  constructor <;> simp only [dateTime] <;> omega

theorem key_dateTime (seconds : Int) :
    (dateTime seconds).key =
      dateKey (seconds / secondsPerDay + epochDay) * 1000000 + timeKey (dateTime seconds) := by
  unfold DateTime.key timeKey dateKey monthKey dateTime
  dsimp only
  omega

theorem timeKey_lt (seconds : Int) : timeKey (dateTime seconds) < 1000000 := by
  have hd := inDigits_dateTime seconds
  have := hd.hour
  have := hd.minute
  have := hd.second
  unfold timeKey
  omega

theorem timeKey_mono {r r' : Nat} (h : r ≤ r') :
    (r / 3600 * 100 + r / 60 % 60) * 100 + r % 60 ≤
      (r' / 3600 * 100 + r' / 60 % 60) * 100 + r' % 60 := by
  rw [show r / 3600 = r / 60 / 60 from (Nat.div_div_eq_div_mul r 60 60).symm,
    show r' / 3600 = r' / 60 / 60 from (Nat.div_div_eq_div_mul r' 60 60).symm]
  have hq : r / 60 ≤ r' / 60 := Nat.div_le_div_right h
  have hr := Nat.div_add_mod r 60
  have hr' := Nat.div_add_mod r' 60
  generalize r / 60 = q at *
  generalize r' / 60 = q' at *
  omega

/-- Later moments do not have smaller keys. -/
theorem key_mono {seconds seconds' : Int} (h : seconds ≤ seconds')
    (hy : 0 ≤ (dateTime seconds).year) :
    (dateTime seconds).key ≤ (dateTime seconds').key := by
  have hlt := timeKey_lt seconds
  rw [key_dateTime, key_dateTime]
  obtain hd | hd : seconds / secondsPerDay < seconds' / secondsPerDay ∨
      seconds / secondsPerDay = seconds' / secondsPerDay := by
    unfold secondsPerDay
    omega
  · have hn : seconds / secondsPerDay + epochDay < seconds' / secondsPerDay + epochDay := by omega
    have := dateKey_lt hn hy
    omega
  · have ht : timeKey (dateTime seconds) ≤ timeKey (dateTime seconds') := by
      refine timeKey_mono (Int.toNat_le_toNat ?_)
      unfold secondsPerDay at hd ⊢
      omega
    rw [hd]
    omega

/-- One more part of two digits behind a sign. -/
def withPart (write : Nat → List Char) (sign : Char) (n : Nat) : List Char :=
  write (n / 100) ++ sign :: paddedText 2 (n % 100)

theorem Rising.withPart (h : Rising write lo hi) (sign : Char) :
    Rising (withPart write sign) (lo * 100) (hi * 100) :=
  h.place (rising_paddedText.behind sign) (by decide)

theorem withPart_eq (write : Nat → List Char) (sign : Char) {m n : Nat} (hn : n < 100) :
    withPart write sign (m * 100 + n) = write m ++ sign :: paddedText 2 n := by
  unfold withPart
  rw [show (m * 100 + n) / 100 = m by omega, show (m * 100 + n) % 100 = n by omega]

/-- The time stamp of all parts as one number. -/
def keyText : Nat → List Char :=
  withPart (withPart (withPart (withPart (withPart natText '-') '-') ' ') ':') ':'

theorem rising_keyText : Rising keyText 10000000000000 100000000000000 :=
  ((((rising_natText.withPart '-').withPart '-').withPart ' ').withPart ':').withPart ':'

theorem text_eq_keyText {t : DateTime} (ht : t.InDigits) (hy : 0 ≤ t.year) :
    t.text = String.ofList (keyText t.key) := by
  have hi : intText t.year = natText t.year.toNat := by
    unfold intText
    rw [if_neg (by omega), show t.year.natAbs = t.year.toNat by omega]
  unfold DateTime.text DateTime.key keyText
  rw [withPart_eq _ _ ht.second, withPart_eq _ _ ht.minute, withPart_eq _ _ ht.hour,
    withPart_eq _ _ ht.day, withPart_eq _ _ ht.month, hi]

/-- Moments whose years have four digits. -/
def FourDigitYear (seconds : Int) : Prop :=
  1000 ≤ (dateTime seconds).year ∧ (dateTime seconds).year ≤ 9999

theorem text_mono {seconds seconds' : Int} (h : seconds ≤ seconds') (hs : FourDigitYear seconds)
    (hs' : FourDigitYear seconds') :
    (dateTime seconds).text = (dateTime seconds').text ∨
      (dateTime seconds).text < (dateTime seconds').text := by
  obtain ⟨hlo, -⟩ := hs
  obtain ⟨hlo', hhi'⟩ := hs'
  have hd := inDigits_dateTime seconds
  have hd' := inDigits_dateTime seconds'
  have hk : 10000000000000 ≤ (dateTime seconds).key := by
    unfold DateTime.key
    omega
  have hk' : (dateTime seconds').key < 100000000000000 := by
    obtain ⟨_, _, _, _, _⟩ := hd'
    unfold DateTime.key
    omega
  rw [text_eq_keyText hd (by omega), text_eq_keyText hd' (by omega)]
  refine (rising_keyText.le hk (key_mono h (by omega)) hk').imp (congrArg _) fun hlt => ?_
  rw [String.lt_iff_toList_lt, String.toList_ofList, String.toList_ofList]
  exact hlt

theorem presentOfMillis_ok {ms : Int} {stamp : String} (h : presentOfMillis ms = .ok stamp) :
    stamp = (dateTime (ms / 1000)).text := by
  unfold presentOfMillis at h
  dsimp only at h
  split at h
  · cases h
  · unfold stampOfSeconds at h
    dsimp only at h
    split at h
    · cases h
    · split at h
      · cases h
      · exact (Except.ok.inj h).symm

/-- A later moment has the same time stamp or one behind it. -/
theorem stamp_mono {ms ms' : Int} {stamp stamp' : String} (h : ms ≤ ms')
    (hs : presentOfMillis ms = .ok stamp) (hs' : presentOfMillis ms' = .ok stamp')
    (hy : FourDigitYear (ms / 1000)) (hy' : FourDigitYear (ms' / 1000)) :
    stamp = stamp' ∨ stamp < stamp' := by
  rw [presentOfMillis_ok hs, presentOfMillis_ok hs']
  exact text_mono (Int.ediv_le_ediv (by decide) h) hy hy'

end CovertVault.Time
