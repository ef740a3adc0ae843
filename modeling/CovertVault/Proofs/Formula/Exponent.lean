import CovertVault.Proofs.Formula.Grammar
import CovertVault.Proofs.Formula.ResultText

namespace CovertVault.Formula
open Number Text

theorem noDigitNext_of_isDigits_append {ds ds' r r' : List Char} (hd : IsDigits ds)
    (hd' : IsDigits ds') (hr : NoDigitNext r) (hr' : NoDigitNext r') (h : ds ++ r = ds' ++ r') :
    ds = ds' ∧ r = r' := by
  have hdigits := congrArg digitsOf h
  have hafter := congrArg afterDigits h
  rw [digitsOf_append hd.2 hr, digitsOf_append hd'.2 hr'] at hdigits
  rw [afterDigits_append hd.2 hr, afterDigits_append hd'.2 hr'] at hafter
  exact ⟨hdigits, hafter⟩

theorem noDigitNext_afterDigits (s : List Char) : NoDigitNext (afterDigits s) := by
  intro c hc
  have h := List.head?_dropWhile_not isDecimal s
  rw [← afterDigits, Option.mem_def.1 hc] at h
  simpa using h

theorem digitsOf_eq_nil {r : List Char} (hr : NoDigitNext r) : digitsOf r = [] :=
  digitsOf_append (List.forall_mem_nil _) hr

/-- Behind the mark of an exponent there is a complete exponent, or none is read. -/
theorem scanExponent_mark (r : List Char) : scanExponent ('E' :: r) = ([], 'E' :: r) ∨
    ∃ sign ds rest, r = sign ++ (ds ++ rest) ∧ (sign = [] ∨ sign = ['+'] ∨ sign = ['-']) ∧
      IsDigits ds ∧ NoDigitNext rest ∧ scanExponent ('E' :: r) = ('E' :: (sign ++ ds), rest) := by
  have hr := scanSign_append r
  have hd := digitsOf_append_afterDigits (scanSign r).2
  cases h : digitsOf (scanSign r).2 with
  | nil =>
    left
    simp [scanExponent, h]
  | cons d ds =>
    right
    rw [h] at hd
    refine ⟨(scanSign r).1, d :: ds, afterDigits (scanSign r).2, ?_, scanSign_cases r,
      isDigits_of_digitsOf h, noDigitNext_afterDigits _, ?_⟩
    · rw [hd, hr]
    · simp [scanExponent, h]

/-- What goes on behind the mark of an exponent as no number does is taken for an exponent only if
it is a plus or a minus with digits behind it, and no sign stood there already. -/
theorem scanExponent_absorbs {sign r : List Char} (hs : sign = [] ∨ sign = ['+'])
    (hr : NoDigitNext r) : scanExponent ('E' :: (sign ++ r)) = ([], 'E' :: (sign ++ r)) ∨
      sign = [] ∧ ∃ c ds rest, r = c :: (ds ++ rest) ∧ (c = '+' ∨ c = '-') ∧ IsDigits ds ∧
        NoDigitNext rest ∧ scanExponent ('E' :: (sign ++ r)) = ('E' :: c :: ds, rest) := by
  have hnone {ds rest : List Char} (hd : IsDigits ds) (he : r = ds ++ rest) : False := by
    obtain ⟨d, s, hds, hdec⟩ := hd.head rest
    have hf := hr d (by rw [he, hds]; rfl)
    rw [hdec] at hf
    cases hf
  obtain h | ⟨sign', ds, rest, he, hs', hd, hrest, h⟩ := scanExponent_mark (sign ++ r)
  · exact .inl h
  obtain rfl | rfl := hs
  · obtain rfl | rfl | rfl := hs'
    · cases hnone hd he
    · exact .inr ⟨rfl, '+', ds, rest, he, .inl rfl, hd, hrest, h⟩
    · exact .inr ⟨rfl, '-', ds, rest, he, .inr rfl, hd, hrest, h⟩
  · obtain rfl | rfl | rfl := hs'
    · obtain ⟨d, s, hds, hdec⟩ := hd.head rest
      cases he.trans hds
      cases hdec
    · cases hnone hd (List.cons.inj he).2
    · cases he

/-- A text whose reading stops at something that cannot be read. -/
def Unread (u : Bool) (s : List Char) : Prop := ∀ p, ∃ err, .bad err ∈ lexFrom p u s

theorem Unread.cons {u u' : Bool} {s s' : List Char} {l : Lexeme} {k : Nat} (h : Unread u' s')
    (hs : ∀ p, lexFrom p u s = l :: lexFrom (p + k) u' s') : Unread u s := by
  intro p
  obtain ⟨err, he⟩ := h (p + k)
  exact ⟨err, by rw [hs]; exact .tail _ he⟩

theorem unread_mark {mark : Char} (hm : mark = 'e' ∨ mark = 'E') (r : List Char) :
    Unread false (mark :: r) := by
  intro p
  have h : ¬ (isAnyDigit mark = true ∨ mark = '.' ∨ mark = '-' ∧ false = true) := by
    obtain rfl | rfl := hm <;> decide
  have hs : mark ≠ ' ' ∧ mark ≠ '(' ∧ mark ≠ ')' ∧ BinOp.ofChar? mark = none := by
    obtain rfl | rfl := hm <;> decide
  refine ⟨.unexpected mark p, ?_⟩
  rw [lexFrom, if_neg hs.1, if_neg (by simp), if_neg h, if_neg hs.2.1, if_neg hs.2.2.1, hs.2.2.2]
  exact .head _

/-- A point without digits behind it. -/
theorem unread_point {r : List Char} (hr : NoDigitNext r) (u : Bool) : Unread u ('.' :: r) := by
  intro p
  have hd := digitsOf_eq_nil hr
  have hp := digitsOf_eq_nil (noDigitNext_point r)
  have ha := digitsOf_append_afterDigits ('.' :: r)
  rw [hp, List.nil_append] at ha
  have hscan : scanLiteral ('.' :: r) = none := by
    show (scanSignificand ('.' :: r)).map _ = none
    unfold scanSignificand
    rw [hp, ha]
    simp [hd]
  refine ⟨.malformedNumber p, ?_⟩
  rw [lexFrom, if_neg (by decide), if_neg (by simp), if_pos (.inr (.inl rfl))]
  split
  · exact .head _
  · next h =>
    rw [hscan] at h
    cases h

/-- A significand with the mark of an exponent behind it. -/
theorem lexFrom_significand {m : List Char} (hm : IsSignificand m) (negative : Bool) (p : Nat)
    (r : List Char) : lexFrom p true (signText negative ++ (m ++ 'E' :: r)) =
      .number (signText negative ++ (m ++ (scanExponent ('E' :: r)).1)) ::
        lexFrom (p + (signText negative ++ (m ++ (scanExponent ('E' :: r)).1)).length) false
          (scanExponent ('E' :: r)).2 := by
  have hscan : scanUnsigned (m ++ 'E' :: r) =
      some (m ++ (scanExponent ('E' :: r)).1, (scanExponent ('E' :: r)).2) := by
    unfold scanUnsigned
    rw [scanSignificand_append hm (by simp [NoDigitNext]; decide) (by simp)]
    rfl
  obtain ⟨c, m, rfl, hc⟩ := hm.isNumber.head
  cases negative with
  | true =>
    have hp : c ≠ '(' := by
      rintro rfl
      revert hc
      decide
    have hlit : scanLiteral ('-' :: (c :: m ++ 'E' :: r)) =
        some ('-' :: (c :: m ++ (scanExponent ('E' :: r)).1), (scanExponent ('E' :: r)).2) := by
      simp only [scanLiteral, hscan, Option.map_some]
    exact lexFrom_literal hlit (.inr (.inr ⟨rfl, rfl⟩)) fun _ => by simpa using hp
  | false =>
    have hm : c ≠ '-' := by
      rintro rfl
      revert hc
      decide
    have hlit : scanLiteral (c :: (m ++ 'E' :: r)) =
        some (c :: m ++ (scanExponent ('E' :: r)).1, (scanExponent ('E' :: r)).2) := by
      unfold scanLiteral
      split
      · next he => exact absurd (List.cons.inj he).1 hm
      · exact hscan
    exact lexFrom_literal hlit (hc.imp_right .inl) fun he => absurd he hm

/-- An unfinished number takes in an operator and digits, or the reading stops right behind it. -/
theorem lexFrom_unfinished {m sign : List Char} (hm : IsSignificand m)
    (hs : sign = [] ∨ sign = ['+']) {r : List Char} (hr : NoDigitNext r) (negative : Bool) :
    Unread true (signText negative ++ (m ++ 'E' :: (sign ++ r))) ∨
      sign = [] ∧ ∃ c ds rest k, r = c :: (ds ++ rest) ∧ (c = '+' ∨ c = '-') ∧ IsDigits ds ∧
        NoDigitNext rest ∧ ∀ p, lexFrom p true (signText negative ++ (m ++ 'E' :: (sign ++ r))) =
          .number (signText negative ++ (m ++ 'E' :: c :: ds)) :: lexFrom (p + k) false rest := by
  have hl := fun p => lexFrom_significand hm negative p (sign ++ r)
  obtain hx | ⟨rfl, c, ds, rest, rfl, hc, hd, hrest, hx⟩ := scanExponent_absorbs hs hr
  · rw [hx] at hl
    exact .inl ((unread_mark (.inr rfl) _).cons hl)
  · rw [hx] at hl
    exact .inr ⟨rfl, c, ds, rest, _, rfl, hc, hd, hrest, hl⟩

/-- What is left of a number behind its first digits: nothing, a number again, or what cannot be
read. -/
theorem exists_tail {v ds r rest : List Char} (hv : IsNumber v) (hr : NoNumberNext r)
    (hd : IsDigits ds) (hrest : NoDigitNext rest) (he : v ++ r = ds ++ rest) :
    ∃ tail, v = ds ++ tail ∧ rest = tail ++ r ∧ (tail = [] ∨
      (IsNumber tail ∧ tail.head? = some '.') ∨ Unread false (tail ++ r)) := by
  obtain ⟨significand, x, hs, hx, rfl⟩ := hv
  have hxr := hx.noDigitNext hr
  cases hs with
  | whole h =>
    rw [List.append_assoc] at he
    obtain ⟨rfl, rfl⟩ := noDigitNext_of_isDigits_append h hd hxr.1 hrest he
    refine ⟨x, rfl, rfl, ?_⟩
    cases hx with
    | absent => exact .inl rfl
    | present hm _ _ => exact .inr (.inr (unread_mark hm _))
  | @pointed ds' fs h hf =>
    rw [List.append_assoc, List.append_assoc, List.cons_append] at he
    obtain ⟨rfl, rfl⟩ := noDigitNext_of_isDigits_append h hd (noDigitNext_point _) hrest he
    refine ⟨'.' :: (fs ++ x), by simp, by simp, .inr ?_⟩
    cases fs with
    | nil => exact .inr (unread_point hxr.1 false)
    | cons f fs => exact .inl ⟨⟨'.' :: f :: fs, x, .fraction ⟨by simp, hf⟩, hx, rfl⟩, rfl⟩
  | fraction h =>
    obtain ⟨d, s, hds, hdec⟩ := hd.head rest
    cases he.trans hds
    cases hdec

theorem lexFrom_fraction {t r : List Char} (ht : IsNumber t) (hp : t.head? = some '.')
    (hr : NoNumberNext r) (p : Nat) (u : Bool) :
    lexFrom p u (t ++ r) = .number t :: lexFrom (p + t.length) false r := by
  have hscan := ht.scanLiteral_append hr
  cases t with
  | nil => cases hp
  | cons c t =>
    obtain rfl := Option.some.inj hp
    exact lexFrom_literal hscan (.inr (.inl rfl)) nofun

end CovertVault.Formula
