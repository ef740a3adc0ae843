import CovertVault.Json.Token
import CovertVault.Json.Writer
import CovertVault.Proofs.Json.Quoted

namespace CovertVault.Json
open Number Text

variable (m : Reading)

/-- Nothing is left, or what follows a value in an array or an object. -/
def Stops (r : List Point) : Prop :=
  ∀ p ∈ r.head?, p = .char ',' ∨ p = .char ']' ∨ p = .char '\x7d'

theorem stops_nil : Stops [] := by simp [Stops]

theorem stops_comma (r : List Point) : Stops (.char ',' :: r) := by simp [Stops]

theorem stops_closeArr (r : List Point) : Stops (.char ']' :: r) := by simp [Stops]

theorem stops_closeObj (r : List Point) : Stops (.char '\x7d' :: r) := by simp [Stops]

theorem spanDigits_append {ds : List Char} {r : List Point}
    (h : ∀ c ∈ ds, isAsciiDigit c = true) (hr : Stops r) :
    spanDigits (ds.map .char ++ r) = (ds, r) := by
  induction ds with
  | nil =>
    rcases r with _ | ⟨p, r⟩
    · rfl
    · rcases hr p rfl with rfl | rfl | rfl <;> rfl
  | cons c ds ih =>
    have hd := ih fun d hd => h d (by simp [hd])
    simp [spanDigits, h c (by simp), hd]

theorem scanFraction_stops {r : List Point} (hr : Stops r) : scanFraction r = ([], r) := by
  rcases r with _ | ⟨p, r⟩
  · rfl
  · rcases hr p rfl with rfl | rfl | rfl <;> rfl

theorem scanPower_stops {r : List Point} (hr : Stops r) : scanPower r = (none, r) := by
  rcases r with _ | ⟨p, r⟩
  · rfl
  · have hp : ¬(p = .char 'e' ∨ p = .char 'E') := by
      rcases hr p rfl with rfl | rfl | rfl <;> decide
    unfold scanPower
    dsimp only
    split
    · rfl
    · rw [if_neg hp]

theorem exists_natText (n : Nat) :
    ∃ c ds, natText n = c :: ds ∧ isAsciiDigit c = true := by
  obtain ⟨c, ds, h⟩ := List.exists_cons_of_ne_nil (natText_ne_nil n)
  exact ⟨c, ds, h, isAsciiDigit_of_mem_natText (n := n) (h ▸ List.mem_cons_self)⟩

theorem scanWhole_natText (n : Nat) {r : List Point} (hr : Stops r) :
    scanWhole ((natText n).map .char ++ r) = some (natText n, r) := by
  have hs := spanDigits_append (fun _ => isAsciiDigit_of_mem_natText (n := n)) hr
  obtain ⟨c, ds, hn, -⟩ := exists_natText n
  -- A zero is taken by itself, which is right only because no number is written with one in front.
  by_cases hc : c = '0'
  · subst hc
    have hz : ds = [] := natText_zero_cons hn
    rw [hn, hz]
    rfl
  · rw [hn] at hs ⊢
    rw [List.map_cons, List.cons_append] at hs ⊢
    rw [scanWhole, hs]
    simpa using hc

theorem scanNumber_natText (negative : Bool) {n : Nat} (hn : (natText n).length ≤ digitLimit)
    {r : List Point} (hr : Stops r) :
    scanNumber m negative ((natText n).map .char ++ r) = some (.int (signed negative n), r) := by
  have hl : ¬digitLimit < (natText n).length := Nat.not_lt.2 hn
  rw [scanNumber, scanWhole_natText n hr]
  simp [scanFraction_stops hr, scanPower_stops hr, hl, decimalValue_natText]

theorem scanToken_digit {c : Char} (h : isAsciiDigit c = true) (r : List Point) :
    scanToken m (.char c :: r) =
      (scanNumber m false (.char c :: r)).map fun v => (.atom v.1, v.2) := by
  have hne {d : Char} (hd : isAsciiDigit d = false) : c ≠ d := by
    rintro rfl
    simp [h] at hd
  have ha : scanAtom m (.char c :: r) = scanNumber m false (.char c :: r) := by
    unfold scanAtom
    split
    case h_8 => rfl
    all_goals
      next he => cases he; exact absurd rfl (hne (by decide))
  unfold scanToken
  split
  case h_8 => rw [ha]
  all_goals
    next he => cases he; exact absurd rfl (hne (by decide))

theorem scanToken_minus {c : Char} (h : isAsciiDigit c = true) (r : List Point) :
    scanToken m (.char '-' :: .char c :: r) =
      (scanNumber m true (.char c :: r)).map fun v => (.atom v.1, v.2) := by
  have hc : c ≠ 'I' := by
    rintro rfl
    simp [isAsciiDigit] at h
  have ha : scanAtom m (.char '-' :: .char c :: r) = scanNumber m true (.char c :: r) := by
    rw [scanAtom]
    simpa using hc
  show (scanAtom m (.char '-' :: .char c :: r)).map _ = _
  rw [ha]

theorem scanToken_intText {n : Int} (hn : (natText n.natAbs).length ≤ digitLimit)
    {r : List Point} (hr : Stops r) :
    scanToken m ((intText n).map .char ++ r) = some (.atom (.int n), r) := by
  obtain ⟨c, ds, hc, hd⟩ := exists_natText n.natAbs
  have hs (negative : Bool) := scanNumber_natText m negative hn hr
  simp only [hc, List.map_cons, List.cons_append] at hs
  unfold intText
  split
  · next hneg =>
    have hv : signed true n.natAbs = n := by
      simp only [signed, if_true]
      omega
    rw [hc, List.map_cons, List.map_cons, List.cons_append, List.cons_append, scanToken_minus m hd,
      hs, hv]
    rfl
  · next hpos =>
    have hv : signed false n.natAbs = n := by
      simp only [signed, Bool.false_eq_true, if_false]
      omega
    rw [hc, List.map_cons, List.cons_append, scanToken_digit m hd, hs, hv]
    rfl

theorem scanToken_writeString (s : String) (r : List Point) :
    scanToken m ((writeString s.toList).map .char ++ r) = some (.str (points s), r) := by
  obtain ⟨ps, hp, hj⟩ := scanPieces_written s.toList r
  have hs : scanString m ((s.toList.flatMap writeChar).map .char ++ .char '"' :: r) =
      some (.str (points s), r) := by
    rw [scanString, hp]
    simp [hj, ofPoints?_chars, points]
  rw [← hs]
  simp [writeString, scanToken]

end CovertVault.Json
