import CovertVault.Json.Basic
import CovertVault.Json.Quoted
import CovertVault.Number.Grouped

namespace CovertVault.Json
open Number Text

/-- Where two readers of JSON differ. -/
structure Reading where
  /-- Half of a surrogate pair is taken in, not refused. -/
  takesHalves : Bool
  /-- The limit on digits holds for the whole part of any number, not only for whole numbers. -/
  limitsDecimals : Bool
  /-- How many arrays and objects that hold something may lie in one another. -/
  depthLimit : Option Nat
deriving Repr, DecidableEq

inductive Token where
  | openObj | closeObj | openArr | closeArr | comma | colon
  /-- A value that is complete by itself and is not a string. -/
  | atom (v : Json)
  | str (s : List Point)

def isSpace : Point → Bool
  | .char c => c = ' ' ∨ c = '\t' ∨ c = '\n' ∨ c = '\r'
  | .half _ => false

/-- The digits at the start of a text, and what follows them. -/
def spanDigits : List Point → List Char × List Point
  | .char c :: r =>
    if isAsciiDigit c then
      let (ds, rest) := spanDigits r
      (c :: ds, rest)
    else ([], .char c :: r)
  | r => ([], r)

/-- The digits of a fraction, if one stands here, and what follows. -/
def scanFraction : List Point → List Char × List Point
  | .char '.' :: r =>
    match spanDigits r with
    | ([], _) => ([], .char '.' :: r)
    | found => found
  | s => ([], s)

def exponentSign : List Point → Bool × List Point
  | .char '+' :: r => (false, r)
  | .char '-' :: r => (true, r)
  | r => (false, r)

/-- An exponent, if a complete one stands here, and what follows. -/
def scanPower : List Point → Option Int × List Point
  | [] => (none, [])
  | p :: r =>
    let (negative, s) := exponentSign r
    match spanDigits s with
    | ([], _) => (none, p :: r)
    | (ds, rest) =>
      if p = .char 'e' ∨ p = .char 'E' then (some (signed negative (decimalValue ds)), rest)
      else (none, p :: r)

/-- Digits without a superfluous zero in front. -/
def scanWhole : List Point → Option (List Char × List Point)
  | .char '0' :: r => some (['0'], r)
  | s =>
    match spanDigits s with
    | ([], _) => none
    | found => some found

/-- A number without its sign. With a fraction or an exponent it is a decimal. -/
def scanNumber (m : Reading) (negative : Bool) (s : List Point) : Option (Json × List Point) := do
  let (whole, r) ← scanWhole s
  let (fraction, r) := scanFraction r
  let (power, r) := scanPower r
  let isWhole := fraction = [] ∧ power = none
  if digitLimit < whole.length ∧ (isWhole ∨ m.limitsDecimals) then none
  else if isWhole then some (.int (signed negative (decimalValue whole)), r)
  else
    let e := power.getD 0 - fraction.length
    some (.decimal ⟨negative, decimalValue (whole ++ fraction), e⟩, r)

/-- A word at the start of a text, and what follows it. -/
def scanWord : List Char → List Point → Option (List Point)
  | [], r => some r
  | a :: w, b :: r => if b = .char a then scanWord w r else none
  | _ :: _, [] => none

def scanAtom (m : Reading) : List Point → Option (Json × List Point)
  | .char 'n' :: r => (scanWord ['u', 'l', 'l'] r).map (Json.null, ·)
  | .char 't' :: r => (scanWord ['r', 'u', 'e'] r).map (Json.bool true, ·)
  | .char 'f' :: r => (scanWord ['a', 'l', 's', 'e'] r).map (Json.bool false, ·)
  | .char 'N' :: r => (scanWord ['a', 'N'] r).map (Json.nan, ·)
  | .char 'I' :: r => (scanWord "nfinity".toList r).map (Json.infinity false, ·)
  | .char '-' :: .char 'I' :: r => (scanWord "nfinity".toList r).map (Json.infinity true, ·)
  | .char '-' :: r => scanNumber m true r
  | r => scanNumber m false r

/-- A string behind its first quote. -/
def scanString (m : Reading) (s : List Point) : Option (Token × List Point) := do
  let (ps, rest) ← scanPieces s
  let text := joinPieces ps
  if m.takesHalves ∨ (ofPoints? text).isSome then some (.str text, rest) else none

/-- One token from a text that starts with none of the blanks, and what follows. -/
def scanToken (m : Reading) : List Point → Option (Token × List Point)
  | .char '\x7b' :: r => some (.openObj, r)
  | .char '\x7d' :: r => some (.closeObj, r)
  | .char '[' :: r => some (.openArr, r)
  | .char ']' :: r => some (.closeArr, r)
  | .char ',' :: r => some (.comma, r)
  | .char ':' :: r => some (.colon, r)
  | .char '"' :: r => scanString m r
  | s => (scanAtom m s).map fun (v, r) => (.atom v, r)

theorem length_spanDigits (s : List Point) :
    (spanDigits s).1.length + (spanDigits s).2.length = s.length := by
  fun_induction spanDigits s with
  | case1 c r _ ds rest h ih =>
    rw [h] at ih
    simp only [List.length_cons] at ih ⊢
    omega
  | case2 => simp
  | case3 => simp

theorem length_scanFraction (s : List Point) : (scanFraction s).2.length ≤ s.length := by
  unfold scanFraction
  split
  · next r =>
    have := length_spanDigits r
    split
    · exact Nat.le_refl _
    · simp only [List.length_cons]
      omega
  · exact Nat.le_refl _

theorem length_exponentSign (s : List Point) : (exponentSign s).2.length ≤ s.length := by
  unfold exponentSign
  split <;> simp

theorem length_scanPower (s : List Point) : (scanPower s).2.length ≤ s.length := by
  unfold scanPower
  split
  · exact Nat.le_refl _
  · next p r =>
    have h := length_exponentSign r
    have h' := length_spanDigits (exponentSign r).2
    dsimp only
    split
    · exact Nat.le_refl _
    · next ds rest hd =>
      rw [hd] at h'
      dsimp only at h'
      split <;> simp only [List.length_cons] <;> omega

theorem length_scanWhole {s r : List Point} {w : List Char} (h : scanWhole s = some (w, r)) :
    r.length < s.length := by
  unfold scanWhole at h
  split at h
  · simp at h; simp [h]
  · have h' := length_spanDigits s
    split at h
    · simp at h
    · next hne =>
      simp only [Option.some.injEq] at h
      rw [h] at h' hne
      have : 0 < w.length := List.length_pos_iff.2 fun hw => hne r (by rw [hw])
      dsimp only at h'
      omega

theorem length_scanNumber {m : Reading} {negative : Bool} {s r : List Point} {v : Json}
    (h : scanNumber m negative s = some (v, r)) : r.length < s.length := by
  unfold scanNumber at h
  obtain ⟨⟨w, r₁⟩, hw, h⟩ := Option.bind_eq_some_iff.1 h
  have h₁ := length_scanWhole hw
  have h₂ := length_scanFraction r₁
  have h₃ := length_scanPower (scanFraction r₁).2
  have hr : r = (scanPower (scanFraction r₁).2).2 := by
    dsimp only at h
    split at h
    · simp at h
    · split at h <;> (simp at h; exact h.2.symm)
  rw [hr]
  omega

theorem length_scanWord {w : List Char} {s r : List Point} (h : scanWord w s = some r) :
    r.length ≤ s.length := by
  induction w generalizing s with
  | nil => simp_all [scanWord]
  | cons a w ih =>
    cases s with
    | nil => simp [scanWord] at h
    | cons b s =>
      simp only [scanWord] at h
      split at h
      · exact Nat.le_succ_of_le (ih h)
      · simp at h

theorem length_scanAtom {m : Reading} {s r : List Point} {v : Json}
    (h : scanAtom m s = some (v, r)) : r.length < s.length := by
  have word : ∀ {w : List Char} {t : List Point} {x : Json},
      (scanWord w t).map (x, ·) = some (v, r) → r.length ≤ t.length := by
    intro w t x h
    obtain ⟨r', h', he⟩ := Option.map_eq_some_iff.1 h
    simp only [Prod.mk.injEq] at he
    exact he.2 ▸ length_scanWord h'
  unfold scanAtom at h
  split at h
  case h_6 => have := word h; simp only [List.length_cons]; omega
  case h_7 => have := length_scanNumber h; simp only [List.length_cons]; omega
  case h_8 => exact length_scanNumber h
  all_goals exact Nat.lt_succ_of_le (word h)

theorem length_scanString {m : Reading} {s r : List Point} {t : Token}
    (h : scanString m s = some (t, r)) : r.length < s.length := by
  unfold scanString at h
  obtain ⟨⟨ps, rest⟩, hp, h⟩ := Option.bind_eq_some_iff.1 h
  dsimp only at h
  split at h
  · simp only [Option.some.injEq, Prod.mk.injEq] at h
    exact h.2 ▸ length_scanPieces hp
  · simp at h

/-- Reading a token takes something off the text. -/
theorem length_scanToken {m : Reading} {s r : List Point} {t : Token}
    (h : scanToken m s = some (t, r)) : r.length < s.length := by
  unfold scanToken at h
  split at h
  case h_7 => exact Nat.lt_succ_of_lt (length_scanString h)
  case h_8 =>
    obtain ⟨⟨v, r'⟩, ha, h⟩ := Option.map_eq_some_iff.1 h
    simp only [Prod.mk.injEq] at h
    exact h.2 ▸ length_scanAtom ha
  all_goals simp at h; simp [← h.2]

theorem length_dropWhile_le {α : Type} (p : α → Bool) (s : List α) :
    (s.dropWhile p).length ≤ s.length := (List.dropWhile_sublist p).length_le

/-- The tokens of a text, blanks between them left out. -/
def tokens (m : Reading) (s : List Point) : Option (List Token) :=
  match hs : s.dropWhile isSpace with
  | [] => some []
  | c :: r =>
    match ht : scanToken m (c :: r) with
    | none => none
    | some (t, rest) =>
      have : rest.length < s.length :=
        Nat.lt_of_lt_of_le (length_scanToken ht) (hs ▸ length_dropWhile_le isSpace s)
      (tokens m rest).map (t :: ·)
  termination_by s.length

end CovertVault.Json
