import CovertVault.Number.Decimal
import CovertVault.Text.Digit

namespace CovertVault.Formula
open Number Text

def digitsOf (s : List Char) : List Char := s.takeWhile isDecimal
def afterDigits (s : List Char) : List Char := s.dropWhile isDecimal

theorem digitsOf_append_afterDigits (s : List Char) : digitsOf s ++ afterDigits s = s :=
  List.takeWhile_append_dropWhile

/-- Digits with a point before, between or behind them, and what follows. -/
def scanSignificand (s : List Char) : Option (List Char × List Char) :=
  match digitsOf s, afterDigits s with
  | [], '.' :: r =>
    match digitsOf r with
    | [] => none
    | d :: ds => some ('.' :: d :: ds, afterDigits r)
  | [], _ => none
  | d :: ds, '.' :: r => some (d :: ds ++ '.' :: digitsOf r, afterDigits r)
  | d :: ds, r => some (d :: ds, r)

/-- A sign, if there is one, and what follows. -/
def scanSign : List Char → List Char × List Char
  | '+' :: r => (['+'], r)
  | '-' :: r => (['-'], r)
  | r => ([], r)

/-- An exponent, if a complete one stands here, and what follows. -/
def scanExponent : List Char → List Char × List Char
  | [] => ([], [])
  | c :: r =>
    if c = 'e' ∨ c = 'E' then
      match digitsOf (scanSign r).2 with
      | [] => ([], c :: r)
      | d :: ds => (c :: (scanSign r).1 ++ d :: ds, afterDigits (scanSign r).2)
    else ([], c :: r)

/-- The longest unsigned literal at the start of a text, and what follows it. -/
def scanUnsigned (s : List Char) : Option (List Char × List Char) :=
  (scanSignificand s).map fun (t, r) => (t ++ (scanExponent r).1, (scanExponent r).2)

/-- The longest literal at the start of a text, its minus included, and what follows it. -/
def scanLiteral : List Char → Option (List Char × List Char)
  | '-' :: r => (scanUnsigned r).map fun (t, rest) => ('-' :: t, rest)
  | s => scanUnsigned s

theorem scanSignificand_eq {s t r : List Char} (h : scanSignificand s = some (t, r)) :
    s = t ++ r ∧ t ≠ [] := by
  have hs := digitsOf_append_afterDigits s
  unfold scanSignificand at h
  split at h
  case h_1 r' h1 h2 =>
    have hr := digitsOf_append_afterDigits r'
    split at h
    · simp at h
    · next d ds hd =>
      simp only [Option.some.injEq, Prod.mk.injEq] at h
      obtain ⟨rfl, rfl⟩ := h
      rw [h1, h2, ← hr, hd] at hs
      exact ⟨by simpa using hs.symm, by simp⟩
  case h_2 => simp at h
  case h_3 d ds r' h1 h2 =>
    have hr := digitsOf_append_afterDigits r'
    simp only [Option.some.injEq, Prod.mk.injEq] at h
    obtain ⟨rfl, rfl⟩ := h
    rw [h1, h2] at hs
    refine ⟨?_, by simp⟩
    rw [← hs]
    simp [hr]
  case h_4 d ds h1 _ =>
    simp only [Option.some.injEq, Prod.mk.injEq] at h
    obtain ⟨rfl, rfl⟩ := h
    rw [h1] at hs
    exact ⟨hs.symm, by simp⟩

theorem scanSign_append (s : List Char) : (scanSign s).1 ++ (scanSign s).2 = s := by
  unfold scanSign; split <;> rfl

theorem scanExponent_append (s : List Char) : (scanExponent s).1 ++ (scanExponent s).2 = s := by
  unfold scanExponent
  split
  · rfl
  · next c r =>
    split
    · split
      · rfl
      · next d ds hd =>
        have h1 := scanSign_append r
        have h2 := digitsOf_append_afterDigits (scanSign r).2
        rw [hd] at h2
        show c :: (scanSign r).1 ++ d :: ds ++ afterDigits (scanSign r).2 = c :: r
        conv => rhs; rw [← h1, ← h2]
        simp
    · rfl

theorem scanUnsigned_eq {s t r : List Char} (h : scanUnsigned s = some (t, r)) :
    s = t ++ r ∧ t ≠ [] := by
  unfold scanUnsigned at h
  obtain ⟨⟨t', r'⟩, h', he⟩ := Option.map_eq_some_iff.1 h
  simp only [Prod.mk.injEq] at he
  obtain ⟨rfl, rfl⟩ := he
  obtain ⟨hs, ht⟩ := scanSignificand_eq h'
  refine ⟨?_, by simp [ht]⟩
  rw [hs, List.append_assoc, scanExponent_append]

/-- A literal and what follows it are the text that was scanned. -/
theorem scanLiteral_eq {s t r : List Char} (h : scanLiteral s = some (t, r)) :
    s = t ++ r ∧ t ≠ [] := by
  unfold scanLiteral at h
  split at h
  · obtain ⟨⟨t', r'⟩, h', he⟩ := Option.map_eq_some_iff.1 h
    simp only [Prod.mk.injEq] at he
    obtain ⟨rfl, rfl⟩ := he
    obtain ⟨rfl, _⟩ := scanUnsigned_eq h'
    exact ⟨rfl, by simp⟩
  · exact scanUnsigned_eq h

theorem length_scanLiteral {s t r : List Char} (h : scanLiteral s = some (t, r)) :
    r.length < s.length := by
  obtain ⟨rfl, ht⟩ := scanLiteral_eq h
  have := List.length_pos_iff.2 ht
  simp only [List.length_append]
  omega

/-- A text that is one literal from end to end. -/
def isLiteral (s : List Char) : Bool :=
  match scanLiteral s with
  | some (_, []) => true
  | _ => false

/-- Value of an exponent part, zero when there is none. -/
def exponentValue : List Char → Int
  | [] => 0
  | _ :: r =>
    match scanSign r with
    | (['-'], ds) => -decimalValue ds
    | (_, ds) => decimalValue ds

def unsignedValue (negative : Bool) (s : List Char) : Decimal :=
  let r := afterDigits s
  match r with
  | '.' :: r =>
    ⟨negative, decimalValue (digitsOf s ++ digitsOf r),
      exponentValue (afterDigits r) - (digitsOf r).length⟩
  | _ => ⟨negative, decimalValue (digitsOf s), exponentValue r⟩

/-- The decimal number that a literal writes. -/
def literalDecimal : List Char → Decimal
  | '-' :: s => unsignedValue true s
  | s => unsignedValue false s

/-- The binary64 nearest to what a literal writes. -/
def literalValue (s : List Char) : Float := (literalDecimal s).toFloat

end CovertVault.Formula
