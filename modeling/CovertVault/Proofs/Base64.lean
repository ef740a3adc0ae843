import CovertVault.Base64
import CovertVault.Proofs.Text.Ascii

namespace CovertVault

namespace Base64
open Text

/-- The byte of a digit in the standard alphabet. -/
def digitByte (n : Nat) : UInt8 := UInt8.ofNat (digit standard n).toNat

theorem digit_lt (n : Nat) (h : n < 64) :
    (digit standard n).toNat < 128 ∧ (digit urlSafe n).toNat < 128 := by
  have hd : ∀ n : Fin 64, (digit standard n).toNat < 128 ∧ (digit urlSafe n).toNat < 128 := by
    decide +kernel
  exact hd ⟨n, h⟩

theorem value?_digitByte (n : Nat) (h : n < 64) :
    value? (digitByte n) = some n ∧ digitByte n ≠ padding := by
  have hd : ∀ n : Fin 64, value? (digitByte n) = some n.val ∧ digitByte n ≠ padding := by
    decide +kernel
  exact hd ⟨n, h⟩

theorem toStandard_digit (n : Nat) (h : n < 64) :
    toStandard (UInt8.ofNat (digit urlSafe n).toNat) = digitByte n := by
  have hd : ∀ n : Fin 64, toStandard (UInt8.ofNat (digit urlSafe n).toNat) = digitByte n := by
    decide +kernel
  exact hd ⟨n, h⟩

theorem digits_lt (x y z : UInt8) :
    x.toNat / 4 < 64 ∧ x.toNat % 4 * 16 + y.toNat / 16 < 64 ∧ x.toNat % 4 * 16 < 64 ∧
      y.toNat % 16 * 4 + z.toNat / 64 < 64 ∧ y.toNat % 16 * 4 < 64 ∧ z.toNat % 64 < 64 := by
  have hx := x.toNat_lt
  have hy := y.toNat_lt
  have hz := z.toNat_lt
  omega

theorem utf8_digit {n : Nat} (s : List Char) (h : n < 64) :
    Bytes.utf8 (digit standard n :: s) = digitByte n :: Bytes.utf8 s :=
  Bytes.utf8_cons_of_lt s (digit_lt n h).1

theorem map_toStandard_digit {n : Nat} (s : List Char) (h : n < 64) :
    (Bytes.utf8 (digit urlSafe n :: s)).map toStandard =
      digitByte n :: (Bytes.utf8 s).map toStandard := by
  rw [Bytes.utf8_cons_of_lt s (digit_lt n h).2, List.map_cons, toStandard_digit n h]

/-- The two alphabets differ in nothing but what `toStandard` brings together. -/
theorem map_toStandard_encode (bs : Bytes) :
    (Bytes.utf8 (encode urlSafe bs)).map toStandard = Bytes.utf8 (encode standard bs) := by
  fun_induction encode urlSafe bs with
  | case1 => rfl
  | case2 x =>
    obtain ⟨h₁, -, h₂, -⟩ := digits_lt x 0 0
    rw [map_toStandard_digit _ h₁, map_toStandard_digit _ h₂, encode, utf8_digit _ h₁,
      utf8_digit _ h₂]
    rfl
  | case3 x y =>
    obtain ⟨h₁, h₂, -, -, h₃, -⟩ := digits_lt x y 0
    rw [map_toStandard_digit _ h₁, map_toStandard_digit _ h₂, map_toStandard_digit _ h₃, encode,
      utf8_digit _ h₁, utf8_digit _ h₂, utf8_digit _ h₃]
    rfl
  | case4 x y z r ih =>
    obtain ⟨h₁, h₂, -, h₃, -, h₄⟩ := digits_lt x y z
    rw [map_toStandard_digit _ h₁, map_toStandard_digit _ h₂, map_toStandard_digit _ h₃,
      map_toStandard_digit _ h₄, encode, utf8_digit _ h₁, utf8_digit _ h₂, utf8_digit _ h₃,
      utf8_digit _ h₄, ih]

theorem ascii_encode (bs : Bytes) : Ascii (encode standard bs) := by
  have hp : '='.toNat < 128 := by decide
  fun_induction encode standard bs with
  | case1 => exact ascii_nil
  | case2 x =>
    obtain ⟨h₁, -, h₂, -⟩ := digits_lt x 0 0
    simp only [ascii_cons, ascii_nil, (digit_lt _ h₁).1, (digit_lt _ h₂).1, hp, and_true]
  | case3 x y =>
    obtain ⟨h₁, h₂, -, -, h₃, -⟩ := digits_lt x y 0
    simp only [ascii_cons, ascii_nil, (digit_lt _ h₁).1, (digit_lt _ h₂).1, (digit_lt _ h₃).1, hp,
      and_true]
  | case4 x y z r ih =>
    obtain ⟨h₁, h₂, -, h₃, -, h₄⟩ := digits_lt x y z
    simp only [ascii_cons, (digit_lt _ h₁).1, (digit_lt _ h₂).1, (digit_lt _ h₃).1,
      (digit_lt _ h₄).1, ih, and_true]

theorem ofNat_join {a b : Nat} {x : UInt8} (h : a + b = x.toNat) : UInt8.ofNat (a + b) = x := by
  rw [h, UInt8.ofNat_toNat]

theorem decodeFrom_digit (place left pads : Nat) (r : Bytes) {n : Nat} (h : n < 64) :
    decodeFrom place left pads (digitByte n :: r) =
      match place with
      | 0 => decodeFrom 1 n 0 r
      | 1 => (decodeFrom 2 (n % 16) 0 r).map (UInt8.ofNat (left * 4 + n / 16) :: ·)
      | 2 => (decodeFrom 3 (n % 4) 0 r).map (UInt8.ofNat (left * 16 + n / 4) :: ·)
      | _ => (decodeFrom 0 0 0 r).map (UInt8.ofNat (left * 64 + n) :: ·) := by
  obtain ⟨hv, hp⟩ := value?_digitByte n h
  rcases place with _ | _ | _ | place <;> simp only [decodeFrom, if_neg hp, hv]

/-- One character of padding closes a group of three digits, two close a group of two. -/
theorem decodeFrom_padding (left : Nat) :
    decodeFrom 3 left 0 (Bytes.utf8 ['=']) = some [] ∧
      decodeFrom 2 left 0 (Bytes.utf8 ['=', '=']) = some [] :=
  ⟨rfl, rfl⟩

theorem decode?_encode (bs : Bytes) : decode? (Bytes.utf8 (encode standard bs)) = some bs := by
  show decodeFrom 0 0 0 _ = _
  -- Between two groups nothing is left over, so the rest is read as from the start.
  fun_induction encode standard bs with
  | case1 => rfl
  | case2 x =>
    obtain ⟨h₁, -, h₂, -⟩ := digits_lt x 0 0
    have hx : UInt8.ofNat (x.toNat / 4 * 4 + x.toNat % 4 * 16 / 16) = x :=
      ofNat_join (by omega)
    rw [utf8_digit _ h₁, utf8_digit _ h₂]
    simp only [decodeFrom_digit, h₁, h₂, hx, decodeFrom_padding, Option.map_some]
  | case3 x y =>
    obtain ⟨h₁, h₂, -, -, h₃, -⟩ := digits_lt x y 0
    have hy := y.toNat_lt
    have hx : UInt8.ofNat (x.toNat / 4 * 4 + (x.toNat % 4 * 16 + y.toNat / 16) / 16) = x :=
      ofNat_join (by omega)
    have hy : UInt8.ofNat ((x.toNat % 4 * 16 + y.toNat / 16) % 16 * 16 +
        y.toNat % 16 * 4 / 4) = y :=
      ofNat_join (by omega)
    rw [utf8_digit _ h₁, utf8_digit _ h₂, utf8_digit _ h₃]
    simp only [decodeFrom_digit, h₁, h₂, h₃, hx, hy, decodeFrom_padding, Option.map_some]
  | case4 x y z r ih =>
    obtain ⟨h₁, h₂, -, h₃, -, h₄⟩ := digits_lt x y z
    have hy := y.toNat_lt
    have hz := z.toNat_lt
    have hx : UInt8.ofNat (x.toNat / 4 * 4 + (x.toNat % 4 * 16 + y.toNat / 16) / 16) = x :=
      ofNat_join (by omega)
    have hy : UInt8.ofNat ((x.toNat % 4 * 16 + y.toNat / 16) % 16 * 16 +
        (y.toNat % 16 * 4 + z.toNat / 64) / 4) = y :=
      ofNat_join (by omega)
    have hz : UInt8.ofNat ((y.toNat % 16 * 4 + z.toNat / 64) % 4 * 64 + z.toNat % 64) = z :=
      ofNat_join (by omega)
    rw [utf8_digit _ h₁, utf8_digit _ h₂, utf8_digit _ h₃, utf8_digit _ h₄]
    simp only [decodeFrom_digit, h₁, h₂, h₃, h₄, hx, hy, hz, ih, Option.map_some]

theorem decodeUrlSafe?_encode (bs : Bytes) :
    decodeUrlSafe? (Bytes.utf8 (encode urlSafe bs)) = some bs := by
  rw [decodeUrlSafe?, map_toStandard_encode, decode?_encode]

theorem decodeAscii?_encode (bs : Bytes) : decodeAscii? (encode standard bs) = some bs := by
  have hs : (encode standard bs).all (fun c => c.toNat < 128) = true := by
    simpa [Ascii] using ascii_encode bs
  rw [decodeAscii?, if_pos hs, decode?_encode]

end Base64

end CovertVault
