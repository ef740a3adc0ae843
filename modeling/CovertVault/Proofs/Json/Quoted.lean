import CovertVault.Json.Quoted
import CovertVault.Proofs.Text.Ascii

namespace CovertVault.Json
open Text

theorem ascii_escapeUnit (n : Nat) : Ascii (escapeUnit n) :=
  ascii_cons.2 ⟨by decide, ascii_cons.2 ⟨by decide, ascii_hex 4 n⟩⟩

theorem ascii_writeChar (c : Char) : Ascii (writeChar c) := by
  have two (d : Char) (hd : d.toNat < 128) : Ascii ['\\', d] := by
    rw [ascii_cons, ascii_cons]
    exact ⟨by decide, hd, ascii_nil⟩
  unfold writeChar
  iterate 7
    split
    · exact two _ (by decide)
  split
  · next h =>
    rw [ascii_cons]
    exact ⟨by omega, ascii_nil⟩
  split
  · exact ascii_escapeUnit _
  · exact ascii_append.2 ⟨ascii_escapeUnit _, ascii_escapeUnit _⟩

theorem ascii_writeString (s : List Char) : Ascii (writeString s) := by
  have hs : Ascii (s.flatMap writeChar) := ascii_flatMap ascii_writeChar
  rw [writeString, List.cons_append, ascii_cons, ascii_append, ascii_cons]
  exact ⟨by decide, hs, by decide, ascii_nil⟩

theorem unitValue?_hex {n : Nat} (h : n < 0x10000) :
    unitValue? (hexDigit (n / Nat.pow 16 3 % 16)) (hexDigit (n / Nat.pow 16 2 % 16))
      (hexDigit (n / Nat.pow 16 1 % 16)) (hexDigit (n / Nat.pow 16 0 % 16)) = some n := by
  have hd (k : Nat) : hexValue? (hexDigit (n / k % 16)) = some (n / k % 16) :=
    hexValue?_hexDigit (Nat.mod_lt _ (by decide))
  have h₃ : Nat.pow 16 3 = 4096 := rfl
  have h₂ : Nat.pow 16 2 = 256 := rfl
  have h₁ : Nat.pow 16 1 = 16 := rfl
  have h₀ : Nat.pow 16 0 = 1 := rfl
  simp only [unitValue?, hd, h₃, h₂, h₁, h₀, Option.bind_eq_bind, Option.bind_some,
    Option.pure_def, Option.some.injEq]
  omega

theorem scanPieces_escapeUnit {n : Nat} (h : n < 0x10000) (r : List Point) :
    scanPieces ((escapeUnit n).map .char ++ r) =
      (scanPieces r).map fun p => (.unit n :: p.1, p.2) := by
  simp only [escapeUnit, hex, List.map_cons, List.map_nil, List.cons_append, List.nil_append,
    scanPieces, unitValue?_hex h]
  cases scanPieces r <;> rfl

theorem scanPieces_short {e c : Char} (h : shortEscape? e = some c) (hu : e ≠ 'u')
    (r : List Point) : scanPieces (.char '\\' :: .char e :: r) =
      (scanPieces r).map fun p => (.point (.char c) :: p.1, p.2) := by
  rw [scanPieces, h]
  · cases scanPieces r <;> rfl
  · intro a b c d r' _ he
    exact hu he

theorem scanPieces_plain {c : Char} (hq : c ≠ '"') (hb : c ≠ '\\') (hc : 0x20 ≤ c.toNat)
    (r : List Point) : scanPieces (.char c :: r) =
      (scanPieces r).map fun p => (.point (.char c) :: p.1, p.2) := by
  have hl : ¬((Point.char c).code < 0x20 ∨ Point.char c = .char '\\') := by
    simpa [Point.code, hb] using hc
  rw [scanPieces, if_neg hl]
  · cases scanPieces r <;> rfl
  · simpa using hq
  · simp [hb]
  · simp [hb]

-- The code of a character is never the first half of a pair, so the unit stays by itself.
theorem joinPieces_unit {c : Char} (ps : List Piece) :
    joinPieces (.unit c.toNat :: ps) = .char c :: joinPieces ps := by
  have hh : isHighSurrogate c.toNat = false := by
    have := toNat_range c
    simp only [isHighSurrogate, Bool.and_eq_false_iff, decide_eq_false_iff_not]
    omega
  cases ps with
  | nil => simp [joinPieces, ofCode_toNat]
  | cons p ps => cases p <;> simp [joinPieces, hh, ofCode_toNat]

/-- The two halves of a character beyond 16 bits make it again. -/
theorem joinPieces_pair {c : Char} {n : Nat} (h : c.toNat = 0x10000 + n) (ps : List Piece) :
    joinPieces (.unit (0xD800 + n / 0x400) :: .unit (0xDC00 + n % 0x400) :: ps) =
      .char c :: joinPieces ps := by
  have hn : n < 0x100000 := by
    have := toNat_range c
    omega
  have hh : isHighSurrogate (0xD800 + n / 0x400) = true := by
    simp only [isHighSurrogate, Bool.and_eq_true, decide_eq_true_eq]
    omega
  have hl : isLowSurrogate (0xDC00 + n % 0x400) = true := by
    simp only [isLowSurrogate, Bool.and_eq_true, decide_eq_true_eq]
    omega
  have hj : joinSurrogates (0xD800 + n / 0x400) (0xDC00 + n % 0x400) = c.toNat := by
    unfold joinSurrogates
    omega
  simp only [joinPieces, hh, hl, hj, ofCode_toNat, Bool.and_self, if_true]

theorem scanPieces_writeChar (c : Char) (r : List Point) :
    ∃ ps, scanPieces ((writeChar c).map .char ++ r) =
        (scanPieces r).map (fun p => (ps ++ p.1, p.2)) ∧
      ∀ qs, joinPieces (ps ++ qs) = .char c :: joinPieces qs := by
  have point (qs : List Piece) :
      joinPieces ([.point (.char c)] ++ qs) = .char c :: joinPieces qs := by
    simp [joinPieces]
  have short {e : Char} (he : shortEscape? e = some c) (hu : e ≠ 'u') :
      ∃ ps, scanPieces (['\\', e].map .char ++ r) =
          (scanPieces r).map (fun p => (ps ++ p.1, p.2)) ∧
        ∀ qs, joinPieces (ps ++ qs) = .char c :: joinPieces qs :=
    ⟨[.point (.char c)], scanPieces_short he hu r, point⟩
  unfold writeChar
  -- First the seven short escapes, then characters as they stand, then units.
  iterate 7
    split
    · next h => exact short (by rw [h]; rfl) (by decide)
  split
  · next h => exact ⟨[.point (.char c)], scanPieces_plain ‹_› ‹_› h.1 r, point⟩
  split
  · next h => exact ⟨[.unit c.toNat], scanPieces_escapeUnit h r, joinPieces_unit⟩
  · next h =>
    have hc : c.toNat = 0x10000 + (c.toNat - 0x10000) := by omega
    have hn := toNat_range c
    refine ⟨[.unit _, .unit _], ?_, joinPieces_pair hc⟩
    rw [List.map_append, List.append_assoc, scanPieces_escapeUnit (by omega),
      scanPieces_escapeUnit (by omega), Option.map_map]
    rfl

/-- What was written between the quotes is read up to the closing one. -/
theorem scanPieces_written (s : List Char) (r : List Point) :
    ∃ ps, scanPieces ((s.flatMap writeChar).map .char ++ .char '"' :: r) = some (ps, r) ∧
      joinPieces ps = s.map .char := by
  induction s with
  | nil => exact ⟨[], by simp [scanPieces], rfl⟩
  | cons c s ih =>
    obtain ⟨ps, hp, hj⟩ := ih
    obtain ⟨cs, hc, hcj⟩ :=
      scanPieces_writeChar c ((s.flatMap writeChar).map .char ++ .char '"' :: r)
    refine ⟨cs ++ ps, ?_, ?_⟩
    · rw [List.flatMap_cons, List.map_append, List.append_assoc, hc, hp]
      rfl
    · rw [hcj, hj]
      rfl

end CovertVault.Json
