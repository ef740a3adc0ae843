import CovertVault.Cipher.Chain

namespace CovertVault.Cipher.Aes

theorem restore_substitute (b : UInt8) : restore (substitute b) = b := by
  have h : ∀ n : Fin 256, restore (substitute (UInt8.ofNat n)) = UInt8.ofNat n := by
    decide +kernel
  have hb := h ⟨b.toNat, b.toNat_lt⟩
  rwa [UInt8.ofNat_toNat] at hb

-- Doubling in terms of the leading bit, over which exclusive or goes through.
theorem double_eq (b : UInt8) :
    double b = (b <<< 1) ^^^ (if b.toBitVec.msb then 0x1b else 0) := by
  have h : b < 0x80 ↔ b.toBitVec.msb = false := by
    rw [BitVec.msb_eq_false_iff_two_mul_lt, UInt8.lt_iff_toNat_lt]
    show b.toNat < 128 ↔ 2 * b.toNat < 256
    omega
  unfold double
  by_cases hb : b < 0x80
  · rw [if_pos hb, h.1 hb]
    rfl
  · have hm : b.toBitVec.msb = true := by simpa [h] using hb
    rw [if_neg hb, hm]
    rfl

theorem xor_cancel (a b : UInt8) : a ^^^ (a ^^^ b) = b := by
  rw [← UInt8.xor_assoc, UInt8.xor_self, UInt8.zero_xor]

theorem xor_left_comm (a b c : UInt8) : a ^^^ (b ^^^ c) = b ^^^ (a ^^^ c) := by
  rw [← UInt8.xor_assoc, UInt8.xor_comm a b, UInt8.xor_assoc]

theorem double_xor (a b : UInt8) : double (a ^^^ b) = double a ^^^ double b := by
  have hs : (a ^^^ b) <<< 1 = (a <<< 1) ^^^ (b <<< 1) := UInt8.shiftLeft_xor
  have hm : (a ^^^ b).toBitVec.msb = (a.toBitVec.msb ^^ b.toBitVec.msb) := by
    rw [UInt8.toBitVec_xor, BitVec.msb_xor]
  rw [double_eq, double_eq, double_eq, hs, hm]
  cases a.toBitVec.msb <;> cases b.toBitVec.msb <;>
    simp [UInt8.xor_assoc, UInt8.xor_comm, xor_left_comm]

/-- The square of the matrix has rows `5 0 4 0`, rotated. -/
theorem mixColumn_mixColumn (k : Column) :
    mixColumn (mixColumn k) =
      ⟨double (double k.a) ^^^ k.a ^^^ double (double k.c),
        double (double k.b) ^^^ k.b ^^^ double (double k.d),
        double (double k.c) ^^^ k.c ^^^ double (double k.a),
        double (double k.d) ^^^ k.d ^^^ double (double k.b)⟩ := by
  simp only [mixColumn, triple, double_xor, Column.mk.injEq]
  refine ⟨?_, ?_, ?_, ?_⟩ <;>
    simp only [UInt8.xor_assoc, UInt8.xor_comm, xor_left_comm, xor_cancel, UInt8.xor_self,
      UInt8.zero_xor]

theorem unmixColumn_mixColumn (k : Column) : unmixColumn (mixColumn k) = k := by
  unfold unmixColumn
  -- Four mixings are two squares.
  rw [mixColumn_mixColumn k, mixColumn_mixColumn]
  obtain ⟨a, b, c, d⟩ := k
  simp only [double_xor, Column.mk.injEq]
  refine ⟨?_, ?_, ?_, ?_⟩ <;>
    simp only [UInt8.xor_assoc, UInt8.xor_comm, xor_left_comm, xor_cancel, UInt8.xor_self,
      UInt8.xor_zero]

theorem Block.add_add (s t : Block) : (s.add t).add t = s := by
  simp only [Block.add, Column.add, UInt8.xor_assoc, UInt8.xor_self, UInt8.xor_zero]

theorem unshiftRows_shiftRows (b : Block) : unshiftRows (shiftRows b) = b := rfl

theorem restoreBlock_substituteBlock (b : Block) : restoreBlock (substituteBlock b) = b := by
  simp [restoreBlock, substituteBlock, Block.mapColumns, Column.map, restore_substitute]

theorem unround_round (b key : Block) : unround (round b key) key = b := by
  have hm (b : Block) : (b.mapColumns mixColumn).mapColumns unmixColumn = b := by
    simp [Block.mapColumns, unmixColumn_mixColumn]
  rw [unround, round, Block.add_add, hm, unshiftRows_shiftRows, restoreBlock_substituteBlock]

/-- The rounds are taken back in the opposite order. -/
theorem foldl_unround_foldl_round (keys : List Block) (b : Block) :
    keys.reverse.foldl unround (keys.foldl round b) = b := by
  induction keys generalizing b with
  | nil => rfl
  | cons key keys ih =>
    rw [List.reverse_cons, List.foldl_append, List.foldl_cons, List.foldl_cons, ih, List.foldl_nil,
      unround_round]

theorem decrypt_encrypt (s : Schedule) (b : Block) : decrypt s (encrypt s b) = b := by
  rw [decrypt, encrypt, Block.add_add, unshiftRows_shiftRows, restoreBlock_substituteBlock,
    foldl_unround_foldl_round, Block.add_add]

theorem unchain_chain (s : Schedule) (before : Block) (bs : List Block) :
    unchain s before (chain s before bs) = bs := by
  induction bs generalizing before with
  | nil => rfl
  | cons b bs ih =>
    -- The block before is added on the way in and on the way out, so it drops out.
    have hb : (decrypt s (encrypt s (b.add before))).add before = b := by
      rw [decrypt_encrypt, Block.add_add]
    simp only [chain, unchain, hb, ih]

@[simp] theorem Block.length_toBytes (b : Block) : b.toBytes.length = 16 := rfl

theorem Block.take?_toBytes (b : Block) (r : Bytes) : Block.take? (b.toBytes ++ r) = some (b, r) :=
  rfl

theorem blocks?_cons (b : Block) (r : Bytes) :
    blocks? (b.toBytes ++ r) = (blocks? r).map (b :: ·) := by
  have hn : b.toBytes ++ r ≠ [] := by
    intro h
    have := congrArg List.length h
    simp at this
  rw [blocks?, if_neg hn]
  split
  · next h => simp [Block.take?_toBytes] at h
  · next h =>
    rw [Block.take?_toBytes] at h
    cases h
    rfl

theorem blocks?_flatMap (bs : List Block) : blocks? (bs.flatMap Block.toBytes) = some bs := by
  induction bs with
  | nil =>
    rw [blocks?]
    rfl
  | cons b bs ih =>
    rw [List.flatMap_cons, blocks?_cons, ih]
    rfl

theorem exists_take? (bs : Bytes) (h : 16 ≤ bs.length) :
    ∃ b r, bs = Block.toBytes b ++ r := by
  match bs, h with
  | a :: b :: c :: d :: e :: f :: g :: h :: i :: j :: k :: l :: m :: n :: o :: p :: r, _ =>
    exact ⟨⟨⟨a, b, c, d⟩, ⟨e, f, g, h⟩, ⟨i, j, k, l⟩, ⟨m, n, o, p⟩⟩, r, rfl⟩

/-- Whole blocks of bytes are the bytes of blocks. -/
theorem exists_blocks (n : Nat) {bs : Bytes} (h : bs.length = 16 * n) :
    ∃ l : List Block, bs = l.flatMap Block.toBytes := by
  induction n generalizing bs with
  | zero => exact ⟨[], List.eq_nil_of_length_eq_zero h⟩
  | succ n ih =>
    obtain ⟨b, r, rfl⟩ := exists_take? bs (by omega)
    have hr : r.length = 16 * n := by
      rw [List.length_append, Block.length_toBytes] at h
      omega
    obtain ⟨l, rfl⟩ := ih hr
    exact ⟨b :: l, rfl⟩

theorem length_pad (bs : Bytes) : (pad bs).length = 16 * (bs.length / 16 + 1) := by
  simp only [pad, List.length_append, List.length_replicate]
  omega

theorem unpad?_pad (bs : Bytes) : unpad? (pad bs) = some bs := by
  have hn : 1 ≤ 16 - bs.length % 16 ∧ 16 - bs.length % 16 ≤ 16 := by omega
  unfold pad
  generalize 16 - bs.length % 16 = n at hn
  have hl : (bs ++ List.replicate n (UInt8.ofNat n)).getLast? = some (UInt8.ofNat n) := by
    rw [List.getLast?_append, List.getLast?_replicate, if_neg (by omega)]
    rfl
  have ht : (UInt8.ofNat n).toNat = n := by
    rw [UInt8.toNat_ofNat']
    omega
  unfold unpad?
  rw [hl]
  simp [ht, hn]

/-- What was encrypted under a key is decrypted under the same key and starting block. -/
theorem decryptBytes?_encryptBytes (key iv : Block) (bs : Bytes) :
    decryptBytes? key iv (encryptBytes key iv bs) = some bs := by
  -- Padding makes whole blocks of any length, so the chain is never cut short.
  obtain ⟨l, hl⟩ := exists_blocks _ (length_pad bs)
  unfold decryptBytes? encryptBytes
  rw [hl, blocks?_flatMap, blocks?_flatMap]
  simp only [Option.bind_eq_bind, Option.bind_some, Option.getD_some, unchain_chain]
  rw [← hl, unpad?_pad]

end CovertVault.Cipher.Aes
