import CovertVault.Proofs.Cipher.Aes
import CovertVault.Proofs.Pin.Digest
import CovertVault.Proofs.Record.Coding
import CovertVault.Seal.Snapshot

namespace CovertVault

@[simp] theorem Bytes.length_ofNat (width n : Nat) : (Bytes.ofNat width n).length = width := by
  induction width with
  | zero => rfl
  | succ width ih => rw [Bytes.ofNat, List.length_cons, ih]

theorem Digest.length_hmac (key m : Bytes) : (Digest.hmac key m).length = 32 := rfl

namespace Seal
open Cipher.Aes (Block)
open Number

/-- A token opens, under the key that sealed it, to the bytes in it. -/
theorem openBytes?_sealBytes (key : Key) (iv : Block) (time : UInt64) (plain : Bytes) :
    openBytes? key (sealBytes key iv time plain) = some plain := by
  unfold openBytes? sealBytes
  simp only [Base64.decodeUrlSafe?_encode, Option.bind_eq_bind, Option.bind_some]
  -- Opening cuts the token where sealing has put it together: nine bytes, a block, the rest.
  generalize hb : version :: Bytes.ofNat 8 time.toNat ++ iv.toBytes ++
    Cipher.Aes.encryptBytes key.encryption iv plain = body
  generalize hm : Digest.hmac key.signing body = mac
  have hl : mac.length = 32 := hm ▸ Digest.length_hmac _ _
  have hn : (body ++ mac).length - 32 = body.length := by
    rw [List.length_append, hl, Nat.add_sub_cancel]
  have hh : (body ++ mac).head? = some version := by
    rw [← hb]
    rfl
  have hs : 9 ≤ (body ++ mac).length := by
    rw [List.length_append]
    omega
  have hiv : (body ++ mac).drop 9 =
      iv.toBytes ++ (Cipher.Aes.encryptBytes key.encryption iv plain ++ mac) := by
    have h9 : (version :: Bytes.ofNat 8 time.toNat).length = 9 := by simp
    rw [← hb, List.append_assoc, List.append_assoc, List.drop_left' h9]
  have hc : body.drop 25 = Cipher.Aes.encryptBytes key.encryption iv plain := by
    have h25 : (version :: Bytes.ofNat 8 time.toNat ++ iv.toBytes).length = 25 := by simp
    rw [← hb, List.drop_left' h25]
  have ht : (body ++ mac).take body.length = body := List.take_left
  have hd : (body ++ mac).drop body.length = mac := List.drop_left
  rw [hn, ht, hd, hiv, Cipher.Aes.Block.take?_toBytes, hm, hc, if_neg, if_neg]
  · exact Cipher.Aes.decryptBytes?_encryptBytes _ _ _
  · simp
  · rw [hh]
    exact not_or.2 ⟨fun h => h rfl, Nat.not_lt.2 hs⟩

theorem isShort_iff (n : Int) : isShort n = true ↔ n.natAbs < 10 ^ digitLimit := by
  rw [isShort, decide_eq_true_iff, length_natText_le (by decide)]

/-- Sealing fails for numbers that are too long, and for nothing else. -/
theorem sealSnapshot_eq (key : Key) (iv : Block) (time : UInt64) (s : Snapshot) :
    sealSnapshot key iv time s =
      if ∀ n ∈ s.numbers, n.natAbs < 10 ^ digitLimit then
        .ok (sealText key iv time s.toJson.write)
      else .error .tooLong := by
  have hi : s.numbers.all isShort = true ↔ ∀ n ∈ s.numbers, n.natAbs < 10 ^ digitLimit := by
    simp [List.all_eq_true, isShort_iff]
  rw [sealSnapshot, plainText]
  by_cases h : s.numbers.all isShort = true
  · rw [if_pos h, if_pos (hi.1 h)]
    rfl
  · rw [if_neg h, if_neg (mt hi.2 h)]
    rfl

theorem openSnapshot_sealText (key : Key) (iv : Block) (time : UInt64) {s : Snapshot}
    (h : ∀ n ∈ s.numbers, n.natAbs < 10 ^ digitLimit) :
    openSnapshot key (sealText key iv time s.toJson.write) = .ok s := by
  have hd : ∀ n ∈ s.numbers, (natText n.natAbs).length ≤ digitLimit := fun n hn =>
    (length_natText_le (by decide)).2 (h n hn)
  have hp : readPayload? (Bytes.utf8 s.toJson.write) = some s := by
    rw [readPayload?, Text.decodeUtf8?_utf8 (Json.ascii_write s.toJson)]
    exact Snapshot.readRecord?_write hd
  rw [openSnapshot, sealText, openBytes?_sealBytes]
  simp only [hp]

/-- A snapshot comes back from its token as it was, in all its parts, exactly when none of its
numbers is too long to be written. -/
theorem opens_as_sealed (key : Key) (iv : Block) (time : UInt64) (s : Snapshot) :
    (∃ token, sealSnapshot key iv time s = .ok token ∧ openSnapshot key token = .ok s) ↔
      ∀ n ∈ s.numbers, n.natAbs < 10 ^ digitLimit := by
  rw [sealSnapshot_eq]
  constructor
  · rintro ⟨token, ht, -⟩
    by_cases h : ∀ n ∈ s.numbers, n.natAbs < 10 ^ digitLimit
    · exact h
    · rw [if_neg h] at ht
      cases ht
  · intro h
    rw [if_pos h]
    exact ⟨_, rfl, openSnapshot_sealText key iv time h⟩

/-- The smallest number that is too long, as the id of a calculation. -/
def longId : Snapshot := ⟨none, [], [⟨(10 ^ digitLimit : Nat), "1+1", "2", ""⟩], ""⟩

def zeroBlock : Block := ⟨⟨0, 0, 0, 0⟩, ⟨0, 0, 0, 0⟩, ⟨0, 0, 0, 0⟩, ⟨0, 0, 0, 0⟩⟩

def zeroKey : Key := ⟨zeroBlock.toBytes, zeroBlock⟩

theorem longId_not_sealed :
    sealSnapshot zeroKey zeroBlock 0 longId = .error .tooLong ∧
      ¬∃ token, sealSnapshot zeroKey zeroBlock 0 longId = .ok token ∧
        openSnapshot zeroKey token = .ok longId := by
  have hn : ¬∀ n ∈ longId.numbers, n.natAbs < 10 ^ digitLimit := by
    intro h
    exact Nat.lt_irrefl _ (h (10 ^ digitLimit : Nat) (List.mem_singleton.2 rfl))
  have hs : sealSnapshot zeroKey zeroBlock 0 longId = .error .tooLong := by
    rw [sealSnapshot_eq, if_neg hn]
  refine ⟨hs, ?_⟩
  rintro ⟨token, ht, -⟩
  rw [hs] at ht
  cases ht

end Seal

end CovertVault
