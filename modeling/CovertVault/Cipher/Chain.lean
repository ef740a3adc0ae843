import CovertVault.Cipher.Aes

namespace CovertVault.Cipher.Aes

/-- Fills up to whole blocks; each added byte says how many there are, and there is at least
one. -/
def pad (bs : Bytes) : Bytes :=
  let n := 16 - bs.length % 16
  bs ++ List.replicate n (UInt8.ofNat n)

def unpad? (bs : Bytes) : Option Bytes :=
  match bs.getLast? with
  | none => none
  | some b =>
    let n := b.toNat
    if 1 ≤ n ∧ n ≤ 16 ∧ n ≤ bs.length ∧ (bs.drop (bs.length - n)).all (· = b) then
      some (bs.take (bs.length - n))
    else none

theorem Block.length_take? {bs r : Bytes} {b : Block} (h : Block.take? bs = some (b, r)) :
    r.length < bs.length := by
  unfold Block.take? at h
  split at h
  · simp only [Option.some.injEq, Prod.mk.injEq] at h
    simp only [← h.2, List.length_cons]
    omega
  · simp at h

/-- The blocks of a byte string, none unless its length is a multiple of sixteen. -/
def blocks? (bs : Bytes) : Option (List Block) :=
  if bs = [] then some []
  else match h : Block.take? bs with
    | none => none
    | some (b, r) =>
      have := Block.length_take? h
      (blocks? r).map (b :: ·)
  termination_by bs.length

/-- Each block is mixed with the ciphertext of the one before it. -/
def chain (s : Schedule) (before : Block) : List Block → List Block
  | [] => []
  | b :: r => let c := encrypt s (b.add before); c :: chain s c r

def unchain (s : Schedule) (before : Block) : List Block → List Block
  | [] => []
  | c :: r => (decrypt s c).add before :: unchain s c r

/-- Encrypts under a key, starting the chain with the block `iv`. -/
def encryptBytes (key iv : Block) (bs : Bytes) : Bytes :=
  (chain (schedule key) iv ((blocks? (pad bs)).getD [])).flatMap Block.toBytes

def decryptBytes? (key iv : Block) (bs : Bytes) : Option Bytes := do
  unpad? ((unchain (schedule key) iv (← blocks? bs)).flatMap Block.toBytes)

end CovertVault.Cipher.Aes
