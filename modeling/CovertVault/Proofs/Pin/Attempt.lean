import CovertVault.Pin.Guard
import CovertVault.Proofs.Pin.Digest

namespace CovertVault.Pin

/-- No digest, or one in ASCII. -/
def Comparable (stored : Option String) : Prop := ∀ s ∈ stored, Text.Ascii s.toList

/-- The stored digest is that of a PIN. -/
def Opens (stored : Option String) (pin : String) : Prop := verify (some pin) stored = .ok true

theorem comparable_none : Comparable none := by simp [Comparable]

theorem comparable_digest (pin : String) : Comparable (some (digest pin)) := by
  rintro s ⟨⟩
  exact ascii_digest pin

/-- Comparing gives an answer. -/
theorem Comparable.verify {stored : Option String} (h : Comparable stored) (pin : String) :
    Opens stored pin ∨ verify (some pin) stored = .ok false := by
  unfold Opens Pin.verify
  cases stored with
  | none => exact .inr rfl
  | some s =>
    have ha : s.toList.all (fun c => c.toNat < 128) = true := by
      simpa [Text.Ascii] using h s rfl
    dsimp only
    rw [if_pos ha]
    split
    · exact .inr rfl
    · by_cases hd : digest pin = s <;> simp [hd]

namespace Guard

variable {g : Guard} {d : Char}

/-- A digit that leaves the attempt unfinished. -/
theorem feed_short (h : g.buffer.length + 1 < pinLength) :
    g.feed d = (.ok none, { g with buffer := g.buffer ++ [d] }) := by
  unfold feed
  dsimp only
  rw [if_pos (by simpa using h)]

/-- A digit that finishes it: the PIN comes out if it is the one, and the buffer is empty. -/
theorem feed_full (hc : Comparable g.storedDigest) (h : pinLength ≤ g.buffer.length + 1) :
    Opens g.storedDigest (String.ofList (g.buffer ++ [d])) ∧
        g.feed d = (.ok (some (String.ofList (g.buffer ++ [d]))), g.reset) ∨
      ¬ Opens g.storedDigest (String.ofList (g.buffer ++ [d])) ∧
        g.feed d = (.ok none, g.reset) := by
  have hl : ¬ (g.buffer ++ [d]).length < pinLength := by simpa using h
  unfold feed
  dsimp only
  rw [if_neg hl]
  obtain ho | ho := hc.verify (String.ofList (g.buffer ++ [d]))
  · refine .inl ⟨ho, ?_⟩
    rw [show verify _ _ = _ from ho]
    rfl
  · refine .inr ⟨?_, ?_⟩
    · rw [Opens, ho]
      simp
    · rw [ho]
      rfl

end Guard

end CovertVault.Pin
