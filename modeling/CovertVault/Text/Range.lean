namespace CovertVault.Text

/-- Membership in a list of inclusive ranges. -/
def covers (ranges : List (Nat × Nat)) (n : Nat) : Bool :=
  ranges.any fun r => r.1 ≤ n && n ≤ r.2

/-- Membership of a character, by its code point. -/
def inRanges (ranges : List (Nat × Nat)) (c : Char) : Bool := covers ranges c.toNat

end CovertVault.Text
