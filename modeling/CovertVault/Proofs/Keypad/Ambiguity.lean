import CovertVault.Proofs.Formula.Interchange
import CovertVault.Proofs.Keypad.Computed
import CovertVault.Proofs.Keypad.Literals

namespace CovertVault.Keypad
open Formula Editor Number

/-- An operand among tokens is a bare sign or complete. -/
def Token.Whole : Token → Prop
  | .operand o => o.isBareSign = false → o.Complete
  | _ => True

/-- Whole tokens, oldest first, each of which fits behind the one before it. -/
def Runs : Awaited → List Token → Prop
  | _, [] => True
  | a, t :: r => t.fits a = true ∧ t.Whole ∧ Runs (awaited [t]) r

def Token.parts : Token → List Operand
  | .operand o => o.parts
  | _ => []

def partsOf (tokens : List Token) : List Operand := tokens.flatMap Token.parts

variable {a : Awaited} {r r' newer older : List Token} {o o' : Operand}

/-- What may follow a complete operand looks like it. -/
theorem Runs.connective (h : Runs .connective r) :
    ∀ c ∈ (render Token.shown r).head?, Operand.IsConnective c := by
  intro c hc
  cases r with
  | nil => cases hc
  | cons t r =>
    have hf := h.1
    cases t with
    | operand | opening => cases hf
    | closing =>
      cases hc
      simp [Operand.IsConnective]
    | operator op =>
      cases hc
      cases op <;> simp [Operand.IsConnective, opSymbol]

theorem Operand.Complete.isSignedNumber (h : o.Complete) : IsSignedNumber o.value := by
  induction h with
  | literal _ ht => exact ht
  | root _ hc => exact computedText_isSignedNumber hc
  | behind _ _ hc => exact computedText_isSignedNumber hc
  | negated _ _ ih => exact isSignedNumber_toggleSign ih

/-- The same tokens with operands that count the same, where a single negated operand may stand in a
group behind its minus. -/
inductive Alike : List Token → List Token → Prop
  | nil : Alike [] []
  | token {t : Token} {r r' : List Token} : (∀ o, t ≠ .operand o) → Alike r r' →
      Alike (t :: r) (t :: r')
  | operand {o o' : Operand} {r r' : List Token} : o.value = o'.value → Alike r r' →
      Alike (.operand o :: r) (.operand o' :: r')
  | negated {o z : Operand} {r r' : List Token} : IsSignedNumber z.value →
      o.value = toggleSign z.value → Runs .connective r → Alike r r' →
      Alike (.operand (.literal ['-']) :: .opening :: .operand z :: .closing :: r)
        (.operand o :: r')
  | symm {r r' : List Token} : Alike r r' → Alike r' r

/-- No part of the one is confused with a part of the other. -/
def Distinct (r r' : List Token) : Prop := ∀ o ∈ partsOf r, ∀ o' ∈ partsOf r', ¬ o.Confused o'

theorem Distinct.mono {s s' : List Token} (h : Distinct r r') (hs : s ⊆ r) (hs' : s' ⊆ r') :
    Distinct s s' := by
  have hm {s r : List Token} (hs : s ⊆ r) {o : Operand} (ho : o ∈ partsOf s) : o ∈ partsOf r := by
    obtain ⟨t, ht, ho⟩ := List.mem_flatMap.1 ho
    exact List.mem_flatMap.2 ⟨t, hs ht, ho⟩
  intro o ho o' ho'
  exact h o (hm hs ho) o' (hm hs' ho')

theorem Distinct.parts (h : Distinct r r') (ho : .operand o ∈ r) (ho' : .operand o' ∈ r') :
    ∀ p ∈ o.parts, ∀ p' ∈ o'.parts, ¬ p.Confused p' := by
  intro p hp p' hp'
  exact h p (List.mem_flatMap.2 ⟨_, ho, hp⟩) p' (List.mem_flatMap.2 ⟨_, ho', hp'⟩)

theorem Distinct.symm (h : Distinct r r') : Distinct r' r := by
  intro o ho o' ho' hc
  exact h o' ho' o ho ⟨hc.shown.symm, hc.value.symm, hc.mixed.symm⟩

theorem Operand.Complete.negate {c : List Char} (h : (Operand.applied .negate o c).Complete) :
    c = toggleSign o.value := by
  cases h with
  | behind hf => rcases hf with hf | hf <;> cases hf
  | negated => rfl

namespace Editor

variable {e e' : Editor}

/-- All operands and what lies below the functions on them. -/
def parts (e : Editor) : List Operand := partsOf e.tokens

end Editor

/-- A result with its exponent taken away up to the sign. -/
def signedResultKeys : List Key :=
  let factor := .digit ['1'] :: List.replicate 10 (.digit ['0'])
  factor ++ .operator ['×'] :: (factor ++ [.equals, .operator ['+'], .backspace, .backspace,
    .backspace])

-- Why the typed numbers have to be complete: with its sign typed anew, the exponent takes up what
-- has been computed of the next operand.
example :
    let squared := signedResultKeys ++ [.digit ['5'], .function (.named ['²'])]
    let retyped := signedResultKeys ++ [.backspace, .operator ['+'], .digit ['5'],
      .function (.named ['²'])]
    (run squared).shownText = "1.000000E+5²".toList ∧
      (run retyped).shownText = "1.000000E+5²".toList ∧
        (run squared).equals.map (fun p => p.1.map (·.result)) =
            .ok (some "10000000000".toList) ∧
          (run retyped).equals.map (fun p => p.1.map (·.result)) =
            .ok (some "1.000000E+25".toList) := by
  decide +kernel

end CovertVault.Keypad
