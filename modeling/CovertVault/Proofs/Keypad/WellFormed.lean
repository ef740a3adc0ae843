import CovertVault.Proofs.Keypad.Layout
import Mathlib.Data.List.Chain

namespace CovertVault.Keypad
open Editor

/-- Tokens for the beginning of an expression, of a group, or of an operator's right side. -/
def Token.begins : Token → Bool
  | .operand _ | .opening => true
  | .operator _ | .closing => false

/-- Tokens that go on behind a complete operand or a closed group. -/
def Token.continues : Token → Bool
  | .operator _ | .closing => true
  | .operand _ | .opening => false

/-- Whether a token may stand right before another. A bare sign stands before a group only. -/
def Token.precedes : Token → Token → Bool
  | .operand o, u => if o.isBareSign then u = .opening else u.continues
  | .closing, u => u.continues
  | .operator _, u | .opening, u => u.begins

/-- A typed number, or functions upon one. A negation stands on another function, whose value it
has with the sign turned. -/
def Operand.WellFormed : Operand → Prop
  | .literal t => t ≠ [] ∧ t.count '.' ≤ 1
  | .applied fn o c => o.WellFormed ∧
      (fn = .negate → ∃ g x d, g ≠ .negate ∧ o = .applied g x d ∧ c = toggleSign d)

structure Editor.WellFormed (e : Editor) : Prop where
  afterEquals_iff : e.afterEquals = true ↔ e.carry.isSome = true
  tokens_nil : e.afterEquals = true → e.tokens = []
  begins : ∀ t ∈ e.tokens.head?, t.begins = true
  precedes : e.tokens.IsChain fun t u => t.precedes u = true
  nests : ∀ p, p <+: e.tokens → p.count .closing ≤ p.count .opening
  operands : ∀ o, .operand o ∈ e.tokens → o.WellFormed

theorem Operand.Sound.wellFormed {o : Operand} (h : o.Sound) : o.WellFormed := by
  induction h with
  | literal ht hp => exact ⟨ht, hp⟩
  | applied hf _ _ _ ih => exact ⟨ih, fun hn => absurd hn hf⟩
  | negated hf _ ih => exact ⟨ih, fun _ => ⟨_, _, _, hf, rfl, rfl⟩⟩

theorem Laid.sound_of_mem {trail : List Token} (h : Laid trail) {o : Operand}
    (ho : .operand o ∈ trail) : o.Sound := by
  induction trail with
  | nil => cases ho
  | cons t r ih =>
    obtain rfl | ho := List.mem_cons.1 ho
    · exact h.sound
    · exact ih h.tail ho

theorem Laid.wellFormed_of_mem {trail : List Token} (h : Laid trail) {o : Operand}
    (ho : .operand o ∈ trail) : o.WellFormed := (h.sound_of_mem ho).wellFormed

theorem depthOf_eq_count (trail : List Token) :
    depthOf trail = trail.count .opening - trail.count .closing := by
  induction trail with
  | nil => rfl
  | cons t r ih =>
    rw [depthOf_cons, ih, List.count_cons, List.count_cons]
    cases t <;> simp [Token.depth] <;> omega

theorem Laid.of_suffix {q trail : List Token} (h : Laid trail) (hq : q <:+ trail) : Laid q := by
  induction trail with
  | nil =>
    obtain rfl := List.suffix_nil.1 hq
    exact h
  | cons t r ih =>
    obtain rfl | hq := List.suffix_cons_iff.1 hq
    · exact h
    · exact ih h.tail hq

/-- What fits behind the newest token is what that token may precede. -/
theorem fits_awaited_cons (t u : Token) (r : List Token) :
    u.fits (awaited (t :: r)) = t.precedes u := by
  cases t with
  | operand o =>
    by_cases hb : o.isBareSign = true
    · cases u <;> simp [awaited, Token.precedes, Token.fits, hb]
    · cases u <;> simp [awaited, Token.precedes, Token.fits, Token.continues, hb]
  | operator | opening | closing => cases u <;> rfl

theorem Laid.precedes {trail : List Token} (h : Laid trail) :
    trail.reverse.IsChain fun t u => t.precedes u = true := by
  rw [List.isChain_reverse]
  induction trail with
  | nil => exact .nil
  | cons u r ih =>
    cases r with
    | nil => exact .singleton u
    | cons t r => exact .cons_cons (fits_awaited_cons t u r ▸ h.1) (ih h.tail)

theorem Laid.begins {trail : List Token} (h : Laid trail) :
    ∀ t ∈ trail.getLast?, t.begins = true := by
  induction trail with
  | nil => simp
  | cons u r ih =>
    cases r with
    | nil =>
      intro t ht
      obtain rfl : u = t := by simpa using ht
      have hf := h.1
      cases u with
      | operand | opening => rfl
      | operator | closing => cases hf
    | cons t r =>
      rw [List.getLast?_cons_cons]
      exact ih h.tail

namespace Editor

variable {e : Editor}

theorem Sound.wellFormed (h : e.Sound) : e.WellFormed where
  afterEquals_iff := by rw [h.carry_isSome]
  tokens_nil ha := by rw [tokens, h.trail_nil ha, List.reverse_nil]
  begins t ht := h.laid.begins t (by rwa [tokens, List.head?_reverse] at ht)
  precedes := h.laid.precedes
  nests p hp := by
    -- A prefix of the tokens is laid out by itself, newest token first.
    have hq : p.reverse <:+ e.trail := by rwa [← List.reverse_prefix, List.reverse_reverse]
    have hd := (h.laid.of_suffix hq).depth_nonneg
    rw [depthOf_eq_count, List.count_reverse, List.count_reverse] at hd
    omega
  operands o ho := h.laid.wellFormed_of_mem (List.mem_reverse.1 ho)

end Editor

end CovertVault.Keypad
