import CovertVault.Proofs.Keypad.Shown

namespace CovertVault.Keypad
open Formula Editor

/-- Every function on the operand has been computed, a negation apart. -/
def Operand.Genuine : Operand → Prop
  | .literal _ => True
  | .applied fn o c => (fn ≠ .negate → computedText fn o.value = .ok c) ∧ o.Genuine

/-- The operands of newer tokens are typed, or they were there before. -/
def Retypes (r r' : List Token) : Prop :=
  ∀ o, .operand o ∈ r' → .operand o ∈ r ∨ ∃ t, o = .literal t

namespace Retypes

variable {r r' : List Token}

theorem self (r : List Token) : Retypes r r := fun _ h => .inl h

theorem tail (t : Token) (r : List Token) : Retypes (t :: r) r := fun _ h => .inl (.tail t h)

theorem nil (r : List Token) : Retypes r [] := fun _ h => by cases h

theorem literal (h : Retypes r r') (t : List Char) : Retypes r (.operand (.literal t) :: r') := by
  intro o ho
  rcases List.mem_cons.1 ho with ho | ho
  · cases ho
    exact .inr ⟨t, rfl⟩
  · exact h o ho

theorem cons (h : Retypes r r') {t : Token} (ht : ∀ o, t ≠ .operand o) : Retypes r (t :: r') := by
  intro o ho
  rcases List.mem_cons.1 ho with ho | ho
  · exact absurd ho.symm (ht o)
  · exact h o ho

theorem trans {r'' : List Token} (h : Retypes r r') (h' : Retypes r' r'') : Retypes r r'' :=
  fun o ho => (h' o ho).elim (h o) .inr

theorem impliedProduct (r : List Token) : Retypes r (impliedProduct r) := by
  unfold Editor.impliedProduct
  split
  · exact (self _).cons nofun
  · exact (self _).cons nofun
  · exact self _

end Retypes

namespace Editor

variable {e : Editor}

theorem retypes_leaveEquals (seed : Bool) (e : Editor) :
    Retypes e.trail (e.leaveEquals seed).trail := by
  unfold leaveEquals
  split
  · split
    · exact (Retypes.nil _).literal _
    · exact Retypes.nil _
  · exact Retypes.self _

theorem retypes_begin (text : List Char) (e : Editor) : Retypes e.trail (e.begin text).trail :=
  (Retypes.impliedProduct _).literal text

/-- Another number in the place of the newest. -/
theorem retypes_number {t t' : List Char} {r : List Token}
    (he : e.trail = .operand (.literal t) :: r) :
    Retypes e.trail (.operand (.literal t') :: r) := by
  rw [he]
  exact (Retypes.tail _ r).literal t'

theorem retypes_putDigit (d : Char) (e : Editor) : Retypes e.trail (e.putDigit d).2.trail := by
  unfold putDigit
  split
  · next he =>
    split
    · split
      · exact Retypes.self _
      · exact retypes_number he
    · exact retypes_number he
  · exact retypes_begin _ e

theorem retypes_doubleZero (e : Editor) : Retypes e.trail e.doubleZero.2.trail := by
  apply (retypes_leaveEquals false e).trans
  unfold doubleZero
  dsimp only
  split
  · next he =>
    split
    · exact Retypes.self _
    · exact retypes_number he
  · exact retypes_begin _ _

theorem retypes_dot (e : Editor) : Retypes e.trail e.dot.2.trail := by
  apply (retypes_leaveEquals false e).trans
  unfold dot
  dsimp only
  split
  · next he =>
    split
    · exact Retypes.self _
    · exact retypes_number he
  · exact retypes_begin _ _

theorem retypes_putOperator (o : BinOp) (e : Editor) :
    Retypes e.trail (e.putOperator o).2.trail := by
  unfold putOperator
  split
  · split
    · exact (Retypes.self _).literal _
    · exact Retypes.self _
  · split
    · exact (Retypes.self _).literal _
    · exact Retypes.self _
  · next he =>
    split
    · exact Retypes.self _
    · rw [he]
      exact (Retypes.tail _ _).cons nofun
  · split
    · exact Retypes.self _
    · exact (Retypes.self _).cons nofun
  · exact (Retypes.self _).cons nofun

theorem retypes_openParen (e : Editor) : Retypes e.trail e.openParen.trail := by
  have hproduct (r : List Token) : Retypes r (.opening :: .operator .mul :: r) :=
    ((Retypes.self r).cons (t := .operator .mul) nofun).cons nofun
  apply (retypes_leaveEquals false e).trans
  unfold openParen
  dsimp only
  split
  · split
    · exact (Retypes.self _).cons nofun
    · exact hproduct _
  · exact hproduct _
  · exact (Retypes.self _).cons nofun

theorem retypes_closeParen (e : Editor) : Retypes e.trail e.closeParen.2.trail := by
  unfold closeParen
  split
  · exact Retypes.self _
  · split
    · exact Retypes.self _
    · exact Retypes.self _
    · split
      · exact Retypes.self _
      · exact (Retypes.self _).cons nofun
    · exact (Retypes.self _).cons nofun

/-- All functions among the tokens have been computed. -/
def Genuine (e : Editor) : Prop := ∀ o, .operand o ∈ e.trail → o.Genuine

theorem Genuine.retypes (h : e.Genuine) {e' : Editor} (hr : Retypes e.trail e'.trail) :
    e'.Genuine := by
  intro o ho
  rcases hr o ho with ho | ⟨t, rfl⟩
  · exact h o ho
  · trivial

theorem Genuine.leaveEquals (h : e.Genuine) (seed : Bool) : (e.leaveEquals seed).Genuine :=
  h.retypes (retypes_leaveEquals seed e)

theorem Genuine.replaceLast (h : e.Genuine) {o : Operand} (ho : o.Genuine) :
    (e.replaceLast o).Genuine := by
  intro o' ho'
  rcases List.mem_cons.1 ho' with ho' | ho'
  · cases ho'
    exact ho
  · exact h o' (List.mem_of_mem_tail ho')

theorem Genuine.target (h : e.Genuine) {o : Operand} (ho : e.target? = some o) : o.Genuine := by
  obtain ⟨r, he, -⟩ | ⟨c, -, rfl, -⟩ := trail_of_target ho
  · exact h.leaveEquals true o (he ▸ .head r)
  · trivial

theorem genuine_flipped {o : Operand} (h : o.Genuine) : (flipped o).Genuine := by
  unfold flipped
  split
  · trivial
  · exact h.2
  · exact ⟨fun hf => absurd rfl hf, h⟩

theorem Genuine.signFlip (h : e.Genuine) : e.signFlip.2.Genuine := by
  unfold Editor.signFlip
  split
  · exact h
  · next ho => exact (h.leaveEquals true).replaceLast (genuine_flipped (h.target ho))

theorem Genuine.backspace (h : e.Genuine) : e.backspace.2.Genuine := by
  unfold Editor.backspace
  split
  · exact h
  · split
    · exact h
    · next t r he =>
      apply h.retypes
      dsimp only
      split
      · rw [he]
        exact Retypes.tail _ _
      · exact retypes_number he
    · next fn o c r he =>
      intro o' ho'
      rcases List.mem_cons.1 ho' with ho' | ho'
      · cases ho'
        exact (h (.applied fn o c) (he ▸ .head r)).2
      · exact h o' (he ▸ .tail _ ho')
    · next he =>
      apply h.retypes
      rw [he]
      exact Retypes.tail _ _

theorem Genuine.pressed (h : e.Genuine) {k : Key} {e' : Editor} (hp : Pressed e k e') :
    e'.Genuine := by
  cases hp with
  | digit => exact (h.leaveEquals false).retypes (retypes_putDigit _ _)
  | doubleZero => exact h.retypes (retypes_doubleZero e)
  | operator o => exact (h.leaveEquals true).retypes (retypes_putOperator o _)
  | dot => exact h.retypes (retypes_dot e)
  | idle => exact h
  | function _ ho hc => exact (h.leaveEquals true).replaceLast ⟨fun _ => hc, h.target ho⟩
  | signFlip => exact h.signFlip
  | backspace => exact h.backspace
  | openParen => exact h.retypes (retypes_openParen e)
  | closeParen => exact h.retypes (retypes_closeParen e)
  | clear => exact fun _ ho => by cases ho
  | equals hv =>
    unfold Editor.equals at hv
    split at hv
    · cases hv
      exact h
    · split at hv
      · cases hv
      · cases hv
        exact fun _ ho => by cases ho

end Editor

theorem isSignedNumber_of_computed {fn : UnaryFn} {source c : List Char}
    (h : computedText fn source = .ok c) : IsSignedNumber source := by
  unfold computedText at h
  rw [← isLiteral_iff]
  by_contra hl
  rw [if_pos (by simpa using hl)] at h
  cases h

/-- An operand with a complete number below all functions, which have been computed. -/
theorem Operand.Genuine.complete {o : Operand} {b : Bool} (h : o.Genuine) (hs : o.Sound)
    (hw : Written b o.origin) (ht : ∀ t, o = .literal t → IsSignedNumber t) : o.Complete := by
  induction hs with
  | literal => exact .literal hw (ht _ rfl)
  | @applied fn o c hf hs _ _ ih =>
    have hc := h.1 hf
    have ho : o.Complete := ih h.2 hw fun t ho => by
      subst ho
      exact isSignedNumber_of_computed hc
    cases fn with
    | negate => exact absurd rfl hf
    | sqrt => exact .root ho hc
    | square => exact .behind (.inl rfl) ho hc
    | percent => exact .behind (.inr rfl) ho hc
  | negated hf _ ih => exact .negated hf (ih h.2 hw nofun)

end CovertVault.Keypad
