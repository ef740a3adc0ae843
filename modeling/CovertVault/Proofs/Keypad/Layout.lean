import CovertVault.Proofs.Formula.ResultText
import CovertVault.Proofs.Keypad.Pressed

namespace CovertVault.Keypad
open Formula Editor Text

/-- What may stand next: an operand or a group, only a group, or what follows an operand. -/
inductive Awaited where
  | operand | group | connective
deriving Repr, DecidableEq

/-- What the tokens, newest first, leave to be put next. -/
def awaited : List Token → Awaited
  | [] | .operator _ :: _ | .opening :: _ => .operand
  | .operand o :: _ => if o.isBareSign then .group else .connective
  | .closing :: _ => .connective

def Token.fits : Token → Awaited → Bool
  | .operand _, .operand => true
  | .opening, .operand | .opening, .group => true
  | .operator _, .connective | .closing, .connective => true
  | _, _ => false

/-- A typed number has at most one point. A function stands on a complete operand and has given a
number; a negation stands on another function, with the sign of its value turned. -/
inductive Operand.Sound : Operand → Prop
  | literal {t : List Char} : t ≠ [] → t.count '.' ≤ 1 → Sound (.literal t)
  | applied {fn : UnaryFn} {o : Operand} {c : List Char} : fn ≠ .negate → Sound o →
      o.isBareSign = false → IsSignedNumber c → Sound (.applied fn o c)
  | negated {fn : UnaryFn} {o : Operand} {c : List Char} : fn ≠ .negate →
      Sound (.applied fn o c) → Sound (.applied .negate (.applied fn o c) (toggleSign c))

def Token.Sound : Token → Prop
  | .operand o => o.Sound
  | _ => True

/-- The layout of tokens, newest first. -/
def Laid : List Token → Prop
  | [] => True
  | t :: r => t.fits (awaited r) ∧ t.Sound ∧ 0 ≤ depthOf (t :: r) ∧ Laid r

/-- The layout of an editor. Right behind equals it holds a result and no tokens. -/
structure Editor.Sound (e : Editor) : Prop where
  laid : Laid e.trail
  carry_isSome : e.carry.isSome = e.afterEquals
  trail_nil : e.afterEquals = true → e.trail = []
  carried : ∀ c, e.carry = some c → IsSignedNumber c ∨ c = errorText

variable {r : List Token} {o : Operand}

@[simp] theorem depthOf_nil : depthOf [] = 0 := rfl

@[simp] theorem depthOf_cons (t : Token) (r : List Token) :
    depthOf (t :: r) = t.depth + depthOf r := rfl

theorem Laid.tail {t : Token} (h : Laid (t :: r)) : Laid r := h.2.2.2

theorem Laid.awaited_operand (h : Laid (.operand o :: r)) : awaited r = .operand := by
  have hf := h.1
  revert hf
  cases awaited r <;> simp [Token.fits]

theorem Laid.sound (h : Laid (.operand o :: r)) : o.Sound := h.2.1

theorem Laid.depth_nonneg (h : Laid r) : 0 ≤ depthOf r := by
  cases r with
  | nil => simp
  | cons t r => exact h.2.2.1

theorem Laid.awaited_operator {op : BinOp} (h : Laid (.operator op :: r)) :
    awaited r = .connective := by
  have hf := h.1
  revert hf
  cases awaited r <;> simp [Token.fits]

theorem Laid.operand (h : Laid r) (ha : awaited r = .operand) (ho : o.Sound) :
    Laid (.operand o :: r) := by
  have hd := h.depth_nonneg
  exact ⟨by rw [ha]; rfl, ho, by simpa [Token.depth] using hd, h⟩

theorem Laid.operator (h : Laid r) (ha : awaited r = .connective) (op : BinOp) :
    Laid (.operator op :: r) := by
  have hd := h.depth_nonneg
  exact ⟨by rw [ha]; rfl, trivial, by simpa [Token.depth] using hd, h⟩

theorem Laid.opening (h : Laid r) (ha : awaited r ≠ .connective) : Laid (.opening :: r) := by
  have hd := h.depth_nonneg
  refine ⟨?_, trivial, by simp [Token.depth]; omega, h⟩
  cases ha' : awaited r with
  | operand | group => rfl
  | connective => exact absurd ha' ha

theorem Laid.closing (h : Laid r) (ha : awaited r = .connective) (hd : 0 < depthOf r) :
    Laid (.closing :: r) :=
  ⟨by rw [ha]; rfl, trivial, by simp [Token.depth]; omega, h⟩

/-- Another operand takes the place of the newest. -/
theorem Laid.replace {o' : Operand} (h : Laid (.operand o :: r)) (ho : o'.Sound) :
    Laid (.operand o' :: r) :=
  h.tail.operand h.awaited_operand ho

theorem eq_minus_of_bare (h : o.isBareSign = true) : o = .literal ['-'] := by
  cases o with
  | literal t => simpa [Operand.isBareSign] using h
  | applied => cases h

theorem awaited_operand_of_not_bare (h : o.isBareSign = false) :
    awaited (.operand o :: r) = .connective := by
  simp [awaited, h]

theorem count_toggleSign (t : List Char) : (toggleSign t).count '.' = t.count '.' := by
  unfold toggleSign
  split <;> simp

theorem toggleSign_unsigned {t : List Char} (h : t.head? ≠ some '-') : toggleSign t = '-' :: t := by
  unfold toggleSign
  split
  · exact absurd rfl h
  · rfl

theorem isSignedNumber_toggleSign {t : List Char} (h : IsSignedNumber t) :
    IsSignedNumber (toggleSign t) := by
  obtain h | ⟨s, rfl, h⟩ := h
  · rw [toggleSign_unsigned (h.head_ne (by simp))]
    exact .inr ⟨t, rfl, h⟩
  · exact .inl h

/-- The value that a function has given is a number. -/
theorem Operand.Sound.isSignedNumber {fn : UnaryFn} {c : List Char}
    (h : (Operand.applied fn o c).Sound) : IsSignedNumber c := by
  cases h with
  | applied _ _ _ h => exact h
  | negated hf h =>
    cases h with
    | applied _ _ _ h => exact isSignedNumber_toggleSign h
    | negated => contradiction

/-- What a function stands on. -/
theorem Operand.Sound.source {fn : UnaryFn} {c : List Char} (h : (Operand.applied fn o c).Sound) :
    o.Sound ∧ o.isBareSign = false := by
  cases h with
  | applied _ h hb _ => exact ⟨h, hb⟩
  | negated _ h => exact ⟨h, rfl⟩

variable {e : Editor}

theorem result_not_bare {c : List Char} (h : IsSignedNumber c ∨ c = errorText) :
    (Operand.literal c).isBareSign = false := by
  obtain (h | ⟨s, rfl, h⟩) | rfl := h
  · have hm := h.head_ne (c := '-') (by simp)
    simp only [Operand.isBareSign, decide_eq_false_iff_not]
    rintro rfl
    exact hm rfl
  · obtain ⟨c, s, rfl, -⟩ := h.head
    rfl
  · rfl

theorem result_sound {c : List Char} (h : IsSignedNumber c ∨ c = errorText) :
    (Operand.literal c).Sound := by
  obtain (h | ⟨s, rfl, h⟩) | rfl := h
  · obtain ⟨d, s, rfl, -⟩ := h.head
    exact .literal (by simp) h.count_point
  · exact .literal (by simp) (by simpa using h.count_point)
  · exact .literal (by simp [errorText]) (by decide)

theorem sound_empty : Editor.empty.Sound where
  laid := trivial
  carry_isSome := rfl
  trail_nil := by simp [Editor.empty]
  carried := by simp [Editor.empty]

namespace Editor

/-- What an edit leaves: the tokens are laid and no result is held. -/
theorem Sound.withTrail (h : e.Sound) (hn : e.afterEquals = false) {trail : List Token}
    (ht : Laid trail) : (e.withTrail trail).Sound where
  laid := ht
  carry_isSome := h.carry_isSome
  trail_nil := by simp [Editor.withTrail, hn]
  carried := h.carried

theorem leaveEquals_afterEquals (seed : Bool) (e : Editor) :
    (e.leaveEquals seed).afterEquals = false := by
  unfold leaveEquals
  split
  · split <;> rfl
  · next h => simpa using h

theorem Sound.leaveEquals (h : e.Sound) (seed : Bool) : (e.leaveEquals seed).Sound := by
  unfold Editor.leaveEquals
  split
  · split
    · next c cs hc =>
      have hl : Laid [] := trivial
      exact ⟨hl.operand rfl (result_sound (h.carried _ hc)), rfl, by simp, by simp⟩
    · exact sound_empty
  · exact h

/-- A function or a sign flip acts on the newest token, which is a complete operand. -/
theorem Sound.target (h : e.Sound) {o : Operand} (ho : e.target? = some o) :
    o.isBareSign = false ∧ ∃ r, (e.leaveEquals true).trail = .operand o :: r := by
  obtain ⟨r, he, hb⟩ | ⟨c, hc, rfl, he⟩ := trail_of_target ho
  · exact ⟨hb, r, he⟩
  · exact ⟨result_not_bare (h.carried c hc), [], he⟩

theorem Sound.replaceLast (h : e.Sound) (hn : e.afterEquals = false) {o o' : Operand}
    {r : List Token} (he : e.trail = .operand o :: r) (ho : o'.Sound) :
    (e.replaceLast o').Sound := by
  have hl := h.laid
  rw [he] at hl
  refine h.withTrail hn ?_
  rw [he]
  exact hl.replace ho

theorem laid_impliedProduct {trail : List Token} (h : Laid trail)
    (hl : ∀ t r, trail ≠ .operand (.literal t) :: r) :
    Laid (impliedProduct trail) ∧ awaited (impliedProduct trail) = .operand := by
  rcases trail with _ | ⟨⟨o⟩ | op | _ | _, r⟩
  · exact ⟨h, rfl⟩
  · cases o with
    | literal t => exact absurd rfl (hl t r)
    | applied fn o c => exact ⟨h.operator (awaited_operand_of_not_bare rfl) .mul, rfl⟩
  · exact ⟨h, rfl⟩
  · exact ⟨h, rfl⟩
  · exact ⟨h.operator rfl .mul, rfl⟩

theorem Sound.begin (h : e.Sound) (hn : e.afterEquals = false)
    (hl : ∀ t r, e.trail ≠ .operand (.literal t) :: r) {text : List Char}
    (ht : (Operand.literal text).Sound) : (e.begin text).Sound := by
  obtain ⟨hi, ha⟩ := laid_impliedProduct h.laid hl
  exact h.withTrail hn (hi.operand ha ht)

/-- Characters behind the number being typed. -/
theorem Sound.retype (h : e.Sound) (hn : e.afterEquals = false) {t t' : List Char}
    {r : List Token} (he : e.trail = .operand (.literal t) :: r) (ht : t' ≠ [])
    (hp : t'.count '.' ≤ 1) : (e.withTrail (.operand (.literal t') :: r)).Sound := by
  have hl := h.laid
  rw [he] at hl
  exact h.withTrail hn (hl.replace (.literal ht hp))

theorem Sound.count_point (h : e.Sound) {t : List Char} {r : List Token}
    (he : e.trail = .operand (.literal t) :: r) : t.count '.' ≤ 1 := by
  have hl := h.laid
  rw [he] at hl
  cases hl.sound with
  | literal _ hp => exact hp

theorem Sound.putDigit (h : e.Sound) (hn : e.afterEquals = false) {d : Char}
    (hd : isAsciiDigit d = true) : (e.putDigit d).2.Sound := by
  have hp : d ≠ '.' := by
    rintro rfl
    revert hd
    decide
  unfold Editor.putDigit
  split
  · next t r he =>
    have ht := h.count_point he
    split
    · split
      · exact h
      · refine h.retype hn he (by simp) ?_
        have := (List.dropLast_sublist t).count_le '.'
        rw [List.count_append, List.count_singleton]
        simp [hp]
        omega
    · refine h.retype hn he (by simp) ?_
      simpa [hp] using ht
  · next hl => exact h.begin hn hl (.literal (by simp) (by simp [hp]))

theorem Sound.doubleZero (h : e.Sound) : e.doubleZero.2.Sound := by
  have hs := h.leaveEquals false
  have hn := leaveEquals_afterEquals false e
  unfold Editor.doubleZero
  dsimp only
  split
  · next t r he =>
    split
    · exact hs
    · exact hs.retype hn he (by simp) (by simpa using hs.count_point he)
  · next hl => exact hs.begin hn hl (.literal (by simp) (by decide))

theorem Sound.dot (h : e.Sound) : e.dot.2.Sound := by
  have hs := h.leaveEquals false
  have hn := leaveEquals_afterEquals false e
  unfold Editor.dot
  dsimp only
  split
  · next t r he =>
    split
    · exact hs
    · next hp =>
      have ht : t.count '.' = 0 := List.count_eq_zero.2 (by simpa using hp)
      refine hs.retype hn he ?_ ?_
      · split <;> simp
      · split <;> simp [ht]
  · next hl => exact hs.begin hn hl (.literal (by simp) (by decide))

theorem Sound.putOperator (h : e.Sound) (hn : e.afterEquals = false) (op : BinOp) :
    (e.putOperator op).2.Sound := by
  have hl := h.laid
  have hm : (Operand.literal ['-']).Sound := .literal (by simp) (by decide)
  unfold Editor.putOperator
  split
  · next he =>
    split
    · exact h.withTrail hn (hl.operand (by rw [he]; rfl) hm)
    · exact h
  · next r he =>
    split
    · exact h.withTrail hn (hl.operand (by rw [he]; rfl) hm)
    · exact h
  · next op' r he =>
    split
    · exact h
    · rw [he] at hl
      -- The operator that was there is replaced, unless it stands between a number and a sign.
      exact h.withTrail hn (hl.tail.operator hl.awaited_operator op)
  · next o r he =>
    split
    · exact h
    · next hb =>
      have ha := awaited_operand_of_not_bare (r := r) (by simpa using hb)
      rw [← he] at ha
      exact h.withTrail hn (hl.operator ha op)
  · next r he => exact h.withTrail hn (hl.operator (by rw [he]; rfl) op)

theorem Sound.openParen (h : e.Sound) : e.openParen.Sound := by
  have hs := h.leaveEquals false
  have hn := leaveEquals_afterEquals false e
  have hl := hs.laid
  unfold Editor.openParen
  dsimp only
  split
  · next o r he =>
    split
    · next hb => exact hs.withTrail hn (hl.opening (by rw [he]; simp [awaited, hb]))
    · next hb =>
      have ha := awaited_operand_of_not_bare (r := r) (by simpa using hb)
      rw [← he] at ha
      exact hs.withTrail hn ((hl.operator ha .mul).opening (by simp [awaited]))
  · next r he =>
    exact hs.withTrail hn ((hl.operator (by rw [he]; rfl) .mul).opening (by simp [awaited]))
  · next ho hc =>
    refine hs.withTrail hn (hl.opening ?_)
    generalize (e.leaveEquals false).trail = trail at ho hc
    rcases trail with _ | ⟨_ | _ | _ | _, r⟩ <;> simp_all [awaited]

theorem Sound.closeParen (h : e.Sound) : e.closeParen.2.Sound := by
  have hl := h.laid
  unfold Editor.closeParen
  split
  · exact h
  · next hc =>
    obtain ⟨hn, hd⟩ : e.afterEquals = false ∧ 0 < depthOf e.trail := by
      simpa [openCount] using hc
    split
    · exact h
    · exact h
    · next o r he =>
      split
      · exact h
      · next hb =>
        have ha := awaited_operand_of_not_bare (r := r) (by simpa using hb)
        rw [← he] at ha
        exact h.withTrail hn (hl.closing ha hd)
    · next ho hp hx =>
      refine h.withTrail hn (hl.closing ?_ hd)
      generalize e.trail = trail at ho hp hx hd
      rcases trail with _ | ⟨_ | _ | _ | _, r⟩ <;> simp_all [awaited]

theorem Sound.backspace (h : e.Sound) : e.backspace.2.Sound := by
  have hl := h.laid
  unfold Editor.backspace
  split
  · exact h
  · next hn =>
    have hn : e.afterEquals = false := by simpa using hn
    split
    · exact h
    · next t r he =>
      dsimp only
      split
      · rw [he] at hl
        exact h.withTrail hn hl.tail
      · next hd =>
        have := (List.dropLast_sublist t).count_le '.'
        exact h.retype hn he hd (Nat.le_trans this (h.count_point he))
    · next fn o c r he =>
      rw [he] at hl
      exact h.withTrail hn (hl.replace hl.sound.source.1)
    · next t r _ _ he =>
      rw [he] at hl
      exact h.withTrail hn hl.tail

theorem sound_flipped {o : Operand} (h : o.Sound) (hb : o.isBareSign = false) :
    (flipped o).Sound := by
  cases h with
  | @literal t ht hp =>
    refine .literal ?_ (by simpa [count_toggleSign] using hp)
    unfold toggleSign
    split
    · next s =>
      rintro rfl
      simp [Operand.isBareSign] at hb
    · simp
  | @applied fn o c hf ho hs hc =>
    -- A function is not turned itself: a negation is put around it.
    have h := Operand.Sound.applied hf ho hs hc
    cases fn with
    | negate => exact absurd rfl hf
    | sqrt | square | percent => exact .negated hf h
  | negated _ h => exact h

theorem Sound.signFlip (h : e.Sound) : e.signFlip.2.Sound := by
  unfold Editor.signFlip
  split
  · exact h
  · next o ho =>
    obtain ⟨hb, r, he⟩ := h.target ho
    have hs := h.leaveEquals true
    have hl := hs.laid
    rw [he] at hl
    exact hs.replaceLast (leaveEquals_afterEquals true e) he (sound_flipped hl.sound hb)

theorem computedText_isSignedNumber {fn : UnaryFn} {source c : List Char}
    (h : computedText fn source = .ok c) : IsSignedNumber c := by
  unfold computedText at h
  simp only [bind, Except.bind, pure, Except.pure, throw, throwThe, MonadExceptOf.throw] at h
  split at h
  · cases h
  · split at h
    · cases h
    · next v hv =>
      split at h
      · cases h
      · next hr =>
        obtain rfl := Except.ok.inj h
        exact isSignedNumber_formatNumber hr

theorem FunctionKey.fn?_ne_negate {key : FunctionKey} {fn : UnaryFn} (h : key.fn? = some fn) :
    fn ≠ .negate := by
  rintro rfl
  unfold FunctionKey.fn? at h
  split at h
  · cases h
  · next hf => exact hf (Option.some.inj h ▸ rfl)
  · repeat' split at h
    all_goals cases h

theorem Sound.applied (h : e.Sound) {fn : UnaryFn} {c : List Char} (hf : fn ≠ .negate)
    (ho : e.target? = some o) (hc : computedText fn o.value = .ok c) :
    ((e.leaveEquals true).replaceLast (.applied fn o c)).Sound := by
  obtain ⟨hb, r, he⟩ := h.target ho
  have hs := h.leaveEquals true
  have hl := hs.laid
  rw [he] at hl
  exact hs.replaceLast (leaveEquals_afterEquals true e) he
    (.applied hf hl.sound hb (computedText_isSignedNumber hc))

theorem Sound.equals (h : e.Sound) {v : Option Evaluation} {e' : Editor}
    (hk : e.equals = .ok (v, e')) : e'.Sound := by
  unfold Editor.equals at hk
  split at hk
  · cases hk
    exact h
  · split at hk
    · cases hk
    · next v hv =>
      cases hk
      refine ⟨trivial, rfl, fun _ => rfl, ?_⟩
      rintro c ⟨⟩
      by_cases hr : formatNumber v = errorText
      · exact .inr hr
      · exact .inl (isSignedNumber_formatNumber hr)

theorem Sound.pressed (h : e.Sound) {k : Key} {e' : Editor} (hp : Pressed e k e') :
    e'.Sound := by
  cases hp with
  | digit hd => exact (h.leaveEquals false).putDigit (leaveEquals_afterEquals false e) hd
  | doubleZero => exact h.doubleZero
  | operator o => exact (h.leaveEquals true).putOperator (leaveEquals_afterEquals true e) o
  | dot => exact h.dot
  | idle => exact h
  | function hf ho hc => exact h.applied (FunctionKey.fn?_ne_negate hf) ho hc
  | signFlip => exact h.signFlip
  | backspace => exact h.backspace
  | openParen => exact h.openParen
  | closeParen => exact h.closeParen
  | clear => exact sound_empty
  | equals hv => exact h.equals hv

/-- A key press keeps the layout, whatever it answers. -/
theorem Sound.press (h : e.Sound) (k : Key) : (e.press k).2.Sound :=
  press_of_pressed h fun _ hp => h.pressed hp

/-- The layout after any sequence of key presses, those that fail included. -/
theorem sound_run (keys : List Key) : (run keys).Sound :=
  run_induction sound_empty (fun _ k h => h.press k) keys

end Editor

end CovertVault.Keypad
