import CovertVault.Proofs.Keypad.Pressed

namespace CovertVault.Keypad
open Formula Editor Text

/-- The number below all functions. -/
def Operand.origin : Operand → List Char
  | .literal t => t
  | .applied _ o _ => o.origin

/-- A property of numbers that the keys keep. The flag says whether the number may be a result. -/
structure Typing (P : Bool → List Char → Prop) : Prop where
  first : ∀ {b d}, isAsciiDigit d = true → P b [d]
  minus : ∀ {b}, P b ['-']
  digit : ∀ {b t d}, P b t → isAsciiDigit d = true → P b (t ++ [d])
  point : ∀ {b t}, P b t → '.' ∉ t → t ≠ ['-'] → P b (t ++ ['.'])
  cut : ∀ {b t}, P b t → t.dropLast ≠ [] → P b t.dropLast
  flip : ∀ {b t}, P b t → t ≠ ['-'] → P b (toggleSign t)
  result : ∀ {s v}, evaluate s = .ok v → P true (formatNumber v)

/-- The property for every number among tokens, newest first. -/
def Originate (P : Bool → List Char → Prop) : List Token → Prop
  | [] => True
  | t :: r => (∀ o, t = .operand o → P r.isEmpty o.origin) ∧ Originate P r

structure Editor.Originates (P : Bool → List Char → Prop) (e : Editor) : Prop where
  trail : Originate P e.trail
  carry : ∀ c, e.carry = some c → P true c

variable {P : Bool → List Char → Prop}

theorem Typing.zeros (hP : Typing P) {b : Bool} {t : List Char} (h : P b t) :
    P b (t ++ ['0', '0']) := by
  have hz := hP.digit (hP.digit h (d := '0') rfl) (d := '0') rfl
  rwa [List.append_assoc] at hz

theorem Typing.zeroPoint (hP : Typing P) {b : Bool} : P b ['0', '.'] :=
  hP.point (hP.first (d := '0') rfl) (by decide) (by decide)

theorem Typing.minusZeroPoint (hP : Typing P) {b : Bool} : P b ['-', '0', '.'] :=
  hP.point (hP.digit hP.minus (d := '0') rfl) (by decide) (by decide)

theorem Typing.flipped (hP : Typing P) {b : Bool} {o : Operand} (h : P b o.origin)
    (ho : o.isBareSign = false) : P b (flipped o).origin := by
  cases o with
  | literal t => exact hP.flip h (by simpa [Operand.isBareSign] using ho)
  | applied fn o c => cases fn <;> exact h

theorem originate_impliedProduct {trail : List Token} (h : Originate P trail) :
    Originate P (impliedProduct trail) := by
  unfold impliedProduct
  split
  · exact ⟨nofun, h⟩
  · exact ⟨nofun, h⟩
  · exact h

namespace Editor

variable {e : Editor}

theorem originates_empty : empty.Originates P := ⟨trivial, nofun⟩

theorem Originates.put (h : e.Originates P) {trail : List Token} (ht : Originate P trail) :
    (e.withTrail trail).Originates P := ⟨ht, h.carry⟩

theorem Originates.head (h : e.Originates P) {t : Token} {r : List Token} (he : e.trail = t :: r) :
    (∀ o, t = .operand o → P r.isEmpty o.origin) ∧ Originate P r := by
  have ht := h.trail
  rwa [he] at ht

/-- Another token in front, which is not an operand. -/
theorem Originates.cons (h : e.Originates P) {t : Token} (ht : ∀ o, t ≠ .operand o) :
    (e.withTrail (t :: e.trail)).Originates P :=
  h.put ⟨fun o ho => absurd ho (ht o), h.trail⟩

theorem Originates.consMinus (hP : Typing P) (h : e.Originates P) :
    (e.withTrail (.operand (.literal ['-']) :: e.trail)).Originates P :=
  h.put ⟨fun o ho => by cases ho; exact hP.minus, h.trail⟩

/-- Another operand in the place of the newest. -/
theorem Originates.replace (h : e.Originates P) {t : Token} {r : List Token}
    (he : e.trail = t :: r) {o : Operand} (ho : P r.isEmpty o.origin) :
    (e.withTrail (.operand o :: r)).Originates P :=
  h.put ⟨fun o' ho' => by cases ho'; exact ho, (h.head he).2⟩

theorem Originates.begin (h : e.Originates P) {s : List Char} (hs : ∀ b, P b s) :
    (e.begin s).Originates P :=
  h.put ⟨fun o ho => by cases ho; exact hs _, originate_impliedProduct h.trail⟩

theorem Originates.leaveEquals (h : e.Originates P) (seed : Bool) :
    (e.leaveEquals seed).Originates P := by
  unfold Editor.leaveEquals
  split
  · split
    · next c cs hc => exact ⟨⟨fun o ho => by cases ho; exact h.carry _ hc, trivial⟩, nofun⟩
    · exact originates_empty
  · exact h

theorem Originates.replaceLast (h : e.Originates P) {o : Operand} {r : List Token}
    (he : e.trail = .operand o :: r) {o' : Operand} (ho : P r.isEmpty o'.origin) :
    (e.replaceLast o').Originates P := by
  unfold Editor.replaceLast
  rw [he]
  exact h.replace he ho

theorem Originates.putDigit (hP : Typing P) (h : e.Originates P) {d : Char}
    (hd : isAsciiDigit d = true) : (e.putDigit d).2.Originates P := by
  unfold Editor.putDigit
  split
  · next t r he =>
    have ht : P r.isEmpty t := (h.head he).1 _ rfl
    split
    · next hz =>
      split
      · exact h
      · -- The digit takes the place of a zero, with a sign before it or not.
        refine h.replace he ?_
        obtain rfl | rfl : t = ['0'] ∨ t = ['-', '0'] := by simpa [isLoneZero] using hz
        · exact hP.first hd
        · exact hP.digit hP.minus hd
    · exact h.replace he (hP.digit ht hd)
  · exact h.begin fun _ => hP.first hd

theorem Originates.doubleZero (hP : Typing P) (h : e.Originates P) :
    e.doubleZero.2.Originates P := by
  have hl := h.leaveEquals false
  unfold Editor.doubleZero
  dsimp only
  split
  · next t r he =>
    have ht : P r.isEmpty t := (hl.head he).1 _ rfl
    split
    · exact hl
    · exact hl.replace he (hP.zeros ht)
  · exact hl.begin fun _ => hP.digit (hP.first (d := '0') rfl) (d := '0') rfl

theorem Originates.dot (hP : Typing P) (h : e.Originates P) : e.dot.2.Originates P := by
  have hl := h.leaveEquals false
  unfold Editor.dot
  dsimp only
  split
  · next t r he =>
    have ht : P r.isEmpty t := (hl.head he).1 _ rfl
    split
    · exact hl
    · next hp =>
      refine hl.replace he ?_
      show P r.isEmpty (t ++ if t = ['-'] then ['0', '.'] else ['.'])
      split
      · next hm =>
        rw [hm]
        exact hP.minusZeroPoint
      · next hm => exact hP.point ht (by simpa using hp) hm
  · exact hl.begin fun _ => hP.zeroPoint

theorem Originates.putOperator (hP : Typing P) (h : e.Originates P) (op : BinOp) :
    (e.putOperator op).2.Originates P := by
  unfold Editor.putOperator
  split
  · split
    · exact h.consMinus hP
    · exact h
  · split
    · exact h.consMinus hP
    · exact h
  · next he =>
    split
    · exact h
    · exact h.put ⟨nofun, (h.head he).2⟩
  · split
    · exact h
    · exact h.cons nofun
  · exact h.cons nofun

theorem Originates.signFlip (hP : Typing P) (h : e.Originates P)
    (hc : e.carry = some ['-'] → P true []) : e.signFlip.2.Originates P := by
  have hl := h.leaveEquals true
  unfold Editor.signFlip
  split
  · exact h
  · next o ho =>
    obtain ⟨r, he, hb⟩ | ⟨c, hcarry, rfl, he⟩ := trail_of_target ho
    · exact hl.replaceLast he (hP.flipped ((hl.head he).1 _ rfl) hb)
    · refine hl.replaceLast he ?_
      by_cases hm : c = ['-']
      · subst hm
        exact hc hcarry
      · exact hP.flip (h.carry c hcarry) hm

theorem Originates.applied (h : e.Originates P) {fn : UnaryFn} {o : Operand} {c : List Char}
    (ho : e.target? = some o) :
    ((e.leaveEquals true).replaceLast (.applied fn o c)).Originates P := by
  have hl := h.leaveEquals true
  obtain ⟨r, he⟩ : ∃ r, (e.leaveEquals true).trail = .operand o :: r := by
    obtain ⟨r, he, -⟩ | ⟨_, -, -, he⟩ := trail_of_target ho
    · exact ⟨r, he⟩
    · exact ⟨[], he⟩
  exact hl.replaceLast he ((hl.head he).1 o rfl)

theorem Originates.backspace (hP : Typing P) (h : e.Originates P) : e.backspace.2.Originates P := by
  unfold Editor.backspace
  split
  · exact h
  · split
    · exact h
    · next t r he =>
      dsimp only
      obtain ⟨ht, hr⟩ := h.head he
      split
      · exact h.put hr
      · next hd => exact h.replace he (hP.cut (ht _ rfl) hd)
    · next fn o c r he =>
      have ho : P r.isEmpty (Operand.applied fn o c).origin := (h.head he).1 _ rfl
      exact h.replace he ho
    · next he => exact h.put (h.head he).2

theorem Originates.openParen (h : e.Originates P) : e.openParen.Originates P := by
  have hl := h.leaveEquals false
  have hp : Originate P (.opening :: .operator .mul :: (e.leaveEquals false).trail) :=
    ⟨nofun, nofun, hl.trail⟩
  unfold Editor.openParen
  dsimp only
  split
  · split
    · exact hl.cons nofun
    · exact hl.put hp
  · exact hl.put hp
  · exact hl.cons nofun

theorem Originates.closeParen (h : e.Originates P) : e.closeParen.2.Originates P := by
  unfold Editor.closeParen
  split
  · exact h
  · split
    · exact h
    · exact h
    · split
      · exact h
      · exact h.cons nofun
    · exact h.cons nofun

theorem Originates.equals (hP : Typing P) (h : e.Originates P) {v : Option Evaluation} {e' : Editor}
    (hk : e.equals = .ok (v, e')) : e'.Originates P := by
  unfold Editor.equals at hk
  split at hk
  · cases hk
    exact h
  · split at hk
    · cases hk
    · next hv =>
      cases hk
      refine ⟨trivial, ?_⟩
      rintro c ⟨⟩
      exact hP.result hv

/-- Every key keeps the property, if there is no bare sign to flip. -/
theorem Originates.pressed (hP : Typing P) (h : e.Originates P)
    (hc : e.carry = some ['-'] → P true []) {k : Key} {e' : Editor} (hp : Pressed e k e') :
    e'.Originates P := by
  cases hp with
  | digit hd => exact (h.leaveEquals false).putDigit hP hd
  | doubleZero => exact h.doubleZero hP
  | operator o => exact (h.leaveEquals true).putOperator hP o
  | dot => exact h.dot hP
  | idle => exact h
  | function _ ho _ => exact h.applied ho
  | signFlip => exact h.signFlip hP hc
  | backspace => exact h.backspace hP
  | openParen => exact h.openParen
  | closeParen => exact h.closeParen
  | clear => exact originates_empty
  | equals hv => exact h.equals hP hv

end Editor

end CovertVault.Keypad
