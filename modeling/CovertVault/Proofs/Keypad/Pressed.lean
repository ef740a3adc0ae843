import CovertVault.Keypad.Press
import CovertVault.Proofs.Outcome

namespace CovertVault.Keypad
open Formula Editor Text

theorem isAsciiDigit_of_digitKey? {key : List Char} {d : Char} (h : digitKey? key = some d) :
    isAsciiDigit d = true := by
  unfold digitKey? at h
  split at h
  · split at h
    · cases h
      assumption
    · cases h
  · cases h

namespace Editor

/-- What a key makes of the editor. -/
inductive Pressed (e : Editor) : Key → Editor → Prop
  | digit {text : List Char} {d : Char} : isAsciiDigit d = true →
      Pressed e (.digit text) ((e.leaveEquals false).putDigit d).2
  | doubleZero : Pressed e .doubleZero e.doubleZero.2
  | operator {text : List Char} (o : BinOp) :
      Pressed e (.operator text) ((e.leaveEquals true).putOperator o).2
  | dot : Pressed e .dot e.dot.2
  /-- There is no operand for the function. -/
  | idle (key : FunctionKey) : Pressed e (.function key) e
  | function {key : FunctionKey} {fn : UnaryFn} {o : Operand} {c : List Char} :
      key.fn? = some fn → e.target? = some o → computedText fn o.value = .ok c →
      Pressed e (.function key) ((e.leaveEquals true).replaceLast (.applied fn o c))
  | signFlip : Pressed e .signFlip e.signFlip.2
  | backspace : Pressed e .backspace e.backspace.2
  | openParen : Pressed e .openParen e.openParen
  | closeParen : Pressed e .closeParen e.closeParen.2
  | clear : Pressed e .clear empty
  | equals {v : Option Evaluation} {e' : Editor} : e.equals = .ok (v, e') → Pressed e .equals e'

variable {e e' : Editor}

theorem pressed_of_digit {text : List Char} {b : Bool} (h : e.digit text = .ok (b, e')) :
    Pressed e (.digit text) e' := by
  unfold Editor.digit at h
  split at h
  · cases h
  · next d hd =>
    obtain rfl : ((e.leaveEquals false).putDigit d).2 = e' := congrArg Prod.snd (Except.ok.inj h)
    exact .digit (isAsciiDigit_of_digitKey? hd)

theorem pressed_of_operator {text : List Char} {b : Bool} (h : e.operator text = .ok (b, e')) :
    Pressed e (.operator text) e' := by
  unfold Editor.operator at h
  split at h
  · cases h
  · next o _ =>
    obtain rfl : ((e.leaveEquals true).putOperator o).2 = e' :=
      congrArg Prod.snd (Except.ok.inj h)
    exact .operator o

theorem pressed_of_applyFunction {key : FunctionKey} {b : Bool}
    (h : e.applyFunction key = .ok (b, e')) : Pressed e (.function key) e' := by
  unfold Editor.applyFunction at h
  split at h
  · cases h
  · next fn hf =>
    split at h
    · cases h
      exact .idle key
    · next o ho =>
      obtain ⟨c, hc, h⟩ := bind_eq_ok h
      cases h
      exact .function hf ho hc

theorem pressed_of_press? {k : Key} {reply : Reply} (h : e.press? k = .ok (reply, e')) :
    Pressed e k e' := by
  cases k with
  | digit text =>
    obtain ⟨⟨b, e₁⟩, hd, he⟩ := map_eq_ok h
    cases he
    exact pressed_of_digit hd
  | doubleZero =>
    cases h
    exact .doubleZero
  | operator text =>
    obtain ⟨⟨b, e₁⟩, hd, he⟩ := map_eq_ok h
    cases he
    exact pressed_of_operator hd
  | dot =>
    cases h
    exact .dot
  | function key =>
    obtain ⟨⟨b, e₁⟩, hd, he⟩ := map_eq_ok h
    cases he
    exact pressed_of_applyFunction hd
  | signFlip =>
    cases h
    exact .signFlip
  | backspace =>
    cases h
    exact .backspace
  | openParen =>
    cases h
    exact .openParen
  | closeParen =>
    cases h
    exact .closeParen
  | clear =>
    cases h
    exact .clear
  | equals =>
    obtain ⟨⟨v, e₁⟩, hd, he⟩ := map_eq_ok h
    cases he
    exact .equals hd

/-- A function or a sign flip acts on the newest token: on a complete operand, or on the result
while it is shown. -/
theorem trail_of_target {o : Operand} (ho : e.target? = some o) :
    (∃ r, (e.leaveEquals true).trail = .operand o :: r ∧ o.isBareSign = false) ∨
      ∃ c, e.carry = some c ∧ o = .literal c ∧ (e.leaveEquals true).trail = [.operand o] := by
  unfold target? at ho
  unfold Editor.leaveEquals
  cases hn : e.afterEquals with
  | true =>
    rw [hn] at ho
    simp only [if_true] at ho ⊢
    split at ho
    · next c cs hc =>
      obtain rfl := Option.some.inj ho
      exact .inr ⟨_, hc, rfl, by simp only [hc]⟩
    · cases ho
  | false =>
    rw [hn] at ho
    simp only [Bool.false_eq_true, if_false] at ho ⊢
    split at ho
    · next o' r he =>
      split at ho
      · cases ho
      · next hb =>
        obtain rfl := Option.some.inj ho
        exact .inl ⟨r, he, by simpa using hb⟩
    · cases ho

/-- What holds of the editor and of all that a key can make of it holds after the press, whatever
it answers: a key that is refused leaves the editor alone. -/
theorem press_of_pressed {P : Editor → Prop} (h : P e) {k : Key}
    (hp : ∀ e', Pressed e k e' → P e') : P (e.press k).2 := by
  unfold press
  split
  · next hk => exact hp _ (pressed_of_press? hk)
  · exact h

/-- What an empty editor has and every press keeps. -/
theorem run_induction {P : Editor → Prop} (hempty : P empty)
    (hpress : ∀ e k, P e → P (e.press k).2) (keys : List Key) : P (run keys) := by
  have hr (e : Editor) (h : P e) : P (keys.foldl (fun e k => (e.press k).2) e) := by
    induction keys generalizing e with
    | nil => exact h
    | cons k keys ih => exact ih _ (hpress e k h)
  exact hr empty hempty

theorem leaveEquals_of_editing (h : e.afterEquals = false) (seed : Bool) :
    e.leaveEquals seed = e := by
  unfold leaveEquals
  rw [if_neg (by simp [h])]

/-- The editor that an edit of the result begins with. -/
def seeded (trail : List Token) : Editor := ⟨trail, none, false⟩

variable {c : List Char}

theorem leaveEquals_result (hn : e.afterEquals = true) (hc : e.carry = some c) (hne : c ≠ []) :
    e.leaveEquals true = seeded [.operand (.literal c)] := by
  obtain ⟨d, r, rfl⟩ := List.exists_cons_of_ne_nil hne
  unfold leaveEquals
  rw [if_pos hn, hc]
  rfl

theorem target_result (hn : e.afterEquals = true) (hc : e.carry = some c) (hne : c ≠ []) :
    e.target? = some (.literal c) := by
  obtain ⟨d, r, rfl⟩ := List.exists_cons_of_ne_nil hne
  unfold target?
  rw [if_pos hn, hc]

theorem putOperator_seeded {x : Operand} (hb : x.isBareSign = false) (o : BinOp) :
    (seeded [.operand x]).putOperator o = (true, seeded [.operator o, .operand x]) := by
  simp only [putOperator, seeded, hb, Bool.false_eq_true, if_false, withTrail]

end Editor

end CovertVault.Keypad
