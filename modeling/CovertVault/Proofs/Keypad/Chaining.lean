import CovertVault.Proofs.Formula.Accuracy
import CovertVault.Proofs.Formula.Finite
import CovertVault.Proofs.Keypad.Layout
import CovertVault.Proofs.Number.Arithmetic

namespace CovertVault.Formula
open Number

variable {v : Float} {s : List Char}

theorem exists_shows_formatNumber (h : v.isFinite = true) :
    ∃ (n : DecimalText) (d : ExactFloat), formatNumber v = n.text ∧ n.Shows d := by
  obtain ⟨d, hd⟩ := exists_exactFloat h
  obtain ⟨-, -, hr⟩ := exact_spec hd
  obtain ⟨n, htext, hn, -⟩ := exists_shows hr
  refine ⟨n, d, ?_, hn⟩
  rw [formatNumber, hd]
  exact htext

theorem IsSignedNumber.ne_nil (h : IsSignedNumber s) : s ≠ [] := by
  obtain h | ⟨r, rfl, -⟩ := h
  · obtain ⟨c, r, rfl, -⟩ := h.head
    exact List.cons_ne_nil c r
  · exact List.cons_ne_nil '-' r

theorem errorText_not_number : ¬ IsSignedNumber errorText := by
  rw [← isLiteral_iff]
  decide

theorem formatNumber_eq_errorText : formatNumber v = errorText ↔ v.isFinite = false := by
  constructor
  · intro he
    by_contra hf
    obtain ⟨d, hd⟩ := exists_exactFloat (Bool.of_not_eq_false hf)
    rw [formatNumber, hd] at he
    exact errorText_not_number (he ▸ isSignedNumber_exactText d)
  · intro hf
    unfold formatNumber
    split
    · rfl
    · next d hd =>
      rw [(exact_spec hd).1] at hf
      cases hf

/-- The text of a finite number is a literal, and a finite number is read back from it. -/
theorem formatNumber_readable (h : v.isFinite = true) :
    IsSignedNumber (formatNumber v) ∧ (literalValue (formatNumber v)).isFinite = true ∧
      ∃ w, evaluate (formatNumber v) = .ok w := by
  have hne : formatNumber v ≠ errorText := fun he => by
    rw [formatNumber_eq_errorText.1 he] at h
    cases h
  have hs := isSignedNumber_formatNumber hne
  obtain ⟨n, d, htext, hn⟩ := exists_shows_formatNumber h
  have hlen := hn.decimals.trans (by decide : 10 ≤ 330)
  rw [htext] at hs ⊢
  obtain ⟨w, hw, -⟩ := hn.wellFormed.evaluate_nearest hlen hn.power hn.size_le
  exact ⟨hs, (hn.wellFormed.literalValue_nearest hlen hn.power hn.size_le).finite, w, hw⟩

/-- A number that is read is one from end to end. -/
theorem isLiteral_of_mem_lexFrom {p : Nat} {u : Bool} {t : List Char}
    (ht : .number t ∈ lexFrom p u s) : isLiteral t = true := by
  fun_induction lexFrom p u s
  case case1 => cases ht
  case case2 ih => exact ih ht
  case case3 ih | case6 ih | case7 ih | case8 ih =>
    exact ih ((List.mem_cons.1 ht).resolve_left nofun)
  case case4 | case9 => simp at ht
  case case5 hs _ ih =>
    obtain he | ht := List.mem_cons.1 ht
    · obtain rfl := Lexeme.number.inj he
      exact isLiteral_iff.2 (isSignedNumber_of_scan hs)
    · exact ih ht

end CovertVault.Formula

namespace CovertVault.Keypad
open Formula Number Editor

variable {e : Editor} {c : List Char} {fn : UnaryFn}

/-- Where the key of a function gives a finite number: a root at what is not negative, a square
where it does not overflow, a hundredth everywhere. -/
def HasValue : UnaryFn → Float → Prop
  | .sqrt, v => 0 ≤ valueOf v
  | .square, v => (v * v).isFinite = true
  | _, _ => True

theorem computedText_of_value {v : Float} (hc : IsSignedNumber c)
    (hv : functionValue fn (literalValue c) = .ok v) :
    computedText fn c =
      if v.isFinite = true then .ok (formatNumber v) else .error .invalidInput := by
  have herr : (formatNumber v = errorText) ↔ ¬ v.isFinite = true := by
    rw [formatNumber_eq_errorText, Bool.not_eq_true]
  unfold computedText
  rw [isLiteral_iff.2 hc, hv]
  by_cases hf : v.isFinite = true
  · have hne : formatNumber v ≠ errorText := fun he => herr.1 he hf
    simp [hf, hne, bind, Except.bind, pure, Except.pure]
  · have he := herr.2 hf
    simp [hf, he, bind, Except.bind, throw, throwThe, MonadExceptOf.throw]

/-- A function of a finite number is refused where it has no value, and only there. -/
theorem computedText_spec (hc : IsSignedNumber c) (hv : (literalValue c).isFinite = true)
    (fn : UnaryFn) :
    (HasValue fn (literalValue c) → ∃ x, computedText fn c = .ok x ∧ IsSignedNumber x) ∧
      (¬ HasValue fn (literalValue c) → computedText fn c = .error .invalidInput) := by
  have hfinite {v : Float} (hf : functionValue fn (literalValue c) = .ok v)
      (h : v.isFinite = true) : ∃ x, computedText fn c = .ok x ∧ IsSignedNumber x :=
    ⟨_, (computedText_of_value hc hf).trans (if_pos h), (formatNumber_readable h).1⟩
  cases fn with
  | sqrt =>
    constructor
    · intro (h : 0 ≤ valueOf (literalValue c))
      have hlt : ¬ literalValue c < 0.0 := fun hlt => not_lt.2 h ((lt_zero_iff hv).1 hlt)
      exact hfinite (if_neg hlt) (isFinite_sqrt hv h)
    · intro (h : ¬ 0 ≤ valueOf (literalValue c))
      have hlt : literalValue c < 0.0 := (lt_zero_iff hv).2 (not_le.1 h)
      unfold computedText
      rw [isLiteral_iff.2 hc, functionValue, if_pos hlt]
      rfl
  | square =>
    exact ⟨fun h => hfinite rfl h, fun h => (computedText_of_value hc rfl).trans (if_neg h)⟩
  | percent | negate =>
    exact ⟨fun _ => hfinite rfl (isFinite_div_hundred hv), fun h => absurd trivial h⟩

namespace Editor

/-- The result that is held is the text of a finite number. -/
def HoldsFinite (e : Editor) : Prop :=
  ∀ c, e.carry = some c → ∃ v : Float, v.isFinite = true ∧ c = formatNumber v

theorem HoldsFinite.of_carry {e' : Editor} (h : e.HoldsFinite) (hc : e'.carry = e.carry) :
    e'.HoldsFinite := fun c he => h c (hc ▸ he)

theorem HoldsFinite.leaveEquals (h : e.HoldsFinite) (seed : Bool) :
    (e.leaveEquals seed).HoldsFinite := by
  unfold Editor.leaveEquals
  split
  · split <;> exact nofun
  · exact h

theorem carry_putDigit (d : Char) (e : Editor) : (e.putDigit d).2.carry = e.carry := by
  unfold putDigit
  repeat' split
  all_goals rfl

theorem carry_putOperator (o : BinOp) (e : Editor) : (e.putOperator o).2.carry = e.carry := by
  unfold putOperator
  repeat' split
  all_goals rfl

theorem carry_doubleZero (e : Editor) :
    e.doubleZero.2.carry = (e.leaveEquals false).carry := by
  unfold doubleZero
  dsimp only
  repeat' split
  all_goals rfl

theorem carry_dot (e : Editor) : e.dot.2.carry = (e.leaveEquals false).carry := by
  unfold dot
  dsimp only
  repeat' split
  all_goals rfl

theorem carry_openParen (e : Editor) : e.openParen.carry = (e.leaveEquals false).carry := by
  unfold openParen
  dsimp only
  repeat' split
  all_goals rfl

theorem carry_closeParen (e : Editor) : e.closeParen.2.carry = e.carry := by
  unfold closeParen
  repeat' split
  all_goals rfl

theorem carry_backspace (e : Editor) : e.backspace.2.carry = e.carry := by
  unfold backspace
  repeat' split
  all_goals rfl

theorem HoldsFinite.signFlip (h : e.HoldsFinite) : e.signFlip.2.HoldsFinite := by
  unfold Editor.signFlip
  split
  · exact h
  · exact (h.leaveEquals true).of_carry rfl

theorem HoldsFinite.equals (h : e.HoldsFinite) {v : Option Evaluation} {e' : Editor}
    (he : e.equals = .ok (v, e')) : e'.HoldsFinite := by
  unfold Editor.equals at he
  split at he
  · cases he
    exact h
  · split at he
    · cases he
    · next w hw =>
      cases he
      rintro c ⟨⟩
      exact ⟨w, isFinite_of_evaluate hw, rfl⟩

theorem HoldsFinite.pressed (h : e.HoldsFinite) {k : Key} {e' : Editor} (hp : Pressed e k e') :
    e'.HoldsFinite := by
  cases hp with
  | digit _ => exact (h.leaveEquals false).of_carry (carry_putDigit _ _)
  | doubleZero => exact (h.leaveEquals false).of_carry (carry_doubleZero e)
  | operator o => exact (h.leaveEquals true).of_carry (carry_putOperator _ _)
  | dot => exact (h.leaveEquals false).of_carry (carry_dot e)
  | idle => exact h
  | function => exact (h.leaveEquals true).of_carry rfl
  | signFlip => exact h.signFlip
  | backspace => exact h.of_carry (carry_backspace e)
  | openParen => exact (h.leaveEquals false).of_carry (carry_openParen e)
  | closeParen => exact h.of_carry (carry_closeParen e)
  | clear => exact nofun
  | equals he => exact h.equals he

theorem holdsFinite_run (keys : List Key) : (run keys).HoldsFinite :=
  run_induction nofun (fun _ _ h => press_of_pressed h fun _ hp => h.pressed hp) keys

theorem press_operator_result (hn : e.afterEquals = true) (hc : e.carry = some c)
    (hs : IsSignedNumber c) {key : List Char} {o : BinOp} (hk : operatorKey? key = some o) :
    e.press (.operator key) =
      (.ok (.changed true), seeded [.operator o, .operand (.literal c)]) := by
  have hb : (Operand.literal c).isBareSign = false := result_not_bare (.inl hs)
  simp only [press, press?, Editor.operator, hk, leaveEquals_result hn hc hs.ne_nil,
    putOperator_seeded hb, Except.map]

theorem press_signFlip_result (hn : e.afterEquals = true) (hc : e.carry = some c)
    (hs : IsSignedNumber c) : e.press .signFlip =
      (.ok (.changed true), seeded [.operand (.literal (toggleSign c))]) := by
  simp only [press, press?, Editor.signFlip, target_result hn hc hs.ne_nil,
    leaveEquals_result hn hc hs.ne_nil]
  rfl

theorem press_function_result (hn : e.afterEquals = true) (hc : e.carry = some c)
    (hs : IsSignedNumber c) {key : FunctionKey} {fn : UnaryFn} (hk : key.fn? = some fn) :
    e.press (.function key) = match computedText fn c with
      | .ok x => (.ok (.changed true), seeded [.operand (.applied fn (.literal c) x)])
      | .error err => (.error err, e) := by
  simp only [press, press?, applyFunction, hk, target_result hn hc hs.ne_nil,
    leaveEquals_result hn hc hs.ne_nil, Operand.value]
  cases computedText fn c <;> rfl

end Editor

/-- Results can be calculated on with. The numbers that are read in a text are literals, and it has
a finite value or none; where it has one, this is shown as something other than the text for an
error, and what is shown has a value. Right behind equals the result is such a text: every operator,
the sign flip and every function that has a value there is taken, and the newest operand is a
literal then. -/
theorem results_chain :
    (∀ s, (∀ t, .number t ∈ lex s → isLiteral t = true) ∧
      ((∃ err, evaluate s = .error err) ∨ ∃ v, evaluate s = .ok v ∧ v.isFinite = true)) ∧
    (∀ s t, evaluateAndFormat s = .ok t → t ≠ errorText ∧ ∃ w, evaluate t = .ok w) ∧
    ∀ keys, (run keys).afterEquals = true →
      ∃ c, (run keys).carry = some c ∧ isLiteral c = true ∧ (literalValue c).isFinite = true ∧
        (∀ key o, operatorKey? key = some o → (run keys).press (.operator key) =
          (.ok (.changed true), seeded [.operator o, .operand (.literal c)])) ∧
        (isLiteral (toggleSign c) = true ∧ (run keys).press .signFlip =
          (.ok (.changed true), seeded [.operand (.literal (toggleSign c))])) ∧
        ∀ key fn, key.fn? = some fn →
          (HasValue fn (literalValue c) → ∃ x, isLiteral x = true ∧
            (run keys).press (.function key) =
              (.ok (.changed true), seeded [.operand (.applied fn (.literal c) x)])) ∧
          (¬ HasValue fn (literalValue c) →
            (run keys).press (.function key) = (.error .invalidInput, run keys)) := by
  refine ⟨fun s => ⟨fun t => isLiteral_of_mem_lexFrom, ?_⟩, fun s t ht => ?_, fun keys hn => ?_⟩
  · cases hv : evaluate s with
    | error err => exact .inl ⟨err, rfl⟩
    | ok v => exact .inr ⟨v, rfl, isFinite_of_evaluate hv⟩
  · obtain ⟨v, hv, rfl⟩ := map_eq_ok ht
    have hf := isFinite_of_evaluate hv
    refine ⟨fun he => ?_, (formatNumber_readable hf).2.2⟩
    rw [formatNumber_eq_errorText.1 he] at hf
    cases hf
  · have hsome := (sound_run keys).carry_isSome
    rw [hn] at hsome
    obtain ⟨c, hc⟩ := Option.isSome_iff_exists.1 hsome
    -- The carried text is that of a finite number, and such a text is a literal with a value.
    obtain ⟨v, hv, rfl⟩ := holdsFinite_run keys c hc
    obtain ⟨hs, hfin, -⟩ := formatNumber_readable hv
    refine ⟨_, hc, isLiteral_iff.2 hs, hfin, fun key o => press_operator_result hn hc hs,
      ⟨isLiteral_iff.2 (isSignedNumber_toggleSign hs), press_signFlip_result hn hc hs⟩,
      fun key fn hk => ?_⟩
    obtain ⟨hvalue, hnone⟩ := computedText_spec hs hfin fn
    rw [press_function_result hn hc hs hk]
    constructor
    · intro h
      obtain ⟨x, hx, hxs⟩ := hvalue h
      rw [hx]
      exact ⟨x, isLiteral_iff.2 hxs, rfl⟩
    · intro h
      rw [hnone h]

/-- A result in scientific form, continued with a plus, and with a root. -/
theorem results_chain_scientific :
    let keys : List Key := .digit ['1'] :: List.replicate 5 .doubleZero ++
      [.operator ['×'], .digit ['1']] ++ List.replicate 5 .doubleZero ++ [.equals]
    evaluateAndFormat "1E+10*1E+10".toList = .ok "1.000000E+20".toList ∧
      (∃ w, evaluate "1.000000E+20".toList = .ok w) ∧
      (run keys).afterEquals = true ∧ (run keys).carry = some "1.000000E+20".toList ∧
      (run keys).press (.operator ['+']) = (.ok (.changed true),
        seeded [.operator .add, .operand (.literal "1.000000E+20".toList)]) ∧
      HasValue .sqrt (literalValue "1.000000E+20".toList) ∧
      ∃ x, isLiteral x = true ∧ (run keys).press (.function (.named ['√'])) = (.ok (.changed true),
        seeded [.operand (.applied .sqrt (.literal "1.000000E+20".toList) x)]) := by
  intro keys
  have hshown : evaluateAndFormat "1E+10*1E+10".toList = .ok "1.000000E+20".toList := by
    decide +kernel
  have hn : (run keys).afterEquals = true := by decide +kernel
  have hcarry : (run keys).carry = some "1.000000E+20".toList := by decide +kernel
  obtain ⟨c, hc, -, hfin, hop, -, hfn⟩ := results_chain.2.2 keys hn
  obtain rfl := Option.some.inj (hcarry.symm.trans hc)
  have hpos : ¬ literalValue "1.000000E+20".toList < 0.0 := by decide +kernel
  have hvalue : HasValue .sqrt (literalValue "1.000000E+20".toList) :=
    not_lt.1 fun h => hpos ((lt_zero_iff hfin).2 h)
  exact ⟨hshown, (results_chain.2.1 _ _ hshown).2, hn, hcarry, hop ['+'] .add (by decide), hvalue,
    (hfn (.named ['√']) .sqrt (by decide)).1 hvalue⟩

end CovertVault.Keypad
