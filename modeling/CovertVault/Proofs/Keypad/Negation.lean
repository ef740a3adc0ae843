import CovertVault.Proofs.Keypad.Drafts

namespace CovertVault.Keypad
open Formula Editor

/-- One of two texts has a leading minus more than the other, which has none. -/
def Turned (v w : List Char) : Prop :=
  ∃ s, s.head? ≠ some '-' ∧ (v = s ∧ w = '-' :: s ∨ v = '-' :: s ∧ w = s)

variable {s t v w : List Char} {o : Operand}

theorem Turned.symm (h : Turned v w) : Turned w v := by
  obtain ⟨s, hs, h⟩ := h
  exact ⟨s, hs, h.symm.imp And.symm And.symm⟩

theorem turned_toggleSign (h : s.head? ≠ some '-') (hv : v = s ∨ v = '-' :: s) :
    Turned v (toggleSign v) := by
  obtain rfl | rfl := hv
  · exact ⟨v, h, .inl ⟨rfl, toggleSign_unsigned h⟩⟩
  · exact ⟨s, h, .inr ⟨rfl, rfl⟩⟩

theorem Turned.toggleSign_eq (h : Turned v w) : toggleSign v = w := by
  obtain ⟨s, hs, ⟨rfl, rfl⟩ | ⟨rfl, rfl⟩⟩ := h
  · exact toggleSign_unsigned hs
  · rfl

theorem turned_of_isSignedNumber (h : IsSignedNumber v) : Turned v (toggleSign v) := by
  obtain h | ⟨s, rfl, h⟩ := h
  · exact turned_toggleSign (h.head_ne (by simp)) (.inl rfl)
  · exact turned_toggleSign (h.head_ne (by simp)) (.inr rfl)

theorem Written.turned {b : Bool} (h : Written b t) (hm : t ≠ ['-']) : Turned t (toggleSign t) := by
  obtain rfl | ⟨negative, s, rfl, hs⟩ := h
  · exact absurd rfl hm
  · cases negative with
    | false => exact turned_toggleSign hs.head_ne (.inl rfl)
    | true => exact turned_toggleSign hs.head_ne (.inr rfl)

theorem Turned.ne_minus (h : Turned v w) (hv : v ≠ []) : w ≠ ['-'] := by
  obtain ⟨s, hs, ⟨rfl, rfl⟩ | ⟨rfl, rfl⟩⟩ := h
  · simpa using hv
  · rintro rfl
    exact hs rfl

/-- A complete operand and its turned one, each of them the flip of the other. -/
theorem Operand.Sound.flipped_turned {b : Bool} (h : o.Sound) (ho : Written b o.origin)
    (hb : o.isBareSign = false) :
    Turned o.value (flipped o).value ∧ flipped (flipped o) = o ∧
      (flipped o).isBareSign = false := by
  cases h with
  | @literal t ht hp =>
    have hturned : Turned t (toggleSign t) :=
      Written.turned ho (by simpa [Operand.isBareSign] using hb)
    refine ⟨hturned, ?_, by simpa [flipped, Operand.isBareSign] using hturned.ne_minus ht⟩
    show Operand.literal (toggleSign (toggleSign t)) = _
    rw [hturned.symm.toggleSign_eq]
  | @applied fn o c hf _ _ hc =>
    have hturned := turned_of_isSignedNumber hc
    cases fn with
    | negate => exact absurd rfl hf
    | sqrt | square | percent => exact ⟨hturned, rfl, rfl⟩
  | @negated fn o c hf h =>
    have hturned := (turned_of_isSignedNumber h.isSignedNumber).symm
    cases fn with
    | negate => exact absurd rfl hf
    | sqrt | square | percent => exact ⟨hturned, rfl, rfl⟩

namespace Editor

variable {e : Editor}

theorem target_editing {r : List Token} (hn : e.afterEquals = false)
    (he : e.trail = .operand o :: r) (hb : o.isBareSign = false) : e.target? = some o := by
  unfold target?
  rw [if_neg (by simp [hn]), he]
  exact if_neg (by simp [hb])

theorem replaceLast_replaceLast (o o' : Operand) (e : Editor) :
    (e.replaceLast o).replaceLast o' = e.replaceLast o' := rfl

theorem replaceLast_self {r : List Token} (he : e.trail = .operand o :: r) :
    e.replaceLast o = e := by
  unfold replaceLast withTrail
  rw [he, List.tail_cons, ← he]

/-- A flip turns the newest operand, or the result while it is shown, and a second flip turns it
back. -/
theorem Sound.signFlip_target (h : e.Sound) (ho : e.Originates Written) (hx : e.target? = some o) :
    ∃ r, (e.leaveEquals true).trail = .operand o :: r ∧
      e.signFlip = (true, (e.leaveEquals true).withTrail (.operand (flipped o) :: r)) ∧
      Turned o.value (flipped o).value ∧ e.signFlip.2.signFlip = (true, e.leaveEquals true) := by
  obtain ⟨hb, r, he⟩ := h.target hx
  have hl := h.leaveEquals true
  have hlaid := hl.laid
  have hwritten := ((ho.leaveEquals true).head he).1 o rfl
  rw [he] at hlaid
  obtain ⟨hturned, hback, hbare⟩ := hlaid.sound.flipped_turned hwritten hb
  have hflip : e.signFlip = (true, (e.leaveEquals true).replaceLast (flipped o)) := by
    unfold Editor.signFlip
    rw [hx]
  have hn : ((e.leaveEquals true).replaceLast (flipped o)).afterEquals = false :=
    leaveEquals_afterEquals true e
  have hnext := target_editing hn rfl hbare
  refine ⟨r, he, ?_, hturned, ?_⟩
  · rw [hflip, Editor.replaceLast, he, List.tail_cons]
  · rw [hflip]
    unfold Editor.signFlip
    rw [hnext]
    dsimp only
    rw [leaveEquals_of_editing hn, hback, replaceLast_replaceLast, replaceLast_self he]

end Editor

/-- The sign flip, wherever it acts: only the newest token changes, what is evaluated of it gains or
loses one leading minus, and a second flip gives back the editor as it was. Behind a result it
always acts, and two flips leave the result as the only operand. -/
theorem signFlip_run (keys : List Key) :
    ((run keys).afterEquals = false → (run keys).signFlip.1 = true → ∃ older o o',
      (run keys).tokens = older ++ [.operand o] ∧
        (run keys).signFlip.2.tokens = older ++ [.operand o'] ∧
        Turned (Token.operand o).evaluable (Token.operand o').evaluable ∧
        (run keys).signFlip.2.signFlip = (true, run keys)) ∧
    ((run keys).afterEquals = true → ∃ c, (run keys).carry = some c ∧
      (run keys).signFlip.1 = true ∧
        (run keys).signFlip.2.signFlip = (true, seeded [.operand (.literal c)])) := by
  have hs := sound_run keys
  have ho := originates_run keys
  generalize run keys = e at hs ho
  -- Behind a result the flip acts on the carried text; before that, on the newest operand.
  constructor
  · intro hn hacts
    obtain ⟨o, hx⟩ : ∃ o, e.target? = some o := by
      unfold Editor.signFlip at hacts
      split at hacts
      · cases hacts
      · next o hx => exact ⟨o, hx⟩
    obtain ⟨r, he, hflip, hturned, hback⟩ := hs.signFlip_target ho hx
    rw [leaveEquals_of_editing hn] at he hflip hback
    refine ⟨r.reverse, o, flipped o, ?_, ?_, hturned, hback⟩
    · rw [tokens, he, List.reverse_cons]
    · rw [hflip]
      exact List.reverse_cons
  · intro hn
    obtain ⟨c, hc⟩ := Option.isSome_iff_exists.1 (hs.carry_isSome.trans hn)
    have hne : c ≠ [] := by
      cases result_sound (hs.carried c hc) with
      | literal h _ => exact h
    obtain ⟨r, -, hflip, -, hback⟩ := hs.signFlip_target ho (target_result hn hc hne)
    rw [leaveEquals_result hn hc hne] at hback
    exact ⟨c, hc, by rw [hflip], hback⟩

/-- A negation within a square: the flip wraps the square once more. -/
theorem signFlip_nestedNegation :
    let keys : List Key := [.digit ['9'], .function (.named ['√']), .signFlip,
      .function (.named ['²'])]
    (run keys).afterEquals = false ∧ (run keys).signFlip.1 = true ∧
      (run keys).shownText = "-√9²".toList ∧ (run keys).evaluableText = "9".toList ∧
      (run keys).signFlip.2.shownText = "-(-√9²)".toList ∧
      (run keys).signFlip.2.evaluableText = "-9".toList ∧
      (run keys).signFlip.2.signFlip = (true, run keys) := by
  intro keys
  have hn : (run keys).afterEquals = false := by decide +kernel
  have hacts : (run keys).signFlip.1 = true := by decide +kernel
  obtain ⟨older, o, o', -, -, -, hback⟩ := (signFlip_run keys).1 hn hacts
  exact ⟨hn, hacts, by decide +kernel, by decide +kernel, by decide +kernel, by decide +kernel,
    hback⟩

end CovertVault.Keypad
