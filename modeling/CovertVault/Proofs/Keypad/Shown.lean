import CovertVault.Proofs.Keypad.Drafts

namespace CovertVault.Keypad
open Formula Number Text

/-- An operand and all that lies below the functions on it. -/
def Operand.parts : Operand → List Operand
  | .literal t => [.literal t]
  | .applied fn o c => .applied fn o c :: o.parts

/-- A square or a percentage of what is shown with a minus or a root in front. -/
def Operand.isMixed : Operand → Bool
  | .applied .square o _ | .applied .percent o _ =>
    o.shown.head? = some '-' ∨ o.shown.head? = some '√'
  | _ => false

/-- Two operands that look the same and count as different numbers, because the sign behind them
belongs to the whole in one of them. -/
structure Operand.Confused (o o' : Operand) : Prop where
  shown : o.shown = o'.shown
  value : o.value ≠ o'.value
  mixed : o.isMixed = true ∨ o'.isMixed = true

instance (o o' : Operand) : Decidable (o.Confused o') :=
  decidable_of_iff (o.shown = o'.shown ∧ o.value ≠ o'.value ∧
    (o.isMixed = true ∨ o'.isMixed = true))
    ⟨fun ⟨hs, hv, hm⟩ => ⟨hs, hv, hm⟩, fun h => ⟨h.shown, h.value, h.mixed⟩⟩

/-- An operand that is no bare sign. Each function on it has been computed from what it stands on,
which is a complete number. -/
inductive Operand.Complete : Operand → Prop
  | literal {b : Bool} {t : List Char} : Written b t → IsSignedNumber t → Complete (.literal t)
  | root {o : Operand} {c : List Char} : Complete o → Editor.computedText .sqrt o.value = .ok c →
      Complete (.applied .sqrt o c)
  | behind {fn : UnaryFn} {o : Operand} {c : List Char} : fn = .square ∨ fn = .percent →
      Complete o → Editor.computedText fn o.value = .ok c → Complete (.applied fn o c)
  | negated {fn : UnaryFn} {o : Operand} {c : List Char} : fn ≠ .negate →
      Complete (.applied fn o c) →
      Complete (.applied .negate (.applied fn o c) (Editor.toggleSign c))

namespace Operand

variable {o o' : Operand} {fn : UnaryFn} {t c : List Char}

theorem shown_behind (hf : fn = .square ∨ fn = .percent) (o : Operand) (c : List Char) :
    (Operand.applied fn o c).shown = o.shown ++ [fn.symbol] := by
  rcases hf with rfl | rfl <;> rfl

theorem isMixed_behind (hf : fn = .square ∨ fn = .percent) :
    (Operand.applied fn o c).isMixed = true ↔
      o.shown.head? = some '-' ∨ o.shown.head? = some '√' := by
  rcases hf with rfl | rfl <;> exact decide_eq_true_iff

/-- The characters of numbers as they are typed. -/
def IsTyped (c : Char) : Prop := isDecimal c = true ∨ c = '.' ∨ c = 'E' ∨ c = '+' ∨ c = '-'

theorem isTyped_of_draft {b : Bool} {s : List Char} (h : Draft b s) : ∀ c ∈ s, IsTyped c := by
  intro c hc
  cases h with
  | whole h => exact .inl (h.2 c hc)
  | pointed h hf =>
    rcases List.mem_append.1 hc with hc | hc
    · exact .inl (h.2 c hc)
    · rcases List.mem_cons.1 hc with rfl | hc
      · exact .inr (.inl rfl)
      · exact .inl (hf c hc)
  | scientific h hf hs hx =>
    simp only [List.mem_append, List.mem_cons] at hc
    rcases hc with hc | rfl | hc | rfl | hc | hc
    · exact .inl (h.2 c hc)
    · simp [IsTyped]
    · exact .inl (hf c hc)
    · simp [IsTyped]
    · rcases hs with rfl | rfl
      · cases hc
      · simp [IsTyped, List.mem_singleton.1 hc]
    · exact .inl (hx c hc)

theorem isTyped_of_written {b : Bool} (h : Written b t) : ∀ c ∈ t, IsTyped c := by
  intro c hc
  rcases h with rfl | ⟨negative, s, rfl, hs⟩
  · simp [IsTyped, List.mem_singleton.1 hc]
  · rcases List.mem_append.1 hc with hc | hc
    · cases negative with
      | false => cases hc
      | true => simp [IsTyped, List.mem_singleton.1 hc]
    · exact isTyped_of_draft hs c hc

/-- The characters of which none stands in a typed number. -/
theorem not_mem_written {b : Bool} (h : Written b t) {c : Char}
    (hc : c ∈ ['(', ')', '×', '÷', '√', '²', '%']) : c ∉ t := by
  intro hm
  have hw := isTyped_of_written h c hm
  simp only [List.mem_cons, List.not_mem_nil, or_false] at hc
  rcases hc with rfl | rfl | rfl | rfl | rfl | rfl | rfl <;>
    simp [IsTyped] at hw <;> revert hw <;> decide

/-- How a complete operand begins. -/
theorem Complete.head (h : o.Complete) :
    ∃ c r, o.shown = c :: r ∧ (c = '-' ∨ c = '√' ∨ isDecimal c = true) := by
  induction h with
  | literal hw ht =>
    rcases hw with rfl | ⟨negative, s, rfl, hs⟩
    · exact absurd rfl (signedNumber_ne_minus ht)
    · -- A number begins with its minus or with its first digit.
      cases negative with
      | true => exact ⟨'-', s, rfl, .inl rfl⟩
      | false =>
        obtain ⟨c, r, rfl, hc⟩ := hs.head
        exact ⟨c, r, rfl, .inr (.inr hc)⟩
  | root => exact ⟨_, _, rfl, .inr (.inl rfl)⟩
  | behind hf _ _ ih =>
    obtain ⟨c, r, hr, hc⟩ := ih
    rw [shown_behind hf, hr]
    exact ⟨c, _, rfl, hc⟩
  | negated =>
    unfold shown
    split
    · exact ⟨_, _, rfl, .inl rfl⟩
    · exact ⟨_, _, rfl, .inl rfl⟩

theorem Complete.head_ne (h : o.Complete) : o.shown.head? ≠ some '(' := by
  obtain ⟨c, r, hr, hc⟩ := h.head
  rw [hr]
  rintro ⟨⟩
  revert hc
  decide

/-- The sign of a function is shown. -/
theorem Complete.exists_sign (h : (Operand.applied fn o c).Complete) :
    ∃ x ∈ (Operand.applied fn o c).shown, x ∈ ['√', '²', '%'] := by
  generalize hx : Operand.applied fn o c = x at h
  induction h generalizing fn o c with
  | literal => cases hx
  | root => exact ⟨'√', .head _, by decide⟩
  | behind hf =>
    rw [shown_behind hf]
    refine ⟨_, List.mem_append_right _ (.head _), ?_⟩
    rcases hf with rfl | rfl <;> decide
  | negated _ _ ih =>
    obtain ⟨x, hx, hs⟩ := ih rfl
    refine ⟨x, ?_, hs⟩
    unfold shown
    split
    · exact .tail _ (.tail _ (List.mem_append_left _ hx))
    · exact .tail _ hx

/-- What a complete operand looks like, as far as its end is concerned. -/
structure Stops (u : List Char) : Prop where
  digit : ∃ c ∈ u, isDecimal c = true
  last : u.getLast? ≠ some 'E'
  closed : u.count '(' ≤ u.count ')'

/-- What may stand right behind a complete operand. -/
def IsConnective (c : Char) : Prop := c = '+' ∨ c = '-' ∨ c = '×' ∨ c = '÷' ∨ c = ')'

theorem Stops.tail {x : Char} {u : List Char} (h : Stops (x :: u))
    (hx : x = '-' ∨ x = '√' ∨ x = '(') : Stops u := by
  obtain ⟨⟨c, hc, hd⟩, hl, hp⟩ := h
  have hcu : c ∈ u := by
    rcases List.mem_cons.1 hc with rfl | hc
    · exfalso
      revert hd
      rcases hx with rfl | rfl | rfl <;> decide
    · exact hc
  refine ⟨⟨c, hcu, hd⟩, ?_, ?_⟩
  · rwa [List.getLast?_cons_of_ne_nil (List.ne_nil_of_mem hcu)] at hl
  · rcases hx with rfl | rfl | rfl <;> simp at hp <;> omega

/-- A complete number ends in a digit or a point. -/
theorem last_of_number {u : List Char} (h : IsNumber u) :
    ∃ c, u.getLast? = some c ∧ (isDecimal c = true ∨ c = '.') := by
  have hdigits {ds : List Char} (hd : IsDigits ds) (r : List Char) :
      ∃ c, (r ++ ds).getLast? = some c ∧ (isDecimal c = true ∨ c = '.') := by
    obtain rfl | ⟨ds, c, rfl⟩ := List.eq_nil_or_concat' ds
    · exact absurd rfl hd.1
    · rw [← List.append_assoc]
      exact ⟨c, List.getLast?_concat, .inl (hd.2 c (by simp))⟩
  obtain ⟨m, x, hm, hx, rfl⟩ := h
  cases hx with
  | @present mark sign ds _ _ hd =>
    have he := hdigits hd (m ++ mark :: sign)
    rwa [List.append_assoc, List.cons_append] at he
  | absent =>
    rw [List.append_nil]
    cases hm with
    | whole hd => exact hdigits hd []
    | fraction hd => exact hdigits hd ['.']
    | @pointed ds fs hd hf =>
      obtain rfl | hne := eq_or_ne fs []
      · exact ⟨'.', List.getLast?_concat, .inr rfl⟩
      · have he := hdigits ⟨hne, hf⟩ (ds ++ ['.'])
        rwa [List.append_assoc] at he

theorem last_of_signedNumber (h : IsSignedNumber t) : t.getLast? ≠ some 'E' := by
  have hu {u : List Char} (h : IsNumber u) : u ≠ [] ∧ u.getLast? ≠ some 'E' := by
    obtain ⟨c, hl, hc⟩ := last_of_number h
    refine ⟨?_, ?_⟩
    · rintro rfl
      cases hl
    · rw [hl]
      rintro ⟨⟩
      revert hc
      decide
  rcases h with h | ⟨r, rfl, h⟩
  · exact (hu h).2
  · rw [List.getLast?_cons_of_ne_nil (hu h).1]
    exact (hu h).2

theorem Stops.cons {x : Char} {u : List Char} (h : Stops u) (hx : x ≠ '(') : Stops (x :: u) := by
  obtain ⟨⟨c, hc, hd⟩, hl, hp⟩ := h
  refine ⟨⟨c, .tail x hc, hd⟩, ?_, ?_⟩
  · rwa [List.getLast?_cons_of_ne_nil (List.ne_nil_of_mem hc)]
  · rw [List.count_cons_of_ne hx]
    exact hp.trans List.count_le_count_cons

/-- A complete operand has a digit, does not end within a number, and its parentheses match. -/
theorem Complete.stops (h : o.Complete) :
    Stops o.shown ∧ o.shown.count '(' = o.shown.count ')' := by
  induction h with
  | @literal b t hw ht =>
    have hzero {c : Char} (hc : c = '(' ∨ c = ')') : t.count c = 0 :=
      List.count_eq_zero.2 (not_mem_written hw (by rcases hc with rfl | rfl <;> decide))
    have hparens : t.count '(' = t.count ')' := by rw [hzero (.inl rfl), hzero (.inr rfl)]
    refine ⟨⟨?_, last_of_signedNumber ht, hparens.le⟩, hparens⟩
    rcases hw with rfl | ⟨negative, s, rfl, hs⟩
    · exact absurd rfl (signedNumber_ne_minus ht)
    · obtain ⟨c, r, rfl, hc⟩ := hs.head
      exact ⟨c, List.mem_append_right _ (.head r), hc⟩
  | root _ _ ih =>
    refine ⟨ih.1.cons (by decide), ?_⟩
    show ('√' :: _).count '(' = ('√' :: _).count ')'
    simpa using ih.2
  | @behind fn o c hf _ _ ih =>
    obtain ⟨⟨⟨d, hd, hdec⟩, -, -⟩, hp⟩ := ih
    have hcount : (o.shown ++ [fn.symbol]).count '(' = (o.shown ++ [fn.symbol]).count ')' := by
      rcases hf with rfl | rfl <;> simpa [UnaryFn.symbol] using hp
    rw [shown_behind hf]
    refine ⟨⟨⟨d, List.mem_append_left _ hd, hdec⟩, ?_, hcount.le⟩, hcount⟩
    rw [List.getLast?_concat]
    rcases hf with rfl | rfl <;> decide
  | @negated fn o c _ _ ih =>
    obtain ⟨hs, hp⟩ := ih
    rw [shown]
    split
    · have hcount : ('-' :: '(' :: (Operand.applied fn o c).shown ++ [')']).count '(' =
          ('-' :: '(' :: (Operand.applied fn o c).shown ++ [')']).count ')' := by
        simpa using hp
      obtain ⟨d, hd, hdec⟩ := hs.digit
      refine ⟨⟨⟨d, by simp [hd], hdec⟩, ?_, hcount.le⟩, hcount⟩
      rw [List.getLast?_concat]
      decide
    · refine ⟨hs.cons (by decide), ?_⟩
      simpa using hp

theorem self_mem_parts (o : Operand) : o ∈ o.parts := by
  cases o <;> exact .head _

theorem head?_negate (o : Operand) (c : List Char) :
    (Operand.applied .negate o c).shown.head? = some '-' := by
  unfold shown
  split <;> rfl

theorem Complete.head?_behind (h : o.Complete) (hf : fn = .square ∨ fn = .percent)
    (c : List Char) : (Operand.applied fn o c).shown.head? = o.shown.head? := by
  obtain ⟨x, r, hr, -⟩ := h.head
  rw [shown_behind hf, hr]
  rfl

theorem Complete.shown_ne_written {b : Bool} (h : (Operand.applied fn o c).Complete)
    (ht : Written b t) : t ≠ (Operand.applied fn o c).shown := by
  intro he
  obtain ⟨x, hx, hs⟩ := h.exists_sign
  have hsign : x ∈ ['(', ')', '×', '÷', '√', '²', '%'] := by
    simp only [List.mem_cons, List.not_mem_nil, or_false] at hs ⊢
    simp [hs]
  exact not_mem_written ht hsign (he ▸ hx)

/-- Minus signs in front are taken off together, with their parentheses or without. -/
theorem shown_of_negate {c c' : List Char} (h : o.Complete) (h' : o'.Complete)
    (he : (Operand.applied .negate o c).shown = (Operand.applied .negate o' c').shown) :
    o.shown = o'.shown := by
  have hopen {s t : List Char} (ht : t.head? ≠ some '(') (he : '(' :: s = t) : False :=
    ht (he ▸ rfl)
  rw [shown, shown] at he
  split at he
  · split at he
    · exact List.append_cancel_right (List.cons.inj (List.cons.inj he).2).2
    · exact (hopen h'.head_ne (List.cons.inj he).2).elim
  · split at he
    · exact (hopen h.head_ne (List.cons.inj he).2.symm).elim
    · exact (List.cons.inj he).2

theorem Complete.source (h : (Operand.applied fn o c).Complete) : o.Complete := by
  cases h with
  | root h _ => exact h
  | behind _ h _ => exact h
  | negated _ h => exact h

/-- What a function gives only depends on the number that it stands on. -/
theorem Complete.computed_eq {c' : List Char} (h : (Operand.applied fn o c).Complete)
    (h' : (Operand.applied fn o' c').Complete) (hv : o.value = o'.value) : c = c' := by
  have hc {fn : UnaryFn} (hc : Editor.computedText fn o.value = .ok c)
      (hc' : Editor.computedText fn o'.value = .ok c') : c = c' :=
    Except.ok.inj (hc.symm.trans (hv ▸ hc'))
  cases h with
  | root _ h =>
    cases h' with
    | root _ h' => exact hc h h'
    | behind hf => rcases hf with hf | hf <;> cases hf
  | behind hf _ h =>
    cases h' with
    | root => rcases hf with hf | hf <;> cases hf
    | behind _ _ h' => exact hc h h'
    | negated => rcases hf with hf | hf <;> cases hf
  | negated =>
    cases h' with
    | behind hf => rcases hf with hf | hf <;> cases hf
    | negated => exact congrArg Editor.toggleSign hv

/-- Unless a sign behind may belong to one in front, the outermost function is seen from the text,
and so is what it stands on. -/
theorem Complete.same_function (h : o.Complete) (h' : o'.Complete) (hs : o.shown = o'.shown)
    (hm : ¬ (o.isMixed = true ∨ o'.isMixed = true)) :
    o = o' ∨ ∃ fn x c x' c', o = .applied fn x c ∧ o' = .applied fn x' c' ∧ x.shown = x'.shown := by
  -- The first character tells a sign in front from one behind, but for mixed operands.
  have hhead : o.shown.head? = o'.shown.head? := by rw [hs]
  cases h with
  | literal hw _ =>
    cases h' with
    | literal => exact .inl (congrArg Operand.literal hs)
    | root hx hc => exact absurd hs ((Complete.root hx hc).shown_ne_written hw)
    | behind hf hx hc => exact absurd hs ((Complete.behind hf hx hc).shown_ne_written hw)
    | negated hf hx => exact absurd hs ((Complete.negated hf hx).shown_ne_written hw)
  | root hx hc =>
    cases h' with
    | literal hw _ => exact absurd hs.symm ((Complete.root hx hc).shown_ne_written hw)
    | root => exact .inr ⟨_, _, _, _, _, rfl, rfl, (List.cons.inj hs).2⟩
    | behind hf' hx' _ =>
      rw [hx'.head?_behind hf'] at hhead
      exact absurd (.inr ((isMixed_behind hf').2 (.inr hhead.symm))) hm
    | negated =>
      rw [head?_negate] at hhead
      cases hhead
  | behind hf hx hc =>
    rw [hx.head?_behind hf] at hhead
    cases h' with
    | literal hw _ => exact absurd hs.symm ((Complete.behind hf hx hc).shown_ne_written hw)
    | root => exact absurd (.inl ((isMixed_behind hf).2 (.inr hhead))) hm
    | behind hf' =>
      rw [shown_behind hf, shown_behind hf'] at hs
      obtain ⟨hx, hfn⟩ := List.append_inj' hs rfl
      rcases hf with rfl | rfl <;> rcases hf' with rfl | rfl <;> cases hfn <;>
        exact .inr ⟨_, _, _, _, _, rfl, rfl, hx⟩
    | negated =>
      rw [head?_negate] at hhead
      exact absurd (.inl ((isMixed_behind hf).2 (.inl hhead))) hm
  | negated hf hx =>
    cases h' with
    | literal hw _ => exact absurd hs.symm ((Complete.negated hf hx).shown_ne_written hw)
    | root =>
      rw [head?_negate] at hhead
      cases hhead
    | behind hf' hx' _ =>
      rw [head?_negate, hx'.head?_behind hf'] at hhead
      exact absurd (.inr ((isMixed_behind hf').2 (.inl hhead.symm))) hm
    | negated hf' hx' =>
      exact .inr ⟨_, _, _, _, _, rfl, rfl, shown_of_negate hx hx' hs⟩

theorem Complete.value_eq_of_sources (h : o.Complete) (h' : o'.Complete) (hs : o.shown = o'.shown)
    (hn : ¬ o.Confused o') (hx : ∀ fn x c x' c', o = .applied fn x c → o' = .applied fn x' c' →
      x.shown = x'.shown → x.value = x'.value) : o.value = o'.value := by
  by_contra hv
  obtain rfl | ⟨fn, x, c, x', c', rfl, rfl, hsx⟩ :=
    h.same_function h' hs fun hm => hn ⟨hs, hv, hm⟩
  · exact hv rfl
  · exact hv (h.computed_eq h' (hx fn x c x' c' rfl rfl hsx))

/-- Complete operands that look the same count as the same number, unless two of their parts are
confused. -/
theorem Complete.value_eq (h : o.Complete) (h' : o'.Complete) (hs : o.shown = o'.shown)
    (hn : ∀ p ∈ o.parts, ∀ p' ∈ o'.parts, ¬ p.Confused p') : o.value = o'.value := by
  induction o generalizing o' with
  | literal t =>
    apply h.value_eq_of_sources h' hs (hn _ (self_mem_parts _) _ (self_mem_parts _))
    intro fn x c x' c' he
    cases he
  | applied fn x c ih =>
    apply h.value_eq_of_sources h' hs (hn _ (self_mem_parts _) _ (self_mem_parts _))
    rintro fn x c x' c' ⟨⟩ rfl hx
    apply ih h.source h'.source hx
    intro p hp p' hp'
    exact hn p (.tail _ hp) p' (.tail _ hp')

end Operand

end CovertVault.Keypad
