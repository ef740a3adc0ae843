import CovertVault.Calculator.Session
import CovertVault.Proofs.Formula.Acceptance
import CovertVault.Proofs.Keypad.Literals

namespace CovertVault.Keypad
open Formula Editor Number Text

variable {newer older trail : List Token} {q : List Lexeme} {n : Nat}

/-- Tokens leave a number over exactly if they are complete. -/
theorem weightOf_laid (h : Laid (newer ++ older)) (ht : Typed newer) :
    weightOf (newer.map Token.lexeme) =
      mostWeight (awaited (newer ++ older)) - mostWeight (awaited older) := by
  induction newer with
  | nil => exact (Int.sub_self _).symm
  | cons t r ih =>
    rw [List.map_cons, weightOf_cons, ih h.tail ht.tail, List.cons_append]
    have hf := h.1
    cases t with
    | operand o =>
      have ha : awaited (r ++ older) = .operand := h.awaited_operand
      -- A bare sign is read as a negation and leaves the operand awaited.
      by_cases hb : o.isBareSign = true
      · obtain rfl := eq_minus_of_bare hb
        rw [ha]
        exact Int.zero_add _
      · have hv := isSignedNumber_value h ht.head (by simpa using hb)
        rw [ha, awaited_operand_of_not_bare (by simpa using hb), Token.lexeme,
          if_neg (signedNumber_ne_minus hv)]
        simp [Lexeme.weight, mostWeight]
        omega
    | operator o =>
      have ha : awaited (r ++ older) = .connective := h.awaited_operator
      rw [ha]
      simp [Token.lexeme, Lexeme.weight, awaited, mostWeight]
      omega
    | opening =>
      have ha : mostWeight (awaited (r ++ older)) = 0 := by
        revert hf
        cases awaited (r ++ older) <;> simp [Token.fits, mostWeight]
      rw [ha]
      exact Int.zero_add _
    | closing =>
      have ha : mostWeight (awaited (r ++ older)) = 1 := by
        revert hf
        cases awaited (r ++ older) <;> simp [Token.fits, mostWeight]
      rw [ha]
      exact Int.zero_add _

theorem nestingOf_lexemes (trail : List Token) :
    nestingOf (trail.map Token.lexeme) = depthOf trail := by
  induction trail with
  | nil => rfl
  | cons t r ih =>
    rw [List.map_cons, nestingOf_cons, ih, depthOf_cons]
    congr 1
    cases t with
    | operand o =>
      rw [Token.lexeme]
      split <;> rfl
    | operator | opening | closing => rfl

theorem depthOf_append (a b : List Token) : depthOf (a ++ b) = depthOf a + depthOf b := by
  induction a with
  | nil => exact (Int.zero_add _).symm
  | cons t r ih => rw [List.cons_append, depthOf_cons, ih, depthOf_cons, Int.add_assoc]

/-- The beginning of tokens with their groups closed: a beginning of the tokens, or all of them with
some of the groups closed. -/
theorem prefix_cases (hq : q <+: newer.reverse.map Token.lexeme ++ List.replicate n .closing) :
    (∃ r, r <:+ newer ∧ q = (r.map Token.lexeme).reverse) ∨
      ∃ k, k ≤ n ∧ q = (newer.map Token.lexeme).reverse ++ List.replicate k .closing := by
  obtain hq' | ⟨r, rfl⟩ := List.prefix_or_prefix_of_prefix hq (List.prefix_append _ _)
  · left
    rw [List.map_reverse] at hq'
    obtain ⟨s, hs⟩ := hq'
    obtain ⟨a, b, hab, ha, hb⟩ := List.append_eq_map_iff.1 (hs.trans List.map_reverse.symm)
    refine ⟨a.reverse, ?_, by rw [List.map_reverse, List.reverse_reverse, ha]⟩
    rw [← List.reverse_prefix, List.reverse_reverse, hab]
    exact List.prefix_append a b
  · right
    have hr := (List.prefix_append_right_inj _).1 hq
    obtain ⟨k, hk, rfl⟩ : ∃ k, k ≤ n ∧ r = List.replicate k .closing :=
      ⟨r.length, by simpa using hr.length_le, List.eq_replicate_of_mem fun l hl =>
        List.eq_of_mem_replicate (hr.subset hl)⟩
    exact ⟨k, hk, by rw [List.map_reverse]⟩

/-- From its beginning to any place, what is read behind a number takes at most that one away, and
closes no group that it has not opened. -/
theorem counts_prefix (h : Laid (newer ++ older)) (ht : Typed newer) (hd : depthOf older = 0)
    (hn : (n : Int) ≤ depthOf (newer ++ older))
    (hq : q <+: newer.reverse.map Token.lexeme ++ List.replicate n .closing) :
    -1 ≤ weightOf q ∧ 0 ≤ nestingOf q := by
  have hw {r : List Token} (hr : r <:+ newer) : -1 ≤ weightOf (r.map Token.lexeme) := by
    obtain ⟨s, rfl⟩ := hr
    rw [List.append_assoc] at h
    rw [weightOf_laid (h.of_suffix ⟨s, rfl⟩) fun t hm => ht t (List.mem_append_right _ hm)]
    have hone := mostWeight_le (awaited older)
    have hzero : 0 ≤ mostWeight (awaited (r ++ older)) := by
      cases awaited (r ++ older) <;> decide
    omega
  obtain ⟨r, hr, rfl⟩ | ⟨k, hk, rfl⟩ := prefix_cases hq
  · refine ⟨by rw [weightOf_reverse]; exact hw hr, ?_⟩
    obtain ⟨s, rfl⟩ := hr
    rw [List.append_assoc] at h
    have hnest := (h.of_suffix ⟨s, rfl⟩).depth_nonneg
    rw [depthOf_append, hd, Int.add_zero] at hnest
    rwa [nestingOf_reverse, nestingOf_lexemes]
  · have hwn := hw (List.suffix_refl newer)
    rw [depthOf_append, hd, Int.add_zero] at hn
    rw [weightOf_append, weightOf_reverse, weightOf_closings, nestingOf_append, nestingOf_reverse,
      nestingOf_closings, nestingOf_lexemes]
    omega

theorem depthOf_openings (n : Nat) : depthOf (List.replicate n .opening) = n := by
  induction n with
  | zero => rfl
  | succ n ih =>
    rw [List.replicate_succ, depthOf_cons, ih, Token.depth]
    omega

theorem lexeme_ne_bad (t : Token) (err : EvalError) : t.lexeme ≠ .bad err := by
  cases t with
  | operand o =>
    rw [Token.lexeme]
    split <;> simp
  | operator | opening | closing => simp [Token.lexeme]

/-- Tokens that no expression ends in. -/
def Token.isUnfinished : Token → Bool
  | .operator _ | .opening => true
  | .operand o => o.isBareSign
  | .closing => false

variable {t : Token} {r : List Token} {e : Editor} {s : List Char}

theorem mostWeight_unfinished (h : t.isUnfinished = true) (r : List Token) :
    mostWeight (awaited (t :: r)) = 0 := by
  cases t with
  | operand o =>
    obtain rfl := eq_minus_of_bare h
    rfl
  | operator | opening => rfl
  | closing => cases h

theorem eq_opening_of_parentheses (h : Laid trail) (hp : ∀ t ∈ trail, t.lexeme.IsParenthesis) :
    ∀ t ∈ trail, t = .opening := by
  induction trail with
  | nil => nofun
  | cons t r ih =>
    obtain ⟨hpt, hpr⟩ := List.forall_mem_cons.1 hp
    have hr := ih h.tail hpr
    refine List.forall_mem_cons.2 ⟨?_, hr⟩
    -- Nothing is closed where only groups were opened.
    have ha : awaited r = .operand := by
      cases r with
      | nil => rfl
      | cons u r =>
        rw [hr u (.head r)]
        rfl
    have hf := h.1
    rw [ha] at hf
    cases t with
    | opening => rfl
    | operator | closing => cases hf
    | operand o =>
      rw [Token.lexeme] at hpt
      split at hpt <;> simp [Lexeme.IsParenthesis] at hpt

theorem formatNumber_zero : formatNumber 0.0 = ['0'] := by decide +kernel

/-- Only texts on which the counts come out right are evaluated. -/
theorem evaluate_error_of_weight (hw : weightOf (lex s) ≠ 1)
    (hp : ¬ ∀ l ∈ lex s, l.IsParenthesis) : ∃ err, evaluate s = .error err := by
  cases h : evaluate s with
  | error err => exact ⟨err, rfl⟩
  | ok v => exact ((counts_of_evaluate h).counted.elim (fun hz => hp hz.1) hw).elim

/-- A sign at the end negates no group, so it is not read as the sign of one. -/
theorem evaluate_error_of_sign {as : List Lexeme}
    (hl : lex s = as ++ .negation :: List.replicate n .closing) :
    ∃ err, evaluate s = .error err := by
  cases h : evaluate s with
  | error err => exact ⟨err, rfl⟩
  | ok v =>
    have hs := spaced_lexFrom 0 true s (counts_of_evaluate h).readable
    rw [← lex, hl] at hs
    have ho := hs.behind_negation
    cases n <;> cases ho

/-- Behind two numbers everything can be taken that takes at most one away. -/
theorem takenBehind_numbers {ls p : List Lexeme} {l : Lexeme} {a b : List Char}
    (hb : ∀ err, .bad err ∉ ls) (hc : ∀ q, q <+: ls → -1 ≤ weightOf q)
    (hp : p ++ [l] <+: .number a :: .number b :: ls) : l.TakenBehind p := by
  obtain _ | ⟨l₁, _ | ⟨l₂, p⟩⟩ := p
  · obtain ⟨rfl, -⟩ := List.cons_prefix_cons.1 hp
    trivial
  · obtain ⟨-, hp'⟩ := List.cons_prefix_cons.1 hp
    obtain ⟨rfl, -⟩ := List.cons_prefix_cons.1 hp'
    trivial
  · obtain ⟨rfl, hp'⟩ := List.cons_prefix_cons.1 hp
    obtain ⟨rfl, hq⟩ := List.cons_prefix_cons.1 hp'
    have hw := hc p ((List.prefix_append p [l]).trans hq)
    have hpos : 0 < weightOf (.number a :: .number b :: p) := by
      rw [weightOf_cons, weightOf_cons]
      simp only [Lexeme.weight]
      omega
    cases l with
    | op | closing => exact hpos
    | number | negation | opening => trivial
    | bad err => exact hb err (hq.subset (List.mem_append_right p (.head [])))

theorem nestingOf_numbers {ls p : List Lexeme} {a b : List Char}
    (hc : ∀ q, q <+: ls → 0 ≤ nestingOf q) (hp : p <+: .number a :: .number b :: ls) :
    0 ≤ nestingOf p := by
  obtain rfl | ⟨p₁, rfl, hp₁⟩ := List.prefix_cons_iff.1 hp
  · exact Int.le_refl 0
  obtain rfl | ⟨p₂, rfl, hp₂⟩ := List.prefix_cons_iff.1 hp₁
  · exact Int.le_refl 0
  have hnest := hc p₂ hp₂
  rw [nestingOf_cons, nestingOf_cons]
  simp only [Lexeme.nesting]
  omega

/-- Two numbers and then tokens that take one of them away are evaluated, as far as the arithmetic
goes. -/
theorem evaluate_error_behind_numbers (h : Laid (newer ++ older)) (ht : Typed newer)
    (hd : depthOf older = 0) (ha : awaited older = .connective)
    (hm : mostWeight (awaited (newer ++ older)) = 0) (hn : (n : Int) = depthOf (newer ++ older))
    {a b : List Char} (hl : lex s = .number a :: .number b ::
      (newer.reverse.map Token.lexeme ++ List.replicate n .closing))
    {err : EvalError} (he : evaluate s = .error err) : err.IsArithmetic := by
  have hcounts (q : List Lexeme)
      (hq : q <+: newer.reverse.map Token.lexeme ++ List.replicate n .closing) :=
    counts_prefix h ht hd (Int.le_of_eq hn) hq
  have hbad (err : EvalError) :
      .bad err ∉ newer.reverse.map Token.lexeme ++ List.replicate n .closing := fun hm => by
    obtain hm | hm := List.mem_append.1 hm
    · obtain ⟨t, -, ht⟩ := List.mem_map.1 hm
      exact lexeme_ne_bad t err ht
    · cases List.eq_of_mem_replicate hm
  have hdepth : nestingOf (newer.reverse.map Token.lexeme) = n := by
    rw [List.map_reverse, nestingOf_reverse, nestingOf_lexemes, hn, depthOf_append, hd,
      Int.add_zero]
  have hweight : weightOf (newer.reverse.map Token.lexeme) = -1 := by
    rw [List.map_reverse, weightOf_reverse, weightOf_laid h ht, hm, ha]
    rfl
  refine evaluate_error (fun p l hp => ?_) (fun p hp => ?_) ?_ ?_ he
  · rw [hl] at hp
    exact takenBehind_numbers hbad (fun q hq => (hcounts q hq).1) hp
  · rw [hl] at hp
    exact nestingOf_numbers (fun q hq => (hcounts q hq).2) hp
  · rw [hl, nestingOf_cons, nestingOf_cons, nestingOf_append, nestingOf_closings, hdepth]
    simp only [Lexeme.nesting]
    omega
  · rw [hl, weightOf_cons, weightOf_cons, weightOf_append, weightOf_closings, hweight]
    rfl

/-- What equals does where the expression is not evaluated: it says why, and everything is left as
it was. -/
def Editor.Refuses (e : Editor) : Prop :=
  ∃ err, e.press .equals = (.error (.eval err), e) ∧
    ∀ (now : Time.Present) (s : Calculator.Session) (store : Store), s.editor = e →
      s.pressEquals now store = (.error (.key (.eval err)), s.endAttempt, store)

theorem Editor.refuses_of_error (h : ∃ err, e.equals = .error (.eval err)) : e.Refuses := by
  obtain ⟨err, h⟩ := h
  refine ⟨err, ?_, fun now s store he => ?_⟩
  · rw [Editor.press, Editor.press?, h]
    rfl
  · have hs : s.endAttempt.editor.equals = .error (.eval err) := he ▸ h
    rw [Calculator.Session.pressEquals]
    simp only [hs]

theorem Editor.equals_of_evaluate (hn : e.afterEquals = false) (ht : e.trail ≠ []) {v : Float}
    (hv : evaluate (render Token.evaluable e.closedTokens) = .ok v) :
    e.equals = .ok (some ⟨e.shownText, render Token.shown e.closedTokens, formatNumber v⟩,
      ⟨[], some (formatNumber v), true⟩) := by
  rw [Editor.equals, if_neg (by simp [hn, ht])]
  simp only [hv]

theorem Editor.equals_error_of_evaluate (hn : e.afterEquals = false) (ht : e.trail ≠ [])
    {err : EvalError} (hv : evaluate (render Token.evaluable e.closedTokens) = .error err) :
    e.equals = .error (.eval err) := by
  rw [Editor.equals, if_neg (by simp [hn, ht])]
  simp only [hv]

theorem Editor.fails_of_evaluate (hn : e.afterEquals = false) (ht : e.trail ≠ [])
    (h : ∃ err, evaluate (render Token.evaluable e.closedTokens) = .error err) :
    ∃ err, e.equals = .error (.eval err) :=
  h.imp fun _ => Editor.equals_error_of_evaluate hn ht

theorem Editor.Absorbs.trail_eq {w ds fs : List Char} {o : BinOp} {u : Operand} {rest : List Token}
    (h : e.Absorbs w o u ds fs rest.reverse) :
    e.trail = rest ++ [.operand u, .operator o, .operand (.literal w)] := by
  have ht := congrArg List.reverse h.tokens
  rw [Editor.tokens, List.reverse_reverse] at ht
  simpa using ht

/-- Complete numbers and an unfinished end. -/
theorem Editor.Sound.unfinished_typed (h : e.Sound) (hn : e.afterEquals = false)
    (he : e.trail = t :: r) (hu : t.isUnfinished = true) (ht : Typed e.trail) :
    (∃ err, e.equals = .error (.eval err)) ∨ (∀ u ∈ e.tokens, u = .opening) ∧
      e.equals = .ok (some ⟨e.shownText, render Token.shown e.closedTokens, ['0']⟩,
        ⟨[], some ['0'], true⟩) := by
  have hne : e.trail ≠ [] := by simp [he]
  obtain hu' | hr := h.readsNumbers ht
  · exact .inl (Editor.equals_error_of_unread hn hu')
  have hlex : lex (render Token.evaluable e.closedTokens) =
      (e.trail.map Token.lexeme).reverse ++ List.replicate e.openCount.toNat .closing := by
    rw [hr.lexemes, closedTokens, List.map_append, List.map_replicate, Editor.tokens,
      List.map_reverse]
    rfl
  by_cases hp : ∀ u ∈ e.trail, u = .opening
  · right
    have htrail : e.trail = List.replicate e.trail.length .opening := List.eq_replicate_of_mem hp
    have hopen : e.openCount = e.trail.length := by
      rw [Editor.openCount, htrail, depthOf_openings, List.length_replicate]
    rw [hopen, htrail, List.map_replicate, List.reverse_replicate, List.length_replicate] at hlex
    refine ⟨fun u hm => hp u (List.mem_reverse.1 hm), ?_⟩
    rw [Editor.equals_of_evaluate hn hne (evaluate_openings hlex), formatNumber_zero]
  · left
    have hw : weightOf (lex (render Token.evaluable e.closedTokens)) ≠ 1 := by
      have hl : Laid (e.trail ++ []) := by
        rw [List.append_nil]
        exact h.laid
      rw [hlex, weightOf_append, weightOf_reverse, weightOf_closings, weightOf_laid hl ht,
        List.append_nil, he, mostWeight_unfinished hu]
      decide
    refine Editor.fails_of_evaluate hn hne (evaluate_error_of_weight hw fun hall => hp ?_)
    refine eq_opening_of_parentheses h.laid fun u hm => hall _ ?_
    rw [hlex]
    exact List.mem_append_left _ (List.mem_reverse.2 (List.mem_map_of_mem hm))

/-- Equals where two numbers are read before the rest, and the rest takes one of them away. -/
theorem Editor.equals_error_behind_numbers (hn : e.afterEquals = false) (hne : e.trail ≠ [])
    (he : e.trail = newer ++ older) (hl : Laid (newer ++ older)) (ht : Typed newer)
    (hd : depthOf older = 0) (ha : awaited older = .connective)
    (hm : mostWeight (awaited (newer ++ older)) = 0) {a b : List Char}
    (hlex : lex (render Token.evaluable e.closedTokens) = .number a :: .number b ::
      (newer.reverse.map Token.lexeme ++ List.replicate e.openCount.toNat .closing))
    {err : PressError} (herr : e.equals = .error err) :
    err = .eval .divisionByZero ∨ err = .eval .overflow := by
  have hdepth : (e.openCount.toNat : Int) = depthOf (newer ++ older) := by
    rw [Editor.openCount, he]
    exact Int.toNat_of_nonneg hl.depth_nonneg
  cases hv : evaluate (render Token.evaluable e.closedTokens) with
  | ok v =>
    rw [Editor.equals_of_evaluate hn hne hv] at herr
    cases herr
  | error err' =>
    rw [Editor.equals_error_of_evaluate hn hne hv] at herr
    cases herr
    have harith := evaluate_error_behind_numbers hl ht hd ha hm hdepth hlex hv
    exact harith.imp (congrArg _) (congrArg _)

/-- An oldest number without its exponent and an unfinished end. -/
theorem Editor.Sound.unfinished_fused (h : e.Sound) (hn : e.afterEquals = false)
    (he : e.trail = t :: r) (hu : t.isUnfinished = true) {negative : Bool} {m sign : List Char}
    (hnt : Typed newer) (hm : IsSignificand m) (hs : sign = [] ∨ sign = ['+'])
    (hw : e.trail = newer ++ [.operand (.literal (signText negative ++ (m ++ 'E' :: sign)))]) :
    (∃ err, e.equals = .error (.eval err)) ∨ (∀ o, t ≠ .operand o) ∧
      (∃ t o u ds fs rest, e.Absorbs t o u ds fs rest ∧ fs ≠ []) ∧
        ∀ err, e.equals = .error err → err = .eval .divisionByZero ∨ err = .eval .overflow := by
  have hne : e.trail ≠ [] := by simp [he]
  obtain hun | ⟨w, o, u, ds, fs, rest, read, habs, hub, hrt, hread, hlex⟩ := h.fuses hnt hm hs hw
  · exact .inl (Editor.equals_error_of_unread hn hun)
  have hl := h.laid
  rw [habs.trail_eq] at hl
  have ha : awaited [.operand u, .operator o, .operand (.literal w)] = .connective :=
    awaited_operand_of_not_bare hub
  -- The unfinished end stands behind the operand whose first digits were taken in.
  obtain ⟨rest', rfl⟩ : ∃ rest', rest = t :: rest' := by
    cases rest with
    | nil =>
      obtain rfl : t = .operand u := (List.cons.inj (he.symm.trans habs.trail_eq)).1
      rw [Token.isUnfinished, hub] at hu
      cases hu
    | cons t' rest' => exact ⟨rest', by rw [(List.cons.inj (he.symm.trans habs.trail_eq)).1]⟩
  have hzero := mostWeight_unfinished hu (rest' ++ [.operand u, .operator o, .operand (.literal w)])
  obtain ⟨rfl, rfl⟩ | ⟨hfs, rfl⟩ := hread
  · left
    have hone : weightOf (lex (render Token.evaluable e.closedTokens)) ≠ 1 := by
      rw [hlex, weightOf_cons, List.nil_append, weightOf_append, List.map_reverse, weightOf_reverse,
        weightOf_closings, weightOf_laid hl hrt, List.cons_append, hzero, ha]
      simp [Lexeme.weight, mostWeight]
    refine Editor.fails_of_evaluate hn hne (evaluate_error_of_weight hone fun hall => ?_)
    have hnum := hall _ (by rw [hlex]; exact .head _)
    simp [Lexeme.IsParenthesis] at hnum
  by_cases ho : ∃ x, t = .operand x
  · left
    obtain ⟨x, rfl⟩ := ho
    obtain rfl := eq_minus_of_bare hu
    rw [List.reverse_cons, List.map_append, List.append_assoc, List.map_singleton,
      List.singleton_append, ← List.cons_append, ← List.cons_append] at hlex
    exact Editor.fails_of_evaluate hn hne (evaluate_error_of_sign hlex)
  · right
    obtain ⟨c, fs, rfl, -⟩ := hfs.head
    refine ⟨fun x hx => ho ⟨x, hx⟩, ⟨w, o, u, ds, _, _, habs, by simp⟩, fun err herr => ?_⟩
    exact Editor.equals_error_behind_numbers hn hne habs.trail_eq hl hrt rfl ha hzero hlex herr

/-- Equals on an expression that ends in an operator, an opening parenthesis or a sign: it is
refused, unless there are opening parentheses only, or the oldest number is a result without its
exponent that has taken in the first digits of a number with a fraction. -/
theorem equals_unfinished (keys : List Key) {t : Token} (hn : (run keys).afterEquals = false)
    (ht : (run keys).tokens.getLast? = some t) (hu : t.isUnfinished = true) :
    (run keys).Refuses ∨
      ((∀ u ∈ (run keys).tokens, u = .opening) ∧ (run keys).equals =
        .ok (some ⟨(run keys).shownText, render Token.shown (run keys).closedTokens, ['0']⟩,
          ⟨[], some ['0'], true⟩)) ∨
      (∀ o, t ≠ .operand o) ∧
        (∃ w o u ds fs rest, (run keys).Absorbs w o u ds fs rest ∧ fs ≠ []) ∧
          ∀ err, (run keys).equals = .error err →
            err = .eval .divisionByZero ∨ err = .eval .overflow := by
  have hs := sound_run keys
  have ho := (originates_run keys).trail
  generalize run keys = e at hn ht hs ho
  obtain ⟨r, he⟩ : ∃ r, e.trail = t :: r := by
    rw [Editor.tokens, List.getLast?_reverse] at ht
    exact List.head?_eq_some_iff.1 ht
  obtain hty | ⟨newer, negative, m, sign, hnt, hm, hsign, hw⟩ := typed_or_unfinished ho
  · exact (hs.unfinished_typed hn he hu hty).imp Editor.refuses_of_error .inl
  · exact (hs.unfinished_fused hn he hu hnt hm hsign hw).imp Editor.refuses_of_error .inr

/-- An operator in a group, with a number before the group. -/
def openOperatorKeys : List Key := [.digit ['2'], .openParen, .digit ['3'], .operator ['+']]

theorem equals_openOperatorKeys :
    (run openOperatorKeys).afterEquals = false ∧
      (run openOperatorKeys).tokens.getLast? = some (.operator .add) ∧
        Token.isUnfinished (.operator .add) = true ∧ (run openOperatorKeys).Refuses := by
  have htokens : (run openOperatorKeys).tokens = [.operand (.literal ['2']), .operator .mul,
    .opening, .operand (.literal ['3']), .operator .add] := rfl
  refine ⟨rfl, rfl, rfl, ?_⟩
  obtain h | ⟨h, -⟩ | ⟨-, ⟨w, o, u, ds, fs, rest, h, -⟩, -⟩ :=
    equals_unfinished openOperatorKeys rfl rfl (t := .operator .add) rfl
  · exact h
  · rw [htokens] at h
    cases h _ (.head _)
  · cases htokens.symm.trans h.tokens

/-- A result of which the exponent is cut off behind its mark, then a plus, a number with a fraction
and an operator. -/
def cutFractionKeys : List Key := cutExponentKeys ++ [.dot, .digit ['5'], .operator ['×']]

/-- A group with nothing in it, and an operator with nothing behind it, have results. -/
theorem unfinished_evaluated :
    ((run [.openParen]).afterEquals = false ∧ (run [.openParen]).tokens = [.opening] ∧
      (run [.openParen]).equals.map (fun p => p.1.map (·.result)) = .ok (some ['0'])) ∧
      (run cutFractionKeys).afterEquals = false ∧
        (run cutFractionKeys).tokens.getLast? = some (.operator .mul) ∧
          (run cutFractionKeys).equals.map (fun p => p.1.map (·.result)) =
            .ok (some "50000".toList) := by
  decide +kernel

end CovertVault.Keypad
