import CovertVault.Proofs.Formula.Grammar
import CovertVault.Proofs.Outcome

namespace CovertVault.Formula
namespace Machine

/-- The stacks once all pending operators of a level and above are applied, up to a parenthesis. -/
def settle (k : Nat) (m : Machine) : Except EvalError Machine :=
  reduceWhile (fun o => k ≤ o.level) m.numbers m.pending

/-- No operator of a level or above waits on top. -/
def Settled (k : Nat) (pending : List Pending) : Prop :=
  ∀ o, pending.head? = some (.op o) → o.level < k

theorem settled_nil (k : Nat) : Settled k [] := by rintro _ ⟨⟩

theorem settled_group (k : Nat) (ps : List Pending) : Settled k (.group :: ps) := by rintro _ ⟨⟩

theorem settled_op {k : Nat} {o : BinOp} (h : o.level < k) (ps : List Pending) :
    Settled k (.op o :: ps) := by
  intro o' ho'
  cases ho'
  exact h

theorem settle_of_settled {k : Nat} {ns : List Float} {ps : List Pending} (h : Settled k ps) :
    settle k ⟨ns, ps⟩ = pure ⟨ns, ps⟩ := by
  rcases ps with _ | ⟨_ | o, ps⟩
  · rfl
  · rfl
  · have hk : ¬ k ≤ o.level := Nat.not_le.2 (h o rfl)
    simp [settle, reduceWhile, hk, pure, Except.pure]

theorem settle_op {k : Nat} {o : BinOp} (h : k ≤ o.level) (left right : Float) (ns : List Float)
    (ps : List Pending) : settle k ⟨right :: left :: ns, .op o :: ps⟩ =
      o.apply left right >>= fun v => settle k ⟨v :: ns, ps⟩ := by
  simp only [settle, reduceWhile, applyTop, h, decide_true, if_true]
  cases o.apply left right <;> rfl

/-- Applying the tighter operators first makes no difference. -/
theorem settle_settle {j k : Nat} (h : j ≤ k) (m : Machine) :
    m.settle k >>= settle j = m.settle j := by
  obtain ⟨ns, ps⟩ := m
  -- An operator that only the outer settling applies ends the inner one.
  induction ps generalizing ns with
  | nil => rfl
  | cons p ps ih =>
    cases p with
    | group => rfl
    | op o =>
      by_cases hk : k ≤ o.level
      · have hj : j ≤ o.level := Nat.le_trans h hk
        simp only [settle, reduceWhile, hk, hj, decide_true, if_true, bind_assoc] at ih ⊢
        simp only [ih]
      · simp only [settle, reduceWhile, hk, decide_false]
        rfl

theorem step_op (m : Machine) (o : BinOp) :
    m.step (.op o) = m.settle o.level >>= fun m => pure ⟨m.numbers, .op o :: m.pending⟩ := rfl

theorem settle_one (m : Machine) :
    m.settle 1 = reduceWhile (fun _ => true) m.numbers m.pending := by
  have h : (fun o : BinOp => decide (1 ≤ o.level)) = fun _ => true := by
    funext o
    cases o <;> rfl
  rw [settle, h]

/-- An operator settles the stacks up to its level before it waits for its right side. -/
theorem foldlM_op (ls ls' : List Lexeme) (o : BinOp) (m : Machine) :
    (ls ++ .op o :: ls').foldlM step m = (ls.foldlM step m >>= settle o.level) >>= fun m =>
      ls'.foldlM step ⟨m.numbers, .op o :: m.pending⟩ := by
  simp only [List.foldlM_append, List.foldlM_cons, step_op, bind_assoc, pure_bind]

/-- What a closing parenthesis does once its group is settled. -/
def close (m : Machine) : Except EvalError Machine :=
  match m.pending with
  | [] => .error .unbalanced
  | _ :: rest => .ok ⟨m.numbers, rest⟩

theorem step_closing (m : Machine) : m.step .closing = m.settle 1 >>= close := by
  rw [settle_one]
  rfl

theorem reduceAll_eq_settle (ns : List Float) (ps : List Pending) :
    reduceAll ns ps = settle 1 ⟨ns, ps⟩ >>= fun m => reduceAll m.numbers m.pending := by
  induction ps generalizing ns with
  | nil => rfl
  | cons p ps ih =>
    cases p with
    | group => rfl
    | op o =>
      -- No operator has a level below one, so only a parenthesis stops this settling.
      have h : 1 ≤ o.level := by cases o <;> decide
      simp only [settle, reduceWhile, reduceAll, h, decide_true, if_true, bind_assoc] at ih ⊢
      simp only [ih]

/-- Settling before the end changes nothing. -/
theorem settle_finish (m : Machine) : m.settle 1 >>= finish = m.finish := by
  unfold finish
  rw [reduceAll_eq_settle m.numbers, bind_assoc]

end Machine

open Machine

theorem SumOp.level_op (o : SumOp) : o.op.level = 1 := by cases o <;> rfl
theorem ProductOp.level_op (o : ProductOp) : o.op.level = 2 := by cases o <;> rfl

mutual

/-- A sum on settled stacks leaves its value on top of them. -/
theorem Expr.settle_run : (e : Expr) → (ns : List Float) → {ps : List Pending} → Settled 1 ps →
    e.lexemes.foldlM step ⟨ns, ps⟩ >>= settle 1 = e.value >>= fun v => pure ⟨v :: ns, ps⟩
  | .term t, ns, ps, h => by
    have h2 : Settled 2 ps := fun o ho => Nat.lt_succ_of_lt (h o ho)
    calc t.lexemes.foldlM step ⟨ns, ps⟩ >>= settle 1
        = (t.lexemes.foldlM step ⟨ns, ps⟩ >>= settle 2) >>= settle 1 := by
          simp only [bind_assoc, settle_settle (Nat.le_succ 1)]
      _ = t.value >>= fun v => settle 1 ⟨v :: ns, ps⟩ := by
          rw [t.settle_run ns h2, bind_assoc]
          simp only [pure_bind]
      _ = t.value >>= fun v => pure ⟨v :: ns, ps⟩ := by simp only [settle_of_settled h]
  | .sum e _ o t, ns, ps, h => by
    -- The right side is settled as a product before the operator between the two is applied.
    have he := e.settle_run ns h
    have ht (left : Float) := t.settle_run (left :: ns)
      (settled_op (by simp [o.level_op] : o.op.level < 2) ps)
    have ho (left right : Float) : settle 1 ⟨right :: left :: ns, .op o.op :: ps⟩ =
        o.op.apply left right >>= fun v => pure ⟨v :: ns, ps⟩ := by
      rw [settle_op (by simp [o.level_op])]
      simp only [settle_of_settled h]
    calc (e.lexemes ++ .op o.op :: t.lexemes).foldlM step ⟨ns, ps⟩ >>= settle 1
        = e.value >>= fun left =>
            t.lexemes.foldlM step ⟨left :: ns, .op o.op :: ps⟩ >>= settle 1 := by
          rw [foldlM_op, o.level_op, he]
          simp only [bind_assoc, pure_bind]
      _ = e.value >>= fun left =>
            (t.lexemes.foldlM step ⟨left :: ns, .op o.op :: ps⟩ >>= settle 2) >>= settle 1 := by
          simp only [bind_assoc, settle_settle (Nat.le_succ 1)]
      _ = e.value >>= fun left => t.value >>= fun right =>
            o.op.apply left right >>= fun v => pure ⟨v :: ns, ps⟩ := by
          simp only [ht, bind_assoc, pure_bind, ho]
      _ = (Expr.sum e _ o t).value >>= fun v => pure ⟨v :: ns, ps⟩ := by
          simp only [Expr.value, bind_assoc]

theorem Term.settle_run : (t : Term) → (ns : List Float) → {ps : List Pending} → Settled 2 ps →
    t.lexemes.foldlM step ⟨ns, ps⟩ >>= settle 2 = t.value >>= fun v => pure ⟨v :: ns, ps⟩
  | .factor f, ns, ps, h => by
    simp only [Term.lexemes, Term.value, f.settle_run, settle_of_settled h]
  | .product t _ o f, ns, ps, h => by
    have ht := t.settle_run ns h
    have ho (left right : Float) : settle 2 ⟨right :: left :: ns, .op o.op :: ps⟩ =
        o.op.apply left right >>= fun v => pure ⟨v :: ns, ps⟩ := by
      rw [settle_op (by simp [o.level_op])]
      simp only [settle_of_settled h]
    calc (t.lexemes ++ .op o.op :: f.lexemes).foldlM step ⟨ns, ps⟩ >>= settle 2
        = t.value >>= fun left =>
            f.lexemes.foldlM step ⟨left :: ns, .op o.op :: ps⟩ >>= settle 2 := by
          rw [foldlM_op, o.level_op, ht]
          simp only [bind_assoc, pure_bind]
      _ = t.value >>= fun left => f.value >>= fun right =>
            o.op.apply left right >>= fun v => pure ⟨v :: ns, ps⟩ := by
          simp only [f.settle_run, ho]
      _ = (Term.product t _ o f).value >>= fun v => pure ⟨v :: ns, ps⟩ := by
          simp only [Term.value, bind_assoc]

/-- A factor may leave the product with minus one pending. -/
theorem Factor.settle_run : (f : Factor) → (ns : List Float) → (ps : List Pending) →
    f.lexemes.foldlM step ⟨ns, ps⟩ >>= settle 2 = f.value >>= fun v => settle 2 ⟨v :: ns, ps⟩
  | .number _ negative n, ns, ps => by
    simp only [Factor.lexemes, Factor.value, List.foldlM_cons, List.foldlM_nil, Machine.step,
      bind_assoc, pure_bind]
  | .group _ negative e _, ns, ps => by
    -- The group by itself, on whatever lies below it.
    have hg (ns : List Float) (ps : List Pending) :
        (.opening :: (e.lexemes ++ [.closing])).foldlM step ⟨ns, ps⟩ =
          e.value >>= fun v => pure ⟨v :: ns, ps⟩ := by
      have he := e.settle_run ns (settled_group 1 ps)
      calc (.opening :: (e.lexemes ++ [.closing])).foldlM step ⟨ns, ps⟩
          = (e.lexemes.foldlM step ⟨ns, .group :: ps⟩ >>= settle 1) >>= close := by
            simp only [List.foldlM_cons, List.foldlM_append, List.foldlM_nil, step_closing,
              bind_assoc, bind_pure]
            rfl
        _ = e.value >>= fun v => pure ⟨v :: ns, ps⟩ := by
            rw [he, bind_assoc]
            rfl
    cases negative with
    | false =>
      simp only [Factor.lexemes, Factor.value, Bool.false_eq_true, if_false, List.nil_append, hg,
        bind_assoc, pure_bind]
    | true =>
      -- Minus one and its product lie below the group and wait until the factor is settled.
      have hm (v : Float) : settle 2 ⟨v :: -1.0 :: ns, .op .mul :: ps⟩ =
          checked (-1.0 * v) >>= fun w => settle 2 ⟨w :: ns, ps⟩ := settle_op (by decide) _ _ _ _
      calc (.negation :: .opening :: (e.lexemes ++ [.closing])).foldlM step ⟨ns, ps⟩ >>= settle 2
          = (.opening :: (e.lexemes ++ [.closing])).foldlM step ⟨-1.0 :: ns, .op .mul :: ps⟩ >>=
              settle 2 := rfl
        _ = e.value >>= fun v => checked (-1.0 * v) >>= fun w => settle 2 ⟨w :: ns, ps⟩ := by
            simp only [hg, bind_assoc, pure_bind, hm]
        _ = (Factor.group _ true e _).value >>= fun v => settle 2 ⟨v :: ns, ps⟩ := by
            simp only [Factor.value, if_true, bind_assoc]

end

/-- Running the lexemes of a sentence to the end gives its value. -/
theorem Expr.run_lexemes (e : Expr) :
    e.lexemes.foldlM step ⟨[], []⟩ >>= finish = e.value := by
  have h := e.settle_run [] (settled_nil 1)
  calc e.lexemes.foldlM step ⟨[], []⟩ >>= finish
      = (e.lexemes.foldlM step ⟨[], []⟩ >>= settle 1) >>= finish := by
        simp only [bind_assoc, settle_finish]
    _ = e.value >>= fun v => finish ⟨[v], []⟩ := by
        rw [h, bind_assoc]
        simp only [pure_bind]
    _ = e.value := bind_pure _

theorem evaluate_text (e : Expr) : evaluate e.text = e.value := by
  have h := e.lex_text 0
  rw [show spaces 0 = [] from rfl, List.append_nil] at h
  unfold evaluate
  rw [h, e.run_lexemes]

/-- The two ways in which a well-formed expression has no value. -/
def EvalError.IsArithmetic (err : EvalError) : Prop := err = .divisionByZero ∨ err = .overflow

theorem checked_error {v : Float} {err : EvalError} (h : checked v = .error err) :
    err = .overflow := by
  unfold checked at h
  split at h
  · cases h
  · cases h
    rfl

theorem BinOp.apply_error {o : BinOp} {left right : Float} {err : EvalError}
    (h : o.apply left right = .error err) : err.IsArithmetic := by
  cases o with
  | div =>
    simp only [BinOp.apply] at h
    split at h
    · cases h
      exact .inl rfl
    · exact .inr (checked_error h)
  | add | sub | mul => exact .inr (checked_error h)

mutual

theorem Expr.value_error {err : EvalError} : (e : Expr) → e.value = .error err → err.IsArithmetic
  | .term t, h => t.value_error h
  | .sum e _ o t, h => by
    obtain h | ⟨left, -, h⟩ := bind_eq_error h
    · exact e.value_error h
    obtain h | ⟨right, -, h⟩ := bind_eq_error h
    · exact t.value_error h
    exact BinOp.apply_error h

theorem Term.value_error {err : EvalError} : (t : Term) → t.value = .error err → err.IsArithmetic
  | .factor f, h => f.value_error h
  | .product t _ o f, h => by
    obtain h | ⟨left, -, h⟩ := bind_eq_error h
    · exact t.value_error h
    obtain h | ⟨right, -, h⟩ := bind_eq_error h
    · exact f.value_error h
    exact BinOp.apply_error h

theorem Factor.value_error {err : EvalError} :
    (f : Factor) → f.value = .error err → err.IsArithmetic
  | .number _ _ _, h => .inr (checked_error h)
  | .group _ negative e _, h => by
    obtain h | ⟨v, -, h⟩ := bind_eq_error h
    · exact e.value_error h
    cases negative with
    | false => cases h
    | true => exact .inr (checked_error h)

end

end CovertVault.Formula
