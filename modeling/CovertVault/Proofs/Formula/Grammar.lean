import CovertVault.Formula.Evaluation
import CovertVault.Proofs.Formula.NumberPattern

namespace CovertVault.Formula
open Number Text

/-- A number without a sign, as it is written. -/
structure Numeral where
  text : List Char
  isNumber : IsNumber text

inductive SumOp where
  | plus | minus
deriving Repr, DecidableEq

inductive ProductOp where
  | times | over
deriving Repr, DecidableEq

def SumOp.op : SumOp → BinOp
  | .plus => .add
  | .minus => .sub

def ProductOp.op : ProductOp → BinOp
  | .times => .mul
  | .over => .div

mutual

/-- Terms added and subtracted. -/
inductive Expr where
  | term (t : Term)
  | sum (e : Expr) (blanks : Nat) (o : SumOp) (t : Term)

/-- Factors multiplied and divided. -/
inductive Term where
  | factor (f : Factor)
  | product (t : Term) (blanks : Nat) (o : ProductOp) (f : Factor)

/-- A number or a group, perhaps negated. The minus stands right before what it negates. -/
inductive Factor where
  | number (blanks : Nat) (negative : Bool) (n : Numeral)
  | group (blanks : Nat) (negative : Bool) (e : Expr) (behind : Nat)

end

def BinOp.ascii : BinOp → Char
  | .add => '+'
  | .sub => '-'
  | .mul => '*'
  | .div => '/'

def spaces (k : Nat) : List Char := List.replicate k ' '

mutual

def Expr.text : Expr → List Char
  | .term t => t.text
  | .sum e k o t => e.text ++ (spaces k ++ o.op.ascii :: t.text)

def Term.text : Term → List Char
  | .factor f => f.text
  | .product t k o f => t.text ++ (spaces k ++ o.op.ascii :: f.text)

def Factor.text : Factor → List Char
  | .number k negative n => spaces k ++ (signText negative ++ n.text)
  | .group k negative e l =>
    spaces k ++ (signText negative ++ '(' :: (e.text ++ (spaces l ++ [')'])))

end

mutual

/-- Left operands first; each operation is rounded to binary64 and must have a finite result. -/
def Expr.value : Expr → Except EvalError Float
  | .term t => t.value
  | .sum e _ o t => do
    let left ← e.value
    let right ← t.value
    o.op.apply left right

def Term.value : Term → Except EvalError Float
  | .factor f => f.value
  | .product t _ o f => do
    let left ← t.value
    let right ← f.value
    o.op.apply left right

/-- A negated group is minus one times the group. -/
def Factor.value : Factor → Except EvalError Float
  | .number _ negative n => checked (literalValue (signText negative ++ n.text))
  | .group _ negative e _ => do
    let v ← e.value
    if negative then checked (-1.0 * v) else return v

end

mutual

def Expr.lexemes : Expr → List Lexeme
  | .term t => t.lexemes
  | .sum e _ o t => e.lexemes ++ .op o.op :: t.lexemes

def Term.lexemes : Term → List Lexeme
  | .factor f => f.lexemes
  | .product t _ o f => t.lexemes ++ .op o.op :: f.lexemes

def Factor.lexemes : Factor → List Lexeme
  | .number _ negative n => [.number (signText negative ++ n.text)]
  | .group _ negative e _ =>
    (if negative then [.negation] else []) ++ .opening :: (e.lexemes ++ [.closing])

end

variable {p : Nat} {u : Bool} {r : List Char}

theorem lexFrom_spaces (k : Nat) : lexFrom p u (spaces k ++ r) = lexFrom (p + k) u r := by
  induction k generalizing p with
  | zero => rfl
  | succ k ih =>
    have h : spaces (k + 1) ++ r = ' ' :: (spaces k ++ r) := rfl
    rw [h, lexFrom, if_pos rfl, ih, Nat.add_right_comm, Nat.add_assoc]

theorem lexFrom_blanks (k : Nat) : lexFrom p u (spaces k) = [] := by
  have h := lexFrom_spaces (p := p) (u := u) (r := []) k
  rw [List.append_nil] at h
  rw [h, lexFrom]

theorem lexFrom_negation : lexFrom p true ('-' :: '(' :: r) =
    .negation :: lexFrom (p + 1) true ('(' :: r) := by
  rw [lexFrom]
  simp

theorem lexFrom_opening : lexFrom p u ('(' :: r) = .opening :: lexFrom (p + 1) true r := by
  have h : ¬ (isAnyDigit '(' = true ∨ '(' = '.' ∨ '(' = '-' ∧ u = true) := by
    cases u <;> decide
  rw [lexFrom, if_neg (by decide), if_neg (by simp), if_neg h, if_pos rfl]

theorem lexFrom_closing : lexFrom p u (')' :: r) = .closing :: lexFrom (p + 1) false r := by
  have h : ¬ (isAnyDigit ')' = true ∨ ')' = '.' ∨ ')' = '-' ∧ u = true) := by
    cases u <;> decide
  rw [lexFrom, if_neg (by decide), if_neg (by simp), if_neg h, if_neg (by decide), if_pos rfl]

theorem lexFrom_op (o : BinOp) :
    lexFrom p false (o.ascii :: r) = .op o :: lexFrom (p + 1) true r := by
  have h : ¬ (isAnyDigit o.ascii = true ∨ o.ascii = '.' ∨ o.ascii = '-' ∧ false = true) := by
    cases o <;> decide
  have hs : o.ascii ≠ ' ' ∧ o.ascii ≠ '(' ∧ o.ascii ≠ ')' ∧ BinOp.ofChar? o.ascii = some o := by
    cases o <;> decide
  rw [lexFrom, if_neg hs.1, if_neg (by simp), if_neg h, if_neg hs.2.1, if_neg hs.2.2.1, hs.2.2.2]

theorem lexFrom_literal {c : Char} {s t : List Char} (h : scanLiteral (c :: s) = some (t, r))
    (hc : isDecimal c = true ∨ c = '.' ∨ c = '-' ∧ u = true)
    (hs : c = '-' → s.head? ≠ some '(') :
    lexFrom p u (c :: s) = .number t :: lexFrom (p + t.length) false r := by
  have hb : c ≠ ' ' := by
    rintro rfl
    have hn : isDecimal ' ' = false := by decide
    simp [hn] at hc
  have hd : isAnyDigit c = true ∨ c = '.' ∨ c = '-' ∧ u = true :=
    hc.imp_left fun h => by simp [isAnyDigit, h]
  rw [lexFrom, if_neg hb, if_neg fun h => hs h.1 h.2.2, if_pos hd]
  split
  · next h' => simp [h] at h'
  · next h' =>
    rw [h] at h'
    cases h'
    rfl

theorem lexFrom_numeral (negative : Bool) (n : Numeral) (hr : NoNumberNext r) :
    lexFrom p true (signText negative ++ n.text ++ r) =
      .number (signText negative ++ n.text) ::
        lexFrom (p + (signText negative ++ n.text).length) false r := by
  obtain ⟨c, s, he, hc⟩ := n.isNumber.head
  cases negative with
  | false =>
    have h := n.isNumber.scanLiteral_append hr
    have hm : c ≠ '-' := by
      have := n.isNumber.head_ne (c := '-') (by simp)
      simpa [he] using this
    simp only [he, signText, List.cons_append, Bool.false_eq_true, if_false, List.nil_append] at h ⊢
    exact lexFrom_literal h (hc.imp_right .inl) fun h => absurd h hm
  | true =>
    have h := n.isNumber.scanLiteral_minus hr
    have hs : (n.text ++ r).head? ≠ some '(' := by
      have := n.isNumber.head_ne (c := '(') (by simp)
      simpa [he] using this
    exact lexFrom_literal h (.inr (.inr ⟨rfl, rfl⟩)) fun _ => hs

/-- The character that goes before an operator or a parenthesis, if blanks do not. -/
theorem noNumberNext_spaces {c : Char} (hc : c ∈ ['+', '-', '*', '/', ')']) (k : Nat) :
    NoNumberNext (spaces k ++ c :: r) := by
  cases k with
  | zero =>
    have hm : c ∈ [' ', '+', '-', '*', '/', '(', ')'] := by
      simp only [List.mem_cons, List.not_mem_nil, or_false] at hc
      rcases hc with rfl | rfl | rfl | rfl | rfl <;> simp
    exact noNumberNext_cons hm r
  | succ k => exact noNumberNext_cons (by simp) _

theorem ascii_mem (o : BinOp) : o.ascii ∈ ['+', '-', '*', '/', ')'] := by
  cases o <;> decide

-- Along the tree: what stands behind each part, be it an operator, a parenthesis or a blank, is
-- nothing that a number could go on with.
mutual

theorem Expr.lexFrom_text : (e : Expr) → (p : Nat) → {r : List Char} → NoNumberNext r →
    lexFrom p true (e.text ++ r) = e.lexemes ++ lexFrom (p + e.text.length) false r
  | .term t, p, _, hr => t.lexFrom_text p hr
  | .sum e k o t, p, r, hr => by
    have hn : NoNumberNext (spaces k ++ o.op.ascii :: (t.text ++ r)) :=
      noNumberNext_spaces (ascii_mem _) k
    have he := e.lexFrom_text p hn
    have ht := t.lexFrom_text (p + e.text.length + k + 1) hr
    simp only [Expr.text, Expr.lexemes, List.append_assoc, List.cons_append]
    rw [he, lexFrom_spaces, lexFrom_op, ht]
    simp [spaces, Nat.add_assoc, Nat.add_comm 1]

theorem Term.lexFrom_text : (t : Term) → (p : Nat) → {r : List Char} → NoNumberNext r →
    lexFrom p true (t.text ++ r) = t.lexemes ++ lexFrom (p + t.text.length) false r
  | .factor f, p, _, hr => f.lexFrom_text p hr
  | .product t k o f, p, r, hr => by
    have hn : NoNumberNext (spaces k ++ o.op.ascii :: (f.text ++ r)) :=
      noNumberNext_spaces (ascii_mem _) k
    have ht := t.lexFrom_text p hn
    have hf := f.lexFrom_text (p + t.text.length + k + 1) hr
    simp only [Term.text, Term.lexemes, List.append_assoc, List.cons_append]
    rw [ht, lexFrom_spaces, lexFrom_op, hf]
    simp [spaces, Nat.add_assoc, Nat.add_comm 1]

theorem Factor.lexFrom_text : (f : Factor) → (p : Nat) → {r : List Char} → NoNumberNext r →
    lexFrom p true (f.text ++ r) = f.lexemes ++ lexFrom (p + f.text.length) false r
  | .number k negative n, p, r, hr => by
    simp only [Factor.text, Factor.lexemes, List.append_assoc]
    rw [lexFrom_spaces, ← List.append_assoc, lexFrom_numeral negative n hr]
    simp [spaces, Nat.add_assoc]
  | .group k negative e l, p, r, hr => by
    have hn : NoNumberNext (spaces l ++ ')' :: r) := noNumberNext_spaces (by simp) l
    have he := fun p => e.lexFrom_text p hn
    simp only [Factor.text, Factor.lexemes, List.append_assoc, List.cons_append, List.nil_append]
    rw [lexFrom_spaces]
    cases negative with
    | false =>
      simp only [signText, Bool.false_eq_true, if_false, List.nil_append]
      rw [lexFrom_opening, he, lexFrom_spaces, lexFrom_closing]
      simp [spaces, Nat.add_assoc, Nat.add_comm 1]
    | true =>
      simp only [signText, if_true, List.cons_append, List.nil_append]
      -- Lexing keeps count of the position, by which it knows an operator at the start.
      have hp : p + (spaces k ++ '-' :: '(' :: (e.text ++ (spaces l ++ [')']))).length =
          p + k + 1 + 1 + e.text.length + l + 1 := by
        simp [spaces]
        omega
      rw [lexFrom_negation, lexFrom_opening, he, lexFrom_spaces, lexFrom_closing, hp]

end

/-- A sentence is cut into the lexemes of its tree, blanks at the end left aside. -/
theorem Expr.lex_text (e : Expr) (k : Nat) : lex (e.text ++ spaces k) = e.lexemes := by
  have h : NoNumberNext (spaces k) := by
    cases k with
    | zero => exact noNumberNext_nil
    | succ k => exact noNumberNext_cons (by simp) _
  rw [lex, e.lexFrom_text 0 h, lexFrom_blanks, List.append_nil]

end CovertVault.Formula
