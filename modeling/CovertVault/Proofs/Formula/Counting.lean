import CovertVault.Proofs.Formula.Evaluation
import Mathlib.Data.List.Induction

namespace CovertVault.Formula

/-- What a lexeme adds to the numbers that are left in the end. -/
def Lexeme.weight : Lexeme → Int
  | .number _ => 1
  | .op _ => -1
  | _ => 0

/-- What a lexeme adds to the open groups. -/
def Lexeme.nesting : Lexeme → Int
  | .opening => 1
  | .closing => -1
  | _ => 0

def Lexeme.IsParenthesis (l : Lexeme) : Prop := l = .opening ∨ l = .closing

def weightOf : List Lexeme → Int
  | [] => 0
  | l :: ls => l.weight + weightOf ls

def nestingOf : List Lexeme → Int
  | [] => 0
  | l :: ls => l.nesting + nestingOf ls

variable {ls : List Lexeme} {l : Lexeme}

@[simp] theorem weightOf_nil : weightOf [] = 0 := rfl

@[simp] theorem weightOf_cons (l : Lexeme) (ls : List Lexeme) :
    weightOf (l :: ls) = l.weight + weightOf ls := rfl

theorem weightOf_append (ls ls' : List Lexeme) :
    weightOf (ls ++ ls') = weightOf ls + weightOf ls' := by
  induction ls with
  | nil => exact (Int.zero_add _).symm
  | cons l ls ih => rw [List.cons_append, weightOf_cons, ih, weightOf_cons, Int.add_assoc]

theorem weightOf_reverse (ls : List Lexeme) : weightOf ls.reverse = weightOf ls := by
  induction ls with
  | nil => rfl
  | cons l ls ih =>
    rw [List.reverse_cons, weightOf_append, ih, weightOf_cons, weightOf_cons, weightOf_nil]
    omega

@[simp] theorem nestingOf_nil : nestingOf [] = 0 := rfl

@[simp] theorem nestingOf_cons (l : Lexeme) (ls : List Lexeme) :
    nestingOf (l :: ls) = l.nesting + nestingOf ls := rfl

theorem nestingOf_append (ls ls' : List Lexeme) :
    nestingOf (ls ++ ls') = nestingOf ls + nestingOf ls' := by
  induction ls with
  | nil => exact (Int.zero_add _).symm
  | cons l ls ih => rw [List.cons_append, nestingOf_cons, ih, nestingOf_cons, Int.add_assoc]

theorem nestingOf_reverse (ls : List Lexeme) : nestingOf ls.reverse = nestingOf ls := by
  induction ls with
  | nil => rfl
  | cons l ls ih =>
    rw [List.reverse_cons, nestingOf_append, ih, nestingOf_cons, nestingOf_cons, nestingOf_nil]
    omega

theorem weightOf_closings (n : Nat) : weightOf (List.replicate n .closing) = 0 := by
  induction n with
  | zero => rfl
  | succ n ih =>
    rw [List.replicate_succ, weightOf_cons, ih]
    rfl

theorem nestingOf_closings (n : Nat) : nestingOf (List.replicate n .closing) = -n := by
  induction n with
  | zero => rfl
  | succ n ih =>
    rw [List.replicate_succ, nestingOf_cons, ih, Lexeme.nesting]
    omega

/-- Lexemes on which the counts come out right, with their value if that is known from them. -/
structure Counts (ls : List Lexeme) (v : Float) : Prop where
  readable : ∀ err, .bad err ∉ ls
  opened : ∀ p, p <+: ls → 0 ≤ nestingOf p
  closed : nestingOf ls = 0
  counted : (∀ l ∈ ls, l.IsParenthesis) ∧ v = 0.0 ∨ weightOf ls = 1

namespace Machine

variable {m m' : Machine} {ns ns' : List Float} {ps : List Pending} {p : BinOp → Bool}

/-- How many operators wait. -/
def waiting (ps : List Pending) : Nat := ps.countP (· ≠ .group)

@[simp] theorem waiting_op (o : BinOp) (ps : List Pending) :
    waiting (.op o :: ps) = waiting ps + 1 := List.countP_cons_of_pos rfl

@[simp] theorem waiting_group (ps : List Pending) : waiting (.group :: ps) = waiting ps :=
  List.countP_cons_of_neg (by simp)

theorem applyTop_ok {o : BinOp} (h : applyTop o ns = .ok ns') :
    ns.length = ns'.length + 1 ∧ ns' ≠ [] := by
  unfold applyTop at h
  split at h
  · obtain ⟨v, -, rfl⟩ := map_eq_ok h
    simp
  · cases h

/-- Each operator that is applied takes a number away, and none is applied to nothing. -/
theorem reduceWhile_ok (h : reduceWhile p ns ps = .ok m) :
    (ns.length : Int) - waiting ps = m.numbers.length - waiting m.pending ∧
      ps.count .group = m.pending.count .group ∧ (m.numbers = [] → ns = [] ∧ m.pending = ps) := by
  induction ps generalizing ns with
  | nil =>
    cases h
    exact ⟨rfl, rfl, fun hn => ⟨hn, rfl⟩⟩
  | cons q ps ih =>
    cases q with
    | group =>
      cases h
      exact ⟨rfl, rfl, fun hn => ⟨hn, rfl⟩⟩
    | op o =>
      rw [reduceWhile] at h
      split at h
      · -- An operator takes two numbers and gives one, so the difference stays.
        obtain ⟨ns', ha, h⟩ := bind_eq_ok h
        obtain ⟨hl, hne⟩ := applyTop_ok ha
        obtain ⟨hc, hg, hk⟩ := ih h
        refine ⟨?_, by simpa using hg, fun hn => absurd (hk hn).1 hne⟩
        rw [← hc, hl, waiting_op]
        omega
      · cases h
        exact ⟨rfl, rfl, fun hn => ⟨hn, rfl⟩⟩

/-- Where all operators may be applied, a parenthesis is what stops it. -/
theorem reduceWhile_true (h : reduceWhile (fun _ => true) ns ps = .ok m) :
    ∀ q ∈ m.pending.head?, q = .group := by
  induction ps generalizing ns with
  | nil =>
    cases h
    simp
  | cons q ps ih =>
    cases q with
    | group =>
      cases h
      simp
    | op o =>
      obtain ⟨ns', -, h⟩ := bind_eq_ok h
      exact ih h

/-- What is left when all could be applied. -/
theorem reduceAll_ok (h : reduceAll ns ps = .ok ns') :
    (ns.length : Int) - waiting ps = ns'.length ∧ ps.count .group = 0 ∧
      (ns' = [] → ns = [] ∧ ps = []) := by
  induction ps generalizing ns with
  | nil =>
    cases h
    exact ⟨by simp [waiting], rfl, fun hn => ⟨hn, rfl⟩⟩
  | cons q ps ih =>
    cases q with
    | group => cases h
    | op o =>
      obtain ⟨ns₁, ha, h⟩ := bind_eq_ok h
      obtain ⟨hl, hne⟩ := applyTop_ok ha
      obtain ⟨hc, hg, hk⟩ := ih h
      refine ⟨?_, by simpa using hg, fun hn => absurd (hk hn).1 hne⟩
      rw [← hc, hl, waiting_op]
      omega

/-- What the stacks tell about the lexemes that were read. -/
structure Tracks (m : Machine) (ls : List Lexeme) : Prop where
  readable : ∀ err, .bad err ∉ ls
  counted : (m.numbers.length : Int) - waiting m.pending = weightOf ls
  nested : (m.pending.count .group : Int) = nestingOf ls
  unnumbered : m.numbers = [] → waiting m.pending = 0 → ∀ l ∈ ls, l.IsParenthesis

theorem tracks_empty : Tracks ⟨[], []⟩ [] where
  readable := by simp
  counted := rfl
  nested := rfl
  unnumbered := by simp

theorem Tracks.snoc (h : m.Tracks ls) (hb : ∀ err, l ≠ .bad err)
    (hc : (m'.numbers.length : Int) - waiting m'.pending =
      m.numbers.length - waiting m.pending + l.weight)
    (hn : (m'.pending.count .group : Int) = m.pending.count .group + l.nesting)
    (hu : m'.numbers = [] → waiting m'.pending = 0 →
      m.numbers = [] ∧ waiting m.pending = 0 ∧ l.IsParenthesis) :
    m'.Tracks (ls ++ [l]) where
  readable := by
    intro err hm
    obtain hm | hm := List.mem_append.1 hm
    · exact h.readable err hm
    · exact hb err (List.mem_singleton.1 hm).symm
  counted := by rw [hc, h.counted, weightOf_append, weightOf_cons, weightOf_nil, Int.add_zero]
  nested := by rw [hn, h.nested, nestingOf_append, nestingOf_cons, nestingOf_nil, Int.add_zero]
  unnumbered := by
    intro he hw q hq
    obtain ⟨hm, hz, hl⟩ := hu he hw
    obtain hq | hq := List.mem_append.1 hq
    · exact h.unnumbered hm hz q hq
    · rw [List.mem_singleton.1 hq]
      exact hl

/-- One lexeme more. -/
theorem Tracks.step (h : m.Tracks ls) (hs : m.step l = .ok m') : m'.Tracks (ls ++ [l]) := by
  cases l with
  | number t =>
    obtain ⟨v, -, hs⟩ := bind_eq_ok hs
    cases hs
    refine h.snoc (by simp) ?_ ?_ (by simp)
    · simp [Lexeme.weight]
      omega
    · simp [Lexeme.nesting]
  | negation =>
    cases hs
    refine h.snoc (by simp) ?_ ?_ (by simp)
    · simp only [Lexeme.weight, List.length_cons, waiting_op]
      omega
    · simp [Lexeme.nesting]
  | opening =>
    cases hs
    refine h.snoc (by simp) ?_ ?_ fun hn hw => ⟨hn, by simpa using hw, .inl rfl⟩
    · simp [Lexeme.weight]
    · simp [Lexeme.nesting]
  | closing =>
    -- All operators down to the parenthesis are applied first, and that keeps the counts.
    obtain ⟨⟨ns, ps⟩, hr, hs⟩ := bind_eq_ok hs
    obtain ⟨hc, hg, hk⟩ := reduceWhile_ok hr
    have hq := reduceWhile_true hr
    cases ps with
    | nil => cases hs
    | cons q ps =>
      obtain rfl := hq q rfl
      cases hs
      refine h.snoc (by simp) ?_ ?_ fun hn hw => ?_
      · simp only [Lexeme.weight, waiting_group] at hc ⊢
        omega
      · simp only [Lexeme.nesting, hg, List.count_cons_self]
        omega
      · obtain ⟨hn, hp⟩ := hk hn
        exact ⟨hn, by simpa [← hp] using hw, .inr rfl⟩
  | op o =>
    obtain ⟨⟨ns, ps⟩, hr, hs⟩ := bind_eq_ok hs
    obtain ⟨hc, hg, hk⟩ := reduceWhile_ok hr
    cases hs
    refine h.snoc (by simp) ?_ ?_ (by simp)
    · simp [Lexeme.weight] at hc ⊢
      omega
    · simp [Lexeme.nesting, hg]
  | bad err => cases hs

/-- What a run tells about all the lexemes. -/
theorem tracks_run {ls : List Lexeme} {m : Machine} (h : ls.foldlM Machine.step ⟨[], []⟩ = .ok m) :
    m.Tracks ls := by
  induction ls using List.reverseRecOn generalizing m with
  | nil =>
    cases h
    exact tracks_empty
  | append_singleton ls l ih =>
    -- The last lexeme is the step, since the counts are over all that was read.
    rw [List.foldlM_append] at h
    obtain ⟨m₁, h₁, h⟩ := bind_eq_ok h
    obtain ⟨m₂, h₂, h⟩ := bind_eq_ok h
    cases h
    exact (ih h₁).step h₂

end Machine

/-- Only lexemes on which the counts come out right have a value. -/
theorem counts_of_evaluate {s : List Char} {v : Float} (h : evaluate s = .ok v) :
    Counts (lex s) v := by
  obtain ⟨m, hm, hf⟩ := bind_eq_ok h
  have ht := Machine.tracks_run hm
  obtain ⟨ns, hr, hv⟩ := bind_eq_ok hf
  obtain ⟨hc, hg, hk⟩ := Machine.reduceAll_ok hr
  refine ⟨ht.readable, fun p hp => ?_, ?_, ?_⟩
  · obtain ⟨q, hq⟩ := hp
    rw [← hq, List.foldlM_append] at hm
    obtain ⟨m', hm', -⟩ := bind_eq_ok hm
    rw [← (Machine.tracks_run hm').nested]
    exact Int.natCast_nonneg _
  · rw [← ht.nested, hg]
    rfl
  · -- How many numbers are left decides; none are left only where there were none.
    rw [← ht.counted, hc]
    cases ns with
    | nil =>
      obtain ⟨hn, hp⟩ := hk rfl
      exact .inl ⟨ht.unnumbered hn (by rw [hp]; rfl), (Except.ok.inj hv).symm⟩
    | cons v ns =>
      cases ns with
      | nil => exact .inr rfl
      | cons w ns => cases hv

/-- Whether a lexeme can be taken behind others: an operator and the end of a group want a number
to be left over there. -/
def Lexeme.TakenBehind (ls : List Lexeme) : Lexeme → Prop
  | .op _ | .closing => 0 < weightOf ls
  | .bad _ => False
  | _ => True

namespace Machine

variable {m : Machine} {ns : List Float} {ps : List Pending} {err : EvalError}

theorem applyTop_error {o : BinOp} (hn : 1 < ns.length) (h : applyTop o ns = .error err) :
    err.IsArithmetic := by
  match ns, hn with
  | right :: left :: rest, _ =>
    cases hv : o.apply left right with
    | ok v =>
      rw [applyTop, hv] at h
      cases h
    | error err' =>
      rw [applyTop, hv] at h
      cases h
      exact BinOp.apply_error hv

/-- With a number more than operators wait, each of them finds its two. -/
theorem reduceWhile_error {p : BinOp → Bool} (hw : waiting ps < ns.length)
    (h : reduceWhile p ns ps = .error err) : err.IsArithmetic := by
  induction ps generalizing ns with
  | nil => cases h
  | cons q ps ih =>
    cases q with
    | group => cases h
    | op o =>
      rw [waiting_op] at hw
      rw [reduceWhile] at h
      split at h
      · -- Enough numbers are left for this operator, and for those that wait behind it.
        obtain h | ⟨ns', ha, h⟩ := bind_eq_error h
        · exact applyTop_error (by omega) h
        · have hl := (applyTop_ok ha).1
          exact ih (by omega) h
      · cases h

theorem reduceAll_error (hg : ps.count .group = 0) (hw : waiting ps < ns.length)
    (h : reduceAll ns ps = .error err) : err.IsArithmetic := by
  induction ps generalizing ns with
  | nil => cases h
  | cons q ps ih =>
    cases q with
    | group => simp at hg
    | op o =>
      rw [waiting_op] at hw
      obtain h | ⟨ns', ha, h⟩ := bind_eq_error h
      · exact applyTop_error (by omega) h
      · have hl := (applyTop_ok ha).1
        exact ih (by simpa using hg) (by omega) h

/-- One lexeme more, where it can be taken. -/
theorem Tracks.step_error (h : m.Tracks ls) (ht : l.TakenBehind ls) (hn : 0 ≤ nestingOf (ls ++ [l]))
    (hs : m.step l = .error err) : err.IsArithmetic := by
  have hc := h.counted
  cases l with
  | number t =>
    obtain hs | ⟨v, -, hs⟩ := bind_eq_error hs
    · exact .inr (checked_error hs)
    · cases hs
  | negation | opening => cases hs
  | bad => exact ht.elim
  | op o =>
    have ht : 0 < weightOf ls := ht
    obtain hs | ⟨m', -, hs⟩ := bind_eq_error hs
    · exact reduceWhile_error (by omega) hs
    · cases hs
  | closing =>
    have ht : 0 < weightOf ls := ht
    obtain hs | ⟨⟨ns, ps⟩, hr, hs⟩ := bind_eq_error hs
    · exact reduceWhile_error (by omega) hs
    · -- A group is open, so what the reduction has left is not nothing.
      cases ps with
      | cons q ps => cases hs
      | nil =>
        have hg := (reduceWhile_ok hr).2.1
        rw [nestingOf_append, nestingOf_cons, nestingOf_nil, ← h.nested, hg] at hn
        simp [Lexeme.nesting] at hn

theorem run_error (ht : ∀ p l, p ++ [l] <+: ls → l.TakenBehind p)
    (ho : ∀ p, p <+: ls → 0 ≤ nestingOf p) (h : ls.foldlM Machine.step ⟨[], []⟩ = .error err) :
    err.IsArithmetic := by
  induction ls using List.reverseRecOn with
  | nil => cases h
  | append_singleton ls l ih =>
    rw [List.foldlM_append] at h
    -- An earlier lexeme has failed, or the last one does, on stacks whose counts are known.
    obtain h | ⟨m, hm, h⟩ := bind_eq_error h
    · exact ih (fun p l hp => ht p l (hp.trans (List.prefix_append _ _)))
        (fun p hp => ho p (hp.trans (List.prefix_append _ _))) h
    obtain h | ⟨m', -, h⟩ := bind_eq_error h
    · exact (tracks_run hm).step_error (ht ls l (List.prefix_refl _)) (ho _ (List.prefix_refl _)) h
    · cases h

end Machine

/-- Where each lexeme can be taken and the counts come out right in the end, an evaluation fails
only as the arithmetic does. -/
theorem evaluate_error {s : List Char} (ht : ∀ p l, p ++ [l] <+: lex s → l.TakenBehind p)
    (ho : ∀ p, p <+: lex s → 0 ≤ nestingOf p) (hc : nestingOf (lex s) = 0)
    (hw : weightOf (lex s) = 1) {err : EvalError} (h : evaluate s = .error err) :
    err.IsArithmetic := by
  obtain h | ⟨m, hm, h⟩ := bind_eq_error h
  · exact Machine.run_error ht ho h
  have hm := Machine.tracks_run hm
  have hcount := hm.counted
  have hgroup := hm.nested
  have hg : m.pending.count .group = 0 := by omega
  obtain h | ⟨ns, hr, h⟩ := bind_eq_error h
  · exact Machine.reduceAll_error hg (by omega) h
  · have hl := (Machine.reduceAll_ok hr).1
    match ns, h with
    | [], h => cases h
    | [v], h => cases h
    | v :: w :: rest, _ => simp at hl; omega

namespace Machine

theorem run_openings (n : Nat) (ps : List Pending) :
    (List.replicate n Lexeme.opening).foldlM step ⟨[], ps⟩ =
      .ok ⟨[], List.replicate n .group ++ ps⟩ := by
  induction n generalizing ps with
  | zero => rfl
  | succ n ih =>
    rw [List.replicate_succ, List.foldlM_cons]
    show (List.replicate n Lexeme.opening).foldlM step ⟨[], .group :: ps⟩ = _
    rw [ih, List.replicate_succ', List.append_assoc]
    rfl

theorem run_closings (n : Nat) (ps : List Pending) :
    (List.replicate n Lexeme.closing).foldlM step ⟨[], List.replicate n .group ++ ps⟩ =
      .ok ⟨[], ps⟩ := by
  induction n with
  | zero => rfl
  | succ n ih =>
    rw [List.replicate_succ, List.replicate_succ, List.foldlM_cons]
    exact ih

end Machine

/-- Opening parentheses, each of them closed, come to zero. -/
theorem evaluate_openings {s : List Char} {n : Nat}
    (h : lex s = List.replicate n .opening ++ List.replicate n .closing) :
    evaluate s = .ok 0.0 := by
  unfold evaluate
  rw [h, List.foldlM_append, Machine.run_openings, ok_bind, Machine.run_closings, ok_bind]
  rfl

end CovertVault.Formula
