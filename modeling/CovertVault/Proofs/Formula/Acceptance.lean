import CovertVault.Proofs.Formula.Counting
import CovertVault.Proofs.Keypad.Reading
import Mathlib.Data.List.Chain

namespace CovertVault.Formula
open Keypad Number

namespace Lexeme

def text : Lexeme → List Char
  | .number t => t
  | .negation => ['-']
  | .op o => [o.ascii]
  | .opening => ['(']
  | .closing => [')']
  | .bad _ => []

def Readable : Lexeme → Prop
  | .number t => IsSignedNumber t
  | .bad _ => False
  | _ => True

/-- Lexemes at which an operand or a group may end. -/
def ends : Lexeme → Bool
  | .number _ | .closing => true
  | _ => false

/-- Lexemes at which an operand or a group may begin. -/
def begins : Lexeme → Bool
  | .number _ | .negation | .opening => true
  | _ => false

end Lexeme

/-- Whether a lexeme may stand right behind another, as far as operands must be apart and a negated
group must follow its minus. -/
def Lexeme.Meets (older newer : Lexeme) : Prop :=
  ¬ (older.ends = true ∧ newer.begins = true) ∧ (older = .negation → newer = .opening)

/-- No operand stands directly behind another. -/
def Apart (ls : List Lexeme) : Prop := ls.IsChain fun a b => ¬ (a.ends = true ∧ b.begins = true)

/-- A text made of lexemes with blanks before them; a minus stands right before the parenthesis
that it negates. -/
inductive Spaced : List Char → List Lexeme → Prop
  | nil (k : Nat) : Spaced (spaces k) []
  | cons (k : Nat) {l : Lexeme} {s : List Char} {ls : List Lexeme} : l.Readable →
      (l = .negation → s.head? = some '(') → Spaced s ls →
      Spaced (spaces k ++ (l.text ++ s)) (l :: ls)

variable {s : List Char} {l : Lexeme} {ls : List Lexeme}

theorem Spaced.blank (h : Spaced s ls) : Spaced (' ' :: s) ls := by
  cases h with
  | nil k => exact .nil (k + 1)
  | cons k hl hn h => exact .cons (k + 1) hl hn h

theorem Spaced.lexeme (hl : l.Readable) (hn : l = .negation → s.head? = some '(')
    (h : Spaced s ls) : Spaced (l.text ++ s) (l :: ls) := .cons 0 hl hn h

theorem ascii_of_ofChar? {c : Char} {o : BinOp} (h : BinOp.ofChar? c = some o) : o.ascii = c := by
  unfold BinOp.ofChar? at h
  split at h <;> cases h <;> rfl

/-- A text that can be read is made of its lexemes. -/
theorem spaced_lexFrom (p : Nat) (u : Bool) (s : List Char)
    (h : ∀ err, .bad err ∉ lexFrom p u s) : Spaced s (lexFrom p u s) := by
  fun_induction lexFrom p u s with
  | case1 => exact .nil 0
  | case2 p u r ih => exact (ih h).blank
  | case3 p u c r hb hm ih =>
    obtain ⟨rfl, -, hr⟩ := hm
    exact .lexeme (l := .negation) trivial (fun _ => hr) (ih fun err he => h err (.tail _ he))
  | case4 => simp at h
  | case5 p u c r hb hm hd t rest hs hl ih =>
    rw [(scanLiteral_eq hs).1]
    exact .lexeme (l := .number t) (isSignedNumber_of_scan hs) nofun
      (ih fun err he => h err (.tail _ he))
  | case6 p u r hb hm hd ih =>
    exact .lexeme (l := .opening) trivial nofun (ih fun err he => h err (.tail _ he))
  | case7 p u r hb hm hd hc ih =>
    exact .lexeme (l := .closing) trivial nofun (ih fun err he => h err (.tail _ he))
  | case8 p u c r hb hm hd ho hc o hop ih =>
    rw [← ascii_of_ofChar? hop]
    exact .lexeme (l := .op o) trivial nofun (ih fun err he => h err (.tail _ he))
  | case9 => simp at h

/-- How a text made of lexemes begins. -/
theorem Spaced.uncons (h : Spaced s (l :: ls)) : ∃ k r, s = spaces k ++ (l.text ++ r) ∧
    (l = .negation → r.head? = some '(') ∧ Spaced r ls := by
  cases h with
  | cons k _ hn h => exact ⟨k, _, rfl, hn, h⟩

theorem Spaced.opening (h : Spaced s (.opening :: ls)) (hs : s.head? = some '(') :
    ∃ r, s = '(' :: r ∧ Spaced r ls := by
  obtain ⟨k, r, rfl, -, hr⟩ := h.uncons
  cases k with
  | zero => exact ⟨r, rfl, hr⟩
  | succ k => cases hs

theorem Spaced.readable (h : Spaced s ls) : ∀ l ∈ ls, l.Readable := by
  induction h with
  | nil => simp
  | cons _ hl _ _ ih => exact List.forall_mem_cons.2 ⟨hl, ih⟩

theorem readable_head {l : Lexeme} (hl : l.Readable) {s : List Char}
    (hs : (l.text ++ s).head? = some '(') : l = .opening := by
  cases l with
  | number t =>
    obtain hn | ⟨r, rfl, -⟩ := hl
    · obtain ⟨c, r, rfl, -⟩ := hn.head
      exact absurd hs (hn.head_ne (c := '(') (by simp))
    · cases hs
  | negation => cases hs
  | op o => cases o <;> cases hs
  | opening => rfl
  | closing => cases hs
  | bad => cases hl

/-- The parenthesis that is negated is the next lexeme. -/
theorem Spaced.meets (h : Spaced s ls) (ha : Apart ls) : ls.IsChain Lexeme.Meets := by
  induction h with
  | nil => exact .nil
  | @cons k l s ls hl hn h ih =>
    obtain ⟨hm, ha⟩ := List.isChain_cons.1 ha
    -- A negation has no blanks behind it, so the parenthesis that it needs comes next.
    refine List.isChain_cons.2 ⟨fun l' hl' => ⟨hm l' hl', fun he => ?_⟩, ih ha⟩
    cases h with
    | nil => cases hl'
    | cons k hr _ h =>
      obtain rfl := Option.some.inj hl'
      cases k with
      | zero => exact readable_head hr (hn he)
      | succ k => cases hn he

/-- Behind a minus that negates a group the group begins. -/
theorem Spaced.behind_negation {as : List Lexeme} (h : Spaced s (as ++ .negation :: ls)) :
    ls.head? = some .opening := by
  induction as generalizing s with
  | nil =>
    obtain ⟨-, r, -, hn, h⟩ := h.uncons
    cases h with
    | nil k =>
      have hh := hn rfl
      cases k <;> cases hh
    | cons k hl _ _ =>
      have hh := hn rfl
      cases k with
      | zero => rw [readable_head hl hh]; rfl
      | succ k => cases hh
  | cons a as ih =>
    obtain ⟨-, r, -, -, h⟩ := h.uncons
    exact ih h

-- Along the tree: where its lexemes stand, the same tree stands with the blanks of the text.
mutual

theorem Spaced.expr {s : List Char} {ls : List Lexeme} :
    (e : Expr) → Spaced s (e.lexemes ++ ls) → ∃ (e' : Expr) (r : List Char),
      s = e'.text ++ r ∧ Spaced r ls
  | .term t, h => by
    obtain ⟨t', r, rfl, hr⟩ := Spaced.term t h
    exact ⟨.term t', r, rfl, hr⟩
  | .sum e _ o t, h => by
    rw [Expr.lexemes, List.append_assoc] at h
    obtain ⟨e', r₁, rfl, h₁⟩ := Spaced.expr e h
    obtain ⟨k, r₂, rfl, -, h₂⟩ := h₁.uncons
    obtain ⟨t', r, rfl, hr⟩ := Spaced.term t h₂
    exact ⟨.sum e' k o t', r, by simp [Expr.text, Lexeme.text], hr⟩

theorem Spaced.term {s : List Char} {ls : List Lexeme} :
    (t : Term) → Spaced s (t.lexemes ++ ls) → ∃ (t' : Term) (r : List Char),
      s = t'.text ++ r ∧ Spaced r ls
  | .factor f, h => by
    obtain ⟨f', r, rfl, hr⟩ := Spaced.factor f h
    exact ⟨.factor f', r, rfl, hr⟩
  | .product t _ o f, h => by
    rw [Term.lexemes, List.append_assoc] at h
    obtain ⟨t', r₁, rfl, h₁⟩ := Spaced.term t h
    obtain ⟨k, r₂, rfl, -, h₂⟩ := h₁.uncons
    obtain ⟨f', r, rfl, hr⟩ := Spaced.factor f h₂
    exact ⟨.product t' k o f', r, by simp [Term.text, Lexeme.text], hr⟩

theorem Spaced.factor {s : List Char} {ls : List Lexeme} :
    (f : Factor) → Spaced s (f.lexemes ++ ls) → ∃ (f' : Factor) (r : List Char),
      s = f'.text ++ r ∧ Spaced r ls
  | .number _ negative n, h => by
    obtain ⟨k, r, rfl, -, hr⟩ := h.uncons
    exact ⟨.number k negative n, r, by simp [Factor.text, Lexeme.text], hr⟩
  | .group _ negative e _, h => by
    rw [Factor.lexemes, List.append_assoc] at h
    obtain ⟨k, r₁, rfl, h₁⟩ : ∃ k r, s = spaces k ++ (signText negative ++ '(' :: r) ∧
        Spaced r (e.lexemes ++ .closing :: ls) := by
      cases negative with
      | false =>
        obtain ⟨k, r, rfl, -, hr⟩ := h.uncons
        exact ⟨k, r, rfl, by simpa using hr⟩
      | true =>
        -- The minus has no blanks behind it.
        obtain ⟨k, r₁, rfl, hn, h₁⟩ := h.uncons
        obtain ⟨r, rfl, hr⟩ := h₁.opening (hn rfl)
        exact ⟨k, r, rfl, by simpa using hr⟩
    obtain ⟨e', r₂, rfl, h₂⟩ := Spaced.expr e h₁
    obtain ⟨l, r, rfl, -, hr⟩ := h₂.uncons
    exact ⟨.group k negative e' l, r, by simp [Factor.text, Lexeme.text], hr⟩

end

/-- The token that is read as a lexeme; there is none for what cannot be read. -/
def Lexeme.token : Lexeme → Token
  | .number t => .operand (.literal t)
  | .negation => .operand (.literal ['-'])
  | .op o => .operator o
  | .opening => .opening
  | .closing | .bad _ => .closing

/-- How many numbers more than operators there can be. -/
def mostWeight : Awaited → Int
  | .connective => 1
  | _ => 0

theorem mostWeight_le (a : Awaited) : mostWeight a ≤ 1 := by
  cases a <;> decide

theorem eq_connective_of_mostWeight {a : Awaited} (h : mostWeight a = 1) : a = .connective := by
  cases a with
  | connective => rfl
  | operand | group => cases h

theorem lexeme_token (hl : l.Readable) : l.token.lexeme = l := by
  cases l with
  | number t => exact lexeme_literal hl
  | bad => cases hl
  | negation | op | opening | closing => rfl

theorem sound_token (hl : l.Readable) : l.token.Sound := by
  cases l with
  | number t => exact result_sound (.inl hl)
  | negation => exact .literal (by simp) (by decide)
  | op | opening | closing | bad => trivial

theorem depthOf_token (hl : ∀ l ∈ ls, l.Readable) :
    Editor.depthOf (ls.map Lexeme.token) = nestingOf ls := by
  induction ls with
  | nil => rfl
  | cons l ls ih =>
    obtain ⟨hl, hls⟩ := List.forall_mem_cons.1 hl
    rw [List.map_cons, depthOf_cons, nestingOf_cons, ih hls]
    congr 1
    cases l with
    | bad => cases hl
    | number | negation | op | opening | closing => rfl

theorem awaited_number {t : List Char} (ht : IsSignedNumber t) (r : List Token) :
    awaited ((Lexeme.number t).token :: r) = .connective :=
  awaited_operand_of_not_bare (result_not_bare (.inl ht))

/-- A lexeme that begins an operand uses its place up, one that goes on behind an operand leaves
one. -/
theorem mostWeight_cons (hl : l.Readable) (r : List Token) :
    mostWeight (awaited (l.token :: r)) = l.weight + if l.begins then 0 else 1 := by
  cases l with
  | number t =>
    rw [awaited_number hl]
    rfl
  | bad => cases hl
  | negation | op | opening | closing => rfl

theorem fits_operand (hb : l.begins = true) : l.token.fits .operand = true := by
  cases l with
  | number | negation | opening => rfl
  | op | closing | bad => cases hb

/-- What begins an operand fits where none was completed. -/
theorem fits_of_begins (hb : l.begins = true) (hl : ∀ q ∈ ls, q.Readable)
    (hm : ∀ q ∈ ls.head?, q.Meets l) : l.token.fits (awaited (ls.map Lexeme.token)) = true ∧
      mostWeight (awaited (ls.map Lexeme.token)) = 0 := by
  cases ls with
  | nil => exact ⟨fits_operand hb, rfl⟩
  | cons q ls =>
    obtain ⟨hends, hneg⟩ := hm q rfl
    cases q with
    | number | closing => exact absurd ⟨rfl, hb⟩ hends
    | negation =>
      obtain rfl := hneg rfl
      exact ⟨rfl, rfl⟩
    | op | opening => exact ⟨fits_operand hb, rfl⟩
    | bad => cases hl _ (.head ls)

/-- What goes on behind an operand fits where one was completed. -/
theorem fits_of_continues (hb : l.begins = false) (hl : l.Readable) :
    l.token.fits .connective = true := by
  cases l with
  | op | closing => rfl
  | bad => cases hl
  | number | negation | opening => cases hb

/-- Lexemes of the greatest weight that they can have, newest first, are laid out as tokens should
be. -/
theorem laid_of_weight (hl : ∀ l ∈ ls, l.Readable) (hd : ∀ r, r <:+ ls → 0 ≤ nestingOf r)
    (hc : ls.IsChain fun newer older => older.Meets newer) :
    weightOf ls ≤ mostWeight (awaited (ls.map Lexeme.token)) ∧
      (weightOf ls = mostWeight (awaited (ls.map Lexeme.token)) → Laid (ls.map Lexeme.token)) := by
  -- What is lacking at one place is not made up for at a later one.
  induction ls with
  | nil => exact ⟨Int.le_refl 0, fun _ => trivial⟩
  | cons l ls ih =>
    obtain ⟨hm, hc⟩ := List.isChain_cons.1 hc
    obtain ⟨hr, hrs⟩ := List.forall_mem_cons.1 hl
    obtain ⟨hle, hlaid⟩ := ih hrs (fun q hq => hd q (hq.trans (List.suffix_cons l ls))) hc
    have hdepth : 0 ≤ Editor.depthOf (l.token :: ls.map Lexeme.token) := by
      rw [← List.map_cons, depthOf_token hl]
      exact hd _ (List.suffix_refl _)
    rw [List.map_cons, weightOf_cons, mostWeight_cons hr]
    -- The older lexemes weigh at most zero where an operand begins, and at most one elsewhere.
    cases hb : l.begins with
    | true =>
      obtain ⟨hf, hz⟩ := fits_of_begins hb hrs hm
      simp only [if_true]
      exact ⟨by omega, fun he => ⟨hf, sound_token hr, hdepth, hlaid (by omega)⟩⟩
    | false =>
      have hone := mostWeight_le (awaited (ls.map Lexeme.token))
      simp only [Bool.false_eq_true, if_false]
      refine ⟨by omega, fun he => ?_⟩
      have ha : awaited (ls.map Lexeme.token) = .connective :=
        eq_connective_of_mostWeight (by omega)
      exact ⟨ha ▸ fits_of_continues hb hr, sound_token hr, hdepth, hlaid (by omega)⟩

theorem typed_token (hl : ∀ l ∈ ls, l.Readable) : Typed (ls.map Lexeme.token) := by
  intro t ht hn
  obtain ⟨l, hm, he⟩ := List.mem_map.1 ht
  cases l with
  | number t' =>
    cases he
    exact hl _ hm
  | negation =>
    cases he
    exact absurd rfl hn
  | op | opening | closing | bad => cases he

/-- Readable lexemes with operands apart and all counts right are those of a sentence. -/
theorem exists_lexemes (hl : ∀ l ∈ ls, l.Readable) (hm : ls.IsChain Lexeme.Meets)
    (ho : ∀ p, p <+: ls → 0 ≤ nestingOf p) (hz : nestingOf ls = 0) (hw : weightOf ls = 1) :
    ∃ e : Expr, e.lexemes = ls := by
  have hl' : ∀ l ∈ ls.reverse, l.Readable := fun l h => hl l (List.mem_reverse.1 h)
  have hw' : weightOf ls.reverse = 1 := (weightOf_reverse ls).trans hw
  have ho' : ∀ q, q <:+ ls.reverse → 0 ≤ nestingOf q := fun q hq => by
    rw [← nestingOf_reverse]
    exact ho _ (List.reverse_suffix.1 (by rwa [List.reverse_reverse]))
  obtain ⟨hle, hlaid⟩ := laid_of_weight hl' ho' (List.isChain_reverse.2 hm)
  have hone := mostWeight_le (awaited (ls.reverse.map Lexeme.token))
  have ha : awaited (ls.reverse.map Lexeme.token) = .connective :=
    eq_connective_of_mostWeight (by omega)
  obtain ⟨e, he⟩ := exists_sentence (hlaid (by omega)) (typed_token hl') ha
    (by rw [depthOf_token hl', nestingOf_reverse, hz])
  refine ⟨e, ?_⟩
  calc e.lexemes = (((ls.map Lexeme.token).map Token.plain).map Token.lexeme) := by
        rw [lexemes_expr, he, ← List.map_reverse, List.reverse_reverse]
    _ = ls.map fun l => l.token.plain.lexeme := by simp
    _ = ls := by
        rw [List.map_congr_left fun l hm => (lexeme_plain l.token).trans (lexeme_token (hl l hm)),
          List.map_id']

/-- Blank texts, and sentences with blanks around their parts. -/
def InGrammar (s : List Char) : Prop :=
  (∃ k, s = spaces k) ∨ ∃ (e : Expr) (k : Nat), s = e.text ++ spaces k

mutual

theorem weight_expr : (e : Expr) → weightOf e.lexemes = 1
  | .term t => weight_term t
  | .sum e _ o t => by
    simp [Expr.lexemes, weightOf_append, weight_expr e, weight_term t, Lexeme.weight]

theorem weight_term : (t : Term) → weightOf t.lexemes = 1
  | .factor f => weight_factor f
  | .product t _ o f => by
    simp [Term.lexemes, weightOf_append, weight_term t, weight_factor f, Lexeme.weight]

theorem weight_factor : (f : Factor) → weightOf f.lexemes = 1
  | .number _ _ _ => rfl
  | .group _ negative e _ => by
    cases negative <;> simp [Factor.lexemes, weightOf_append, weight_expr e, Lexeme.weight]

end

/-- Behind an operand and an operator, and behind an opening parenthesis, nothing is too near. -/
theorem Apart.op {ls' : List Lexeme} (h : Apart ls) (h' : Apart ls') (o : BinOp) :
    Apart (ls ++ .op o :: ls') := by
  refine List.isChain_append.2 ⟨h, List.isChain_cons.2 ⟨?_, h'⟩, ?_⟩
  · rintro q - ⟨hq, -⟩
    cases hq
  · rintro q - _ ⟨⟩ ⟨-, hq⟩
    cases hq

theorem Apart.group (h : Apart ls) (negative : Bool) :
    Apart ((if negative then [.negation] else []) ++ .opening :: (ls ++ [.closing])) := by
  have hc : Apart (ls ++ [.closing]) := by
    refine List.isChain_append.2 ⟨h, .singleton _, ?_⟩
    rintro q - _ ⟨⟩ ⟨-, hq⟩
    cases hq
  have ho : Apart (.opening :: (ls ++ [.closing])) := by
    refine List.isChain_cons.2 ⟨?_, hc⟩
    rintro q - ⟨hq, -⟩
    cases hq
  cases negative with
  | false => exact ho
  | true =>
    refine List.isChain_cons.2 ⟨?_, ho⟩
    rintro q - ⟨hq, -⟩
    cases hq

mutual

theorem apart_expr : (e : Expr) → Apart e.lexemes
  | .term t => apart_term t
  | .sum e _ o t => (apart_expr e).op (apart_term t) o.op

theorem apart_term : (t : Term) → Apart t.lexemes
  | .factor f => apart_factor f
  | .product t _ o f => (apart_term t).op (apart_factor f) o.op

theorem apart_factor : (f : Factor) → Apart f.lexemes
  | .number _ _ _ => .singleton _
  | .group _ negative e _ => (apart_expr e).group negative

end

theorem weight_parentheses (h : ∀ l ∈ ls, l.IsParenthesis) : weightOf ls = 0 := by
  induction ls with
  | nil => rfl
  | cons l ls ih =>
    obtain ⟨hl, hls⟩ := List.forall_mem_cons.1 h
    rw [weightOf_cons, ih hls]
    obtain rfl | rfl := hl <;> rfl

/-- In the grammar operands stand apart, and there is more than parentheses, or nothing. -/
theorem InGrammar.apart (h : InGrammar s) :
    Apart (lex s) ∧ ((∀ l ∈ lex s, l.IsParenthesis) → lex s = []) := by
  obtain ⟨k, rfl⟩ | ⟨e, k, rfl⟩ := h
  · rw [lex, lexFrom_blanks]
    exact ⟨.nil, fun _ => rfl⟩
  · rw [e.lex_text]
    refine ⟨apart_expr e, fun hp => ?_⟩
    have hw := weight_expr e
    rw [weight_parentheses hp] at hw
    cases hw

theorem Spaced.inGrammar {v : Float} (h : Spaced s ls) (hc : Counts ls v) (ha : Apart ls)
    (hp : (∀ l ∈ ls, l.IsParenthesis) → ls = []) : InGrammar s := by
  by_cases hls : ls = []
  · subst hls
    cases h with
    | nil k => exact .inl ⟨k, rfl⟩
  · have hw : weightOf ls = 1 := hc.counted.resolve_left fun hz => hls (hp hz.1)
    obtain ⟨e, he⟩ := exists_lexemes h.readable (h.meets ha) hc.opened hc.closed hw
    rw [← he, ← List.append_nil e.lexemes] at h
    obtain ⟨e', r, rfl, hr⟩ := Spaced.expr e h
    cases hr with
    | nil k => exact .inr ⟨e', k, rfl⟩

/-- A text with a value has its counts right, and it is in the grammar unless operands stand side by
side in it or it is made of parentheses alone. -/
theorem evaluate_accepts (s : List Char) : (∃ err, evaluate s = .error err) ∨
    ∃ v, evaluate s = .ok v ∧ Counts (lex s) v ∧
      (InGrammar s ↔ Apart (lex s) ∧ ((∀ l ∈ lex s, l.IsParenthesis) → lex s = [])) := by
  cases h : evaluate s with
  | error err => exact .inl ⟨err, rfl⟩
  | ok v =>
    have hc := counts_of_evaluate h
    refine .inr ⟨v, rfl, hc, InGrammar.apart, fun ⟨ha, hp⟩ => ?_⟩
    exact (spaced_lexFrom 0 true s hc.readable).inGrammar hc ha hp

/-- An operator behind both of its operands, and a group with nothing in it, are accepted. -/
theorem misplaced_accepted :
    ((evaluate "1 2+".toList).isOk = true ∧ ¬ InGrammar "1 2+".toList) ∧
      (evaluate "()".toList).isOk = true ∧ ¬ InGrammar "()".toList := by
  have hsum : lex "1 2+".toList = [.number ['1'], .number ['2'], .op .add] := by decide +kernel
  have hgroup : lex "()".toList = [.opening, .closing] := by decide +kernel
  refine ⟨⟨by decide +kernel, fun h => ?_⟩, by decide +kernel, fun h => ?_⟩
  · have ha := h.apart.1
    rw [hsum] at ha
    simp [Apart, Lexeme.ends, Lexeme.begins] at ha
  · have hp := h.apart.2
    rw [hgroup] at hp
    simp [Lexeme.IsParenthesis] at hp

end CovertVault.Formula
