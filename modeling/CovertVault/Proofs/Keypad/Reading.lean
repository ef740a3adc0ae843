import CovertVault.Proofs.Formula.Evaluation
import CovertVault.Proofs.Keypad.Layout

namespace CovertVault.Formula
open Keypad Number

/-- The minus that negates a group. -/
def signTokens (negative : Bool) : List Token :=
  if negative then [.operand (.literal ['-'])] else []

mutual

def Expr.tokens : Expr → List Token
  | .term t => t.tokens
  | .sum e _ o t => e.tokens ++ .operator o.op :: t.tokens

def Term.tokens : Term → List Token
  | .factor f => f.tokens
  | .product t _ o f => t.tokens ++ .operator o.op :: f.tokens

def Factor.tokens : Factor → List Token
  | .number _ negative n => [.operand (.literal (signText negative ++ n.text))]
  | .group _ negative e _ => signTokens negative ++ .opening :: (e.tokens ++ [.closing])

end

end CovertVault.Formula

namespace CovertVault.Keypad
open Formula Editor Number

/-- An operand as the number that counts. -/
def Token.plain : Token → Token
  | .operand o => .operand (.literal o.value)
  | t => t

def Token.lexeme : Token → Lexeme
  | .operand o => if o.value = ['-'] then .negation else .number o.value
  | .operator o => .op o
  | .opening => .opening
  | .closing => .closing

theorem lexeme_plain (t : Token) : t.plain.lexeme = t.lexeme := by
  cases t <;> rfl

theorem signedNumber_ne_minus {t : List Char} (h : IsSignedNumber t) : t ≠ ['-'] := by
  have hb := result_not_bare (.inl h)
  simpa [Operand.isBareSign] using hb

theorem lexeme_literal {t : List Char} (h : IsSignedNumber t) :
    (Token.operand (.literal t)).lexeme = .number t := by
  have hm : (Operand.literal t).value ≠ ['-'] := signedNumber_ne_minus h
  rw [Token.lexeme, if_neg hm]
  rfl

mutual

theorem lexemes_expr : (e : Expr) → e.lexemes = e.tokens.map Token.lexeme
  | .term t => lexemes_term t
  | .sum e _ o t => by
    simp only [Expr.lexemes, Expr.tokens, List.map_append, List.map_cons, lexemes_expr e,
      lexemes_term t]
    rfl

theorem lexemes_term : (t : Term) → t.lexemes = t.tokens.map Token.lexeme
  | .factor f => lexemes_factor f
  | .product t _ o f => by
    simp only [Term.lexemes, Term.tokens, List.map_append, List.map_cons, lexemes_term t,
      lexemes_factor f]
    rfl

theorem lexemes_factor : (f : Factor) → f.lexemes = f.tokens.map Token.lexeme
  | .number _ negative n => by
    simp only [Factor.lexemes, Factor.tokens, List.map_cons, List.map_nil,
      lexeme_literal (n.isNumber.signed negative)]
  | .group _ negative e _ => by
    simp only [Factor.lexemes, Factor.tokens, List.map_append, List.map_cons, List.map_nil,
      lexemes_expr e]
    cases negative <;> rfl

end

/-- The typed operands are complete numbers, but for signs of groups. -/
def Typed (trail : List Token) : Prop :=
  ∀ t, .operand (.literal t) ∈ trail → t ≠ ['-'] → IsSignedNumber t

theorem Typed.tail {t : Token} {r : List Token} (h : Typed (t :: r)) : Typed r :=
  fun s hs => h s (List.mem_cons_of_mem t hs)

theorem Typed.head {t : Token} {r : List Token} (h : Typed (t :: r)) : Typed [t] :=
  fun s hs => h s (List.mem_singleton.1 hs ▸ .head r)

def Token.isTyped : Token → Bool
  | .operand (.literal t) => t = ['-'] ∨ isLiteral t
  | _ => true

theorem typed_iff {trail : List Token} : Typed trail ↔ ∀ t ∈ trail, t.isTyped = true := by
  constructor
  · intro h t ht
    unfold Token.isTyped
    split
    · next s =>
      rw [decide_eq_true_iff, isLiteral_iff, or_iff_not_imp_left]
      exact h s ht
    · rfl
  · intro h s hs
    have ht := h _ hs
    rwa [Token.isTyped, decide_eq_true_iff, isLiteral_iff, or_iff_not_imp_left] at ht

instance (trail : List Token) : Decidable (Typed trail) := decidable_of_iff' _ typed_iff

/-- A complete operand counts as a number. -/
theorem isSignedNumber_value {o : Operand} {r : List Token} (h : Laid (.operand o :: r))
    (ht : Typed [.operand o]) (hb : o.isBareSign = false) : IsSignedNumber o.value := by
  cases o with
  | literal t => exact ht t (by simp) (by simpa [Operand.isBareSign] using hb)
  | applied fn o c => exact h.sound.isSignedNumber

/-- Whether a minus would be a sign. -/
def Awaited.unary : Awaited → Bool
  | .connective => false
  | _ => true

/-- The text that may go on, so that what was read stays as it was. -/
def Awaited.Admits : Awaited → List Char → Prop
  | .operand, _ => True
  | .group, s => ∃ r, s = '(' :: r
  | .connective, s => NoNumberNext s

theorem opAscii_eq (o : BinOp) : opAscii o = o.ascii := by
  cases o <;> rfl

theorem Token.fits.admits {t : Token} {a : Awaited} (h : t.fits a = true) (s : List Char) :
    a.Admits (t.evaluable ++ s) := by
  cases a with
  | operand => trivial
  | group =>
    cases t with
    | opening => exact ⟨s, rfl⟩
    | operand | operator | closing => cases h
  | connective =>
    cases t with
    | operator o =>
      refine noNumberNext_cons ?_ s
      rw [opAscii_eq]
      cases o <;> decide
    | closing => exact noNumberNext_cons (by decide) s
    | operand | opening => cases h

theorem lexFrom_operand {o : Operand} (h : IsSignedNumber o.value) {s : List Char}
    (hs : NoNumberNext s) (p : Nat) :
    lexFrom p true (o.value ++ s) = .number o.value :: lexFrom (p + o.value.length) false s := by
  obtain h | ⟨t, he, h⟩ := h
  · exact lexFrom_numeral false ⟨o.value, h⟩ hs
  · rw [he]
    exact lexFrom_numeral true ⟨t, h⟩ hs

/-- The next token is cut off right where it ends. -/
theorem lexFrom_token {t : Token} {r : List Token} (h : Laid (t :: r)) (ht : Typed [t])
    {s : List Char} (hs : (awaited (t :: r)).Admits s) (p : Nat) :
    lexFrom p (awaited r).unary (t.evaluable ++ s) =
      t.lexeme :: lexFrom (p + t.evaluable.length) (awaited (t :: r)).unary s := by
  cases t with
  | operand o =>
    rw [h.awaited_operand]
    by_cases hb : o.isBareSign = true
    · obtain rfl := eq_minus_of_bare hb
      obtain ⟨s, rfl⟩ := hs
      exact lexFrom_negation
    · have hb : o.isBareSign = false := by simpa using hb
      have hv := isSignedNumber_value h ht hb
      rw [awaited_operand_of_not_bare hb] at hs ⊢
      rw [Token.lexeme, if_neg (signedNumber_ne_minus hv)]
      exact lexFrom_operand hv hs p
  | operator o =>
    rw [h.awaited_operator, Token.evaluable, opAscii_eq]
    exact lexFrom_op o
  | opening => exact lexFrom_opening
  | closing => exact lexFrom_closing

/-- The text of laid tokens is cut where they meet, whatever stands before them. -/
theorem lexFrom_render {newer older : List Token} (h : Laid (newer ++ older)) (ht : Typed newer)
    {s : List Char} (hs : (awaited (newer ++ older)).Admits s) (p : Nat) :
    lexFrom p (awaited older).unary (render Token.evaluable newer.reverse ++ s) =
      newer.reverse.map Token.lexeme ++
        lexFrom (p + (render Token.evaluable newer.reverse).length)
          (awaited (newer ++ older)).unary s := by
  -- From the newest token on: what follows a token must not prolong it.
  induction newer generalizing s with
  | nil => rfl
  | cons t r ih =>
    have hr (q : List Token) : render Token.evaluable (q ++ [t]) =
        render Token.evaluable q ++ t.evaluable := by simp [render]
    have ha := Token.fits.admits h.1 s
    rw [List.reverse_cons, hr, List.append_assoc, ih h.tail ht.tail ha]
    rw [List.cons_append] at h hs ⊢
    rw [lexFrom_token h ht.head hs, List.map_append, List.append_assoc, List.length_append,
      Nat.add_assoc]
    rfl

/-- A sum or a product whose right side is to come. -/
structure Place where
  sum : Option (Expr × SumOp)
  product : Option (Term × ProductOp)

def sumTokens : Option (Expr × SumOp) → List Token
  | none => []
  | some (e, o) => e.tokens ++ [.operator o.op]

def Place.tokens (p : Place) : List Token :=
  sumTokens p.sum ++ match p.product with
    | none => []
    | some (t, o) => t.tokens ++ [.operator o.op]

/-- The term that a factor completes. -/
def Place.term (p : Place) (f : Factor) : Term :=
  match p.product with
  | none => .factor f
  | some (t, o) => .product t 0 o f

/-- The sum that a term completes. -/
def sumExpr (sum : Option (Expr × SumOp)) (t : Term) : Expr :=
  match sum with
  | none => .term t
  | some (e, o) => .sum e 0 o t

/-- A part of a sentence, read from its start: inside open groups, innermost first, each with what
stands before it and whether it is negated. -/
inductive Partial where
  | before (groups : List (Place × Bool)) (p : Place)
  | signed (groups : List (Place × Bool)) (p : Place)
  | behind (groups : List (Place × Bool)) (sum : Option (Expr × SumOp)) (t : Term)

def groupTokens : List (Place × Bool) → List Token
  | [] => []
  | (p, negative) :: gs => groupTokens gs ++ (p.tokens ++ (signTokens negative ++ [.opening]))

namespace Partial

def tokens : Partial → List Token
  | before gs p => groupTokens gs ++ p.tokens
  | signed gs p => groupTokens gs ++ (p.tokens ++ signTokens true)
  | behind gs sum t => groupTokens gs ++ (sumTokens sum ++ t.tokens)

def groups : Partial → List (Place × Bool)
  | before gs _ | signed gs _ | behind gs _ _ => gs

def awaited : Partial → Awaited
  | before .. => .operand
  | signed .. => .group
  | behind .. => .connective

end Partial

theorem sumTokens_term (p : Place) (f : Factor) :
    sumTokens p.sum ++ (p.term f).tokens = p.tokens ++ f.tokens := by
  obtain ⟨sum, product⟩ := p
  cases product with
  | none => simp [Place.tokens, Place.term, Term.tokens]
  | some q => simp [Place.tokens, Place.term, Term.tokens]

theorem sumExpr_tokens (sum : Option (Expr × SumOp)) (t : Term) :
    (sumExpr sum t).tokens = sumTokens sum ++ t.tokens := by
  cases sum <;> simp [sumExpr, sumTokens, Expr.tokens]

/-- The tokens read as a part of a sentence. -/
def Reads (trail : List Token) (q : Partial) : Prop :=
  q.tokens = trail.reverse.map Token.plain ∧ q.awaited = awaited trail ∧
    (q.groups.length : Int) = depthOf trail

theorem Reads.cons {r : List Token} {q q' : Partial} (h : Reads r q) {t : Token}
    (ht : q'.tokens = q.tokens ++ [t.plain]) (ha : q'.awaited = awaited (t :: r))
    (hd : (q'.groups.length : Int) = t.depth + q.groups.length) : Reads (t :: r) q' := by
  refine ⟨?_, ha, ?_⟩
  · rw [ht, h.1, List.reverse_cons, List.map_append, List.map_cons, List.map_nil]
  · rw [hd, h.2.2, depthOf_cons]

theorem reads_operand {o : Operand} {r : List Token} {q : Partial} (h : Reads r q)
    (hl : Laid (.operand o :: r)) (ht : Typed (.operand o :: r)) :
    ∃ q', Reads (.operand o :: r) q' := by
  have ha := h.2.1
  rw [hl.awaited_operand] at ha
  cases q with
  | signed | behind => cases ha
  | before gs p =>
    by_cases hb : o.isBareSign = true
    · obtain rfl := eq_minus_of_bare hb
      refine ⟨.signed gs p, h.cons ?_ rfl ?_⟩
      · simp only [Partial.tokens, List.append_assoc]
        rfl
      · simp [Partial.groups, Token.depth]
    · have hb : o.isBareSign = false := by simpa using hb
      obtain ⟨negative, n, hv⟩ :
          ∃ negative, ∃ n : Numeral, o.value = signText negative ++ n.text := by
        obtain hn | ⟨s, he, hn⟩ := isSignedNumber_value hl ht.head hb
        · exact ⟨false, ⟨o.value, hn⟩, rfl⟩
        · exact ⟨true, ⟨s, hn⟩, he⟩
      refine ⟨.behind gs p.sum (p.term (.number 0 negative n)), h.cons ?_ ?_ ?_⟩
      · simp only [Partial.tokens, sumTokens_term, Factor.tokens, List.append_assoc, Token.plain,
          hv]
      · rw [awaited_operand_of_not_bare hb]
        rfl
      · simp [Partial.groups, Token.depth]

theorem reads_operator {o : BinOp} {r : List Token} {q : Partial} (h : Reads r q)
    (hl : Laid (.operator o :: r)) : ∃ q', Reads (.operator o :: r) q' := by
  have ha := h.2.1
  have hf := hl.1
  cases q with
  | before | signed =>
    rw [← ha] at hf
    cases hf
  | behind gs sum t =>
    -- A sum takes all that was read in the group as its left side, a product only the last term.
    have hsum (so : SumOp) (hs : so.op = o) : ∃ q', Reads (.operator o :: r) q' := by
      refine ⟨.before gs ⟨some (sumExpr sum t, so), none⟩, h.cons ?_ rfl ?_⟩
      · simp [Partial.tokens, Place.tokens, sumTokens, sumExpr_tokens, Token.plain, hs]
      · simp [Partial.groups, Token.depth]
    have hproduct (po : ProductOp) (hp : po.op = o) : ∃ q', Reads (.operator o :: r) q' := by
      refine ⟨.before gs ⟨sum, some (t, po)⟩, h.cons ?_ rfl ?_⟩
      · simp [Partial.tokens, Place.tokens, Token.plain, hp]
      · simp [Partial.groups, Token.depth]
    cases o with
    | add => exact hsum .plus rfl
    | sub => exact hsum .minus rfl
    | mul => exact hproduct .times rfl
    | div => exact hproduct .over rfl

theorem reads_opening {r : List Token} {q : Partial} (h : Reads r q) (hl : Laid (.opening :: r)) :
    ∃ q', Reads (.opening :: r) q' := by
  have hf := hl.1
  cases q with
  | behind =>
    rw [← h.2.1] at hf
    cases hf
  | before gs p =>
    refine ⟨.before ((p, false) :: gs) ⟨none, none⟩, h.cons ?_ rfl ?_⟩
    · simp [Partial.tokens, groupTokens, Place.tokens, sumTokens, signTokens, Token.plain]
    · simp [Partial.groups, Token.depth, Int.add_comm]
  | signed gs p =>
    refine ⟨.before ((p, true) :: gs) ⟨none, none⟩, h.cons ?_ rfl ?_⟩
    · simp [Partial.tokens, groupTokens, Place.tokens, sumTokens, Token.plain]
    · simp [Partial.groups, Token.depth, Int.add_comm]

theorem reads_closing {r : List Token} {q : Partial} (h : Reads r q) (hl : Laid (.closing :: r)) :
    ∃ q', Reads (.closing :: r) q' := by
  have hf := hl.1
  cases q with
  | before | signed =>
    rw [← h.2.1] at hf
    cases hf
  | behind gs sum t =>
    have hd := hl.depth_nonneg
    have hg := h.2.2
    cases gs with
    | nil =>
      rw [depthOf_cons, ← hg] at hd
      simp [Partial.groups, Token.depth] at hd
    | cons g gs =>
      obtain ⟨p, negative⟩ := g
      refine ⟨.behind gs p.sum (p.term (.group 0 negative (sumExpr sum t) 0)), h.cons ?_ rfl ?_⟩
      · simp [Partial.tokens, groupTokens, sumTokens_term, Factor.tokens, sumExpr_tokens,
          Token.plain]
      · show (gs.length : Int) = Token.closing.depth + (gs.length + 1 : Nat)
        rw [Token.depth]
        omega

/-- Laid tokens read as a part of a sentence. -/
theorem exists_reads {trail : List Token} (h : Laid trail) (ht : Typed trail) :
    ∃ q, Reads trail q := by
  -- From the oldest token on: each one is fitted into the part of a sentence read so far.
  induction trail with
  | nil => exact ⟨.before [] ⟨none, none⟩, rfl, rfl, rfl⟩
  | cons t r ih =>
    obtain ⟨q, hq⟩ := ih h.tail ht.tail
    cases t with
    | operand o => exact reads_operand hq h ht
    | operator o => exact reads_operator hq h
    | opening => exact reads_opening hq h
    | closing => exact reads_closing hq h

/-- Complete tokens with all groups closed read as a sentence. -/
theorem exists_sentence {trail : List Token} (h : Laid trail) (ht : Typed trail)
    (ha : awaited trail = .connective) (hd : depthOf trail = 0) :
    ∃ e : Expr, e.tokens = trail.reverse.map Token.plain := by
  obtain ⟨q, hq⟩ := exists_reads h ht
  obtain ⟨hr, hw, hg⟩ := hq
  rw [ha] at hw
  cases q with
  | before | signed => cases hw
  | behind gs sum t =>
    obtain rfl : gs = [] := by
      rw [hd] at hg
      simpa [Partial.groups] using hg
    refine ⟨sumExpr sum t, ?_⟩
    rw [← hr, sumExpr_tokens]
    rfl

theorem Laid.close {trail : List Token} (h : Laid trail) (ha : awaited trail = .connective)
    {n : Nat} (hn : (n : Int) ≤ depthOf trail) :
    Laid (List.replicate n .closing ++ trail) ∧
      awaited (List.replicate n .closing ++ trail) = .connective ∧
        depthOf (List.replicate n .closing ++ trail) = depthOf trail - n := by
  induction n with
  | zero => exact ⟨h, ha, by simp⟩
  | succ n ih =>
    obtain ⟨hl, hw, hd⟩ := ih (by omega)
    refine ⟨hl.closing hw (by omega), rfl, ?_⟩
    rw [List.replicate_succ, List.cons_append, depthOf_cons, hd]
    simp [Token.depth]
    omega

end CovertVault.Keypad
