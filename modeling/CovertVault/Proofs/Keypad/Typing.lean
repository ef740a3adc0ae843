import CovertVault.Proofs.Formula.LiteralValue
import CovertVault.Proofs.Keypad.Reading

namespace CovertVault.Formula
open Number Text

variable {s ds fs : List Char}

/-- Written with ASCII digits and points alone. -/
def Plain (s : List Char) : Prop := ∀ c ∈ s, isAsciiDigit c = true ∨ c = '.'

instance (s : List Char) : Decidable (Plain s) :=
  List.decidableBAll _ s

theorem isSignificand_of_plain (h : IsNumber s) (hp : Plain s) : IsSignificand s := by
  obtain ⟨t, x, ht, hx, rfl⟩ := h
  cases hx with
  | absent => rwa [List.append_nil]
  | present hm _ _ =>
    -- The mark of an exponent is neither a digit nor a point.
    have hc := hp _ (List.mem_append_right t List.mem_cons_self)
    obtain rfl | rfl := hm <;> exact absurd hc (by decide)

mutual

/-- No blanks and no exponents, and no minus as a sign but at the start, of the whole or of a
group; `start` says whether the phrase stands there. -/
def Expr.Typable (start : Bool) : Expr → Prop
  | .term t => t.Typable start
  | .sum e blanks _ t => e.Typable start ∧ blanks = 0 ∧ t.Typable false

def Term.Typable (start : Bool) : Term → Prop
  | .factor f => f.Typable start
  | .product t blanks _ f => t.Typable start ∧ blanks = 0 ∧ f.Typable false

def Factor.Typable (start : Bool) : Factor → Prop
  | .number blanks negative n => blanks = 0 ∧ (negative = true → start = true) ∧ Plain n.text
  | .group blanks negative e behind =>
    blanks = 0 ∧ (negative = true → start = true) ∧ e.Typable true ∧ behind = 0

end

end CovertVault.Formula

namespace CovertVault.Keypad
open Formula Editor Number Text

variable {s t ds fs : List Char}

/-- A character behind what is typed of a number: it takes the place of a lone zero, and a leading
point gets a zero before it. -/
def typeChar (t : List Char) (c : Char) : List Char :=
  if c = '.' then if t = [] then ['0', '.'] else t ++ ['.']
  else if t = ['0'] then [c] else t ++ [c]

def typedNumber (s : List Char) : List Char := s.foldl typeChar []

theorem digit_ne_point {c : Char} (h : isAsciiDigit c = true) : c ≠ '.' := by
  rintro rfl
  cases h

theorem typedNumber_snoc (s : List Char) (c : Char) :
    typedNumber (s ++ [c]) = typeChar (typedNumber s) c := by
  rw [typedNumber, List.foldl_append]
  rfl

/-- Digits typed are digits of the same value. -/
theorem typedNumber_digits (hd : ∀ c ∈ ds, isAsciiDigit c = true) :
    (∀ c ∈ typedNumber ds, isDecimal c = true) ∧ (ds ≠ [] → typedNumber ds ≠ []) ∧
      decimalValue (typedNumber ds) = decimalValue ds := by
  induction ds using List.reverseRecOn with
  | nil => exact ⟨by simp [typedNumber], fun h => h, rfl⟩
  | append_singleton ds d ih =>
    obtain ⟨hi, -, hv⟩ := ih fun c hc => hd c (List.mem_append_left _ hc)
    have hdd : isAsciiDigit d = true := hd d (by simp)
    rw [typedNumber_snoc, typeChar, if_neg (digit_ne_point hdd), decimalValue_append ds, ← hv]
    split
    · next hz =>
      rw [hz]
      exact ⟨by simpa using isDecimal_ascii hdd, by simp, rfl⟩
    · refine ⟨fun c hc => ?_, by simp, decimalValue_append _ _⟩
      obtain hc | hc := List.mem_append.1 hc
      · exact hi c hc
      · rw [List.mem_singleton.1 hc]
        exact isDecimal_ascii hdd

/-- Behind a point digits are only put one after another. -/
theorem foldl_typeChar_behind (hp : '.' ∈ t) (hf : ∀ c ∈ fs, c ≠ '.') :
    fs.foldl typeChar t = t ++ fs := by
  induction fs generalizing t with
  | nil => simp
  | cons c fs ih =>
    have ht : t ≠ ['0'] := by
      rintro rfl
      simp at hp
    obtain ⟨hc, hf⟩ := List.forall_mem_cons.1 hf
    rw [List.foldl_cons, typeChar, if_neg hc, if_neg ht,
      ih (List.mem_append_left _ hp) hf, List.append_assoc]
    rfl

theorem typedNumber_pointed (hf : ∀ c ∈ fs, c ≠ '.') :
    typedNumber (ds ++ '.' :: fs) = typeChar (typedNumber ds) '.' ++ fs := by
  rw [typedNumber, List.foldl_append, List.foldl_cons]
  refine foldl_typeChar_behind ?_ hf
  unfold typeChar
  split
  · split <;> simp
  · contradiction

/-- A typed number is a number again, and it has the value of the one that was meant. -/
theorem typedNumber_spec (h : IsNumber s) (hp : Plain s) : IsNumber (typedNumber s) ∧
    ∀ negative, literalDecimal (signText negative ++ typedNumber s) =
      literalDecimal (signText negative ++ s) := by
  have hdot {fs : List Char} (hf : ∀ c ∈ fs, isDecimal c = true) : ∀ c ∈ fs, c ≠ '.' := by
    rintro c hc rfl
    have := hf _ hc
    revert this
    decide
  have hascii {ds : List Char} (hd : ∀ c ∈ ds, isDecimal c = true) (hs : Plain ds) :
      ∀ c ∈ ds, isAsciiDigit c = true := fun c hc => (hs c hc).resolve_right (hdot hd c hc)
  suffices hx : ∃ u, typedNumber s = u ∧ IsNumber u ∧
      ∀ negative, unsignedValue negative u = unsignedValue negative s by
    obtain ⟨u, rfl, hu, hv⟩ := hx
    refine ⟨hu, fun negative => ?_⟩
    rw [literalDecimal_signed negative hu, literalDecimal_signed negative h, hv]
  cases isSignificand_of_plain h hp with
  | whole hd =>
    obtain ⟨hi, hn, hv⟩ := typedNumber_digits (hascii hd.2 hp)
    refine ⟨_, rfl, (IsSignificand.whole ⟨hn hd.1, hi⟩).isNumber, fun negative => ?_⟩
    rw [unsignedValue_whole negative hi, unsignedValue_whole negative hd.2, hv]
  | @pointed ds fs hd hf =>
    obtain ⟨hi, hn, hv⟩ := typedNumber_digits
      (hascii hd.2 fun c hc => hp c (List.mem_append_left _ hc))
    refine ⟨typedNumber ds ++ '.' :: fs, ?_, (IsSignificand.pointed ⟨hn hd.1, hi⟩ hf).isNumber,
      fun negative => ?_⟩
    · rw [typedNumber_pointed (hdot hf), typeChar, if_pos rfl, if_neg (hn hd.1), List.append_assoc]
      rfl
    · rw [unsignedValue_pointed negative hi hf, unsignedValue_pointed negative hd.2 hf,
        decimalValue_append, hv, ← decimalValue_append]
  | @fraction fs hf =>
    have hz : ∀ c ∈ ['0'], isDecimal c = true := List.all_eq_true.1 (by decide)
    refine ⟨['0'] ++ '.' :: fs, @typedNumber_pointed [] fs (hdot hf.2),
      (IsSignificand.pointed ⟨by simp, hz⟩ hf.2).isNumber, fun negative => ?_⟩
    rw [unsignedValue_pointed negative hz hf.2, ← List.nil_append ('.' :: fs),
      unsignedValue_pointed negative (by simp) hf.2]
    rfl

/-- The key that a character of a sentence stands on. -/
def keyOf (c : Char) : Key :=
  if c = '.' then .dot
  else if c = '(' then .openParen
  else if c = ')' then .closeParen
  else if isAsciiDigit c then .digit [c]
  else .operator [c]

theorem keyOf_digit {c : Char} (h : isAsciiDigit c = true) : keyOf c = .digit [c] := by
  have hp : c ≠ '(' ∧ c ≠ ')' := by
    constructor <;> (rintro rfl; cases h)
  unfold keyOf
  rw [if_neg (digit_ne_point h), if_neg hp.1, if_neg hp.2, if_pos h]

theorem keyOf_ascii (o : BinOp) : keyOf o.ascii = .operator [o.ascii] := by
  cases o <;> decide

theorem operatorKey?_ascii (o : BinOp) : operatorKey? [o.ascii] = some o := by
  cases o <;> decide

namespace Editor

/-- The editor after the characters of a text are typed. -/
def type (text : List Char) (ed : Editor) : Editor :=
  (text.map keyOf).foldl (fun ed k => (ed.press k).2) ed

@[simp] theorem type_nil (ed : Editor) : ed.type [] = ed := rfl

theorem type_cons (c : Char) (text : List Char) (ed : Editor) :
    ed.type (c :: text) = (ed.press (keyOf c)).2.type text := rfl

theorem type_append (a b : List Char) (ed : Editor) : ed.type (a ++ b) = (ed.type a).type b := by
  simp [type]

variable {ed : Editor} {r : List Token}

theorem press_digit {c : Char} (hc : isAsciiDigit c = true) (h : ed.afterEquals = false) :
    (ed.press (keyOf c)).2 = (ed.putDigit c).2 := by
  rw [keyOf_digit hc]
  simp only [press, press?, digit, digitKey?, hc, if_true, leaveEquals_of_editing h, Except.map]

theorem press_operator (o : BinOp) (h : ed.afterEquals = false) :
    (ed.press (keyOf o.ascii)).2 = (ed.putOperator o).2 := by
  rw [keyOf_ascii]
  simp only [press, press?, operator, operatorKey?_ascii, leaveEquals_of_editing h, Except.map]

/-- What stands last where an operator may follow. -/
theorem awaited_connective (h : awaited r = .connective) :
    (∃ o r', r = .operand o :: r' ∧ o.isBareSign = false) ∨ ∃ r', r = .closing :: r' := by
  rcases r with _ | ⟨o | _ | _ | _, r⟩
  case cons.operand =>
    refine .inl ⟨o, r, rfl, ?_⟩
    by_contra hb
    simp [awaited, hb] at h
  case cons.closing => exact .inr ⟨r, rfl⟩
  all_goals cases h

/-- Where an operand is awaited none stands last. -/
theorem ne_operand_of_awaited (h : awaited r = .operand) (o : Operand) (r' : List Token) :
    r ≠ .operand o :: r' := by
  rintro rfl
  rw [awaited] at h
  split at h <;> cases h

theorem impliedProduct_of_awaited (h : awaited r = .operand) : impliedProduct r = r := by
  unfold impliedProduct
  split
  · cases h
  · cases h
  · rfl

/-- Behind a complete operand an operator is put. -/
theorem putOperator_of_awaited (h : awaited ed.trail = .connective) (o : BinOp) :
    (ed.putOperator o).2 = ed.withTrail (.operator o :: ed.trail) := by
  unfold putOperator
  obtain ⟨x, r, ht, hb⟩ | ⟨r, ht⟩ := awaited_connective h
  · simp [ht, hb]
  · simp [ht]

theorem begin_of_awaited (h : awaited ed.trail = .operand) (text : List Char) :
    ed.begin text = ed.withTrail (.operand (.literal text) :: ed.trail) := by
  rw [begin, impliedProduct_of_awaited h]

theorem putDigit_of_awaited (h : awaited ed.trail = .operand) (d : Char) :
    (ed.putDigit d).2 = ed.withTrail (.operand (.literal [d]) :: ed.trail) := by
  rw [← begin_of_awaited h]
  unfold putDigit
  split
  · next ht => exact absurd ht (ne_operand_of_awaited h _ _)
  · rfl

theorem putDigit_of_literal {t : List Char} (h : ed.trail = .operand (.literal t) :: r) (d : Char) :
    (ed.putDigit d).2 = ed.withTrail
      (.operand (.literal (if isLoneZero t then t.dropLast ++ [d] else t ++ [d])) :: r) := by
  have hw : ed.withTrail (.operand (.literal t) :: r) = ed := by rw [← h, withTrail]
  unfold putDigit
  rw [h]
  dsimp only
  cases hz : isLoneZero t with
  | false => simp
  | true =>
    by_cases hd : d = '0'
    · -- A zero behind a lone zero is the lone zero again.
      have ht : t.dropLast ++ ['0'] = t := by
        have hz : t = ['0'] ∨ t = ['-', '0'] := by simpa [isLoneZero] using hz
        obtain rfl | rfl := hz <;> rfl
      simp [hd, ht, hw]
    · simp [hd]

theorem dot_of_awaited (he : ed.afterEquals = false) (h : awaited ed.trail = .operand) :
    ed.dot.2 = ed.withTrail (.operand (.literal ['0', '.']) :: ed.trail) := by
  rw [← begin_of_awaited h]
  unfold dot
  dsimp only
  rw [leaveEquals_of_editing he]
  split
  · next ht => exact absurd ht (ne_operand_of_awaited h _ _)
  · rfl

theorem dot_of_literal (he : ed.afterEquals = false) {t : List Char}
    (h : ed.trail = .operand (.literal t) :: r) (ht : '.' ∉ t) :
    ed.dot.2 = ed.withTrail
      (.operand (.literal (t ++ if t = ['-'] then ['0', '.'] else ['.'])) :: r) := by
  unfold dot
  dsimp only
  rw [leaveEquals_of_editing he, h]
  dsimp only
  rw [if_neg (by simpa using ht)]

/-- The trail with what is typed of a number, perhaps a sign alone or nothing yet. -/
def numberTrail (negative : Bool) (t : List Char) (r : List Token) : List Token :=
  if signText negative ++ t = [] then r else .operand (.literal (signText negative ++ t)) :: r

theorem isLoneZero_signed (negative : Bool) {t : List Char} (hp : Plain t) :
    isLoneZero (signText negative ++ t) = decide (t = ['0']) := by
  cases negative with
  | true => simp [isLoneZero, signText]
  | false =>
    have hm : t ≠ ['-', '0'] := by
      rintro rfl
      exact absurd (hp '-' (by simp)) (by decide)
    simp [isLoneZero, signText, hm]

theorem plain_typeChar {t : List Char} {c : Char} (ht : Plain t)
    (hc : isAsciiDigit c = true ∨ c = '.') : Plain (typeChar t c) := by
  have hc' : Plain [c] := List.forall_mem_singleton.2 hc
  unfold typeChar
  split
  · next hp =>
    subst hp
    split
    · decide
    · exact List.forall_mem_append.2 ⟨ht, hc'⟩
  · split
    · exact hc'
    · exact List.forall_mem_append.2 ⟨ht, hc'⟩

theorem numberTrail_typeChar (negative : Bool) (t : List Char) (c : Char) (r : List Token) :
    numberTrail negative (typeChar t c) r =
      .operand (.literal (signText negative ++ typeChar t c)) :: r := by
  have hn : typeChar t c ≠ [] := by
    unfold typeChar
    split <;> split <;> simp
  unfold numberTrail
  rw [if_neg (by simp [hn])]

/-- One more character of a number. -/
theorem press_number {negative : Bool} {t : List Char} {c : Char} (h : ed.afterEquals = false)
    (hr : awaited r = .operand) (ht : Plain t)
    (hc : isAsciiDigit c = true ∨ c = '.' ∧ '.' ∉ t) :
    ((ed.withTrail (numberTrail negative t r)).press (keyOf c)).2 =
      ed.withTrail (numberTrail negative (typeChar t c) r) := by
  have he : (ed.withTrail (numberTrail negative t r)).afterEquals = false := h
  rw [numberTrail_typeChar]
  by_cases hn : signText negative ++ t = []
  · -- Nothing stands there yet: the character begins the operand.
    have htr : numberTrail negative t r = r := if_pos hn
    obtain ⟨hs, rfl⟩ := List.append_eq_nil_iff.1 hn
    rw [htr] at he ⊢
    rw [hs]
    obtain hd | ⟨rfl, -⟩ := hc
    · rw [press_digit hd he, putDigit_of_awaited hr, typeChar, if_neg (digit_ne_point hd)]
      rfl
    · exact dot_of_awaited he hr
  · have htr : (ed.withTrail (numberTrail negative t r)).trail =
        .operand (.literal (signText negative ++ t)) :: r := if_neg hn
    obtain hd | ⟨rfl, hp⟩ := hc
    · rw [press_digit hd he, putDigit_of_literal htr, isLoneZero_signed negative ht, typeChar,
        if_neg (digit_ne_point hd)]
      by_cases hz : t = ['0']
      · subst hz
        cases negative <;> rfl
      · simp [hz, withTrail]
    · have hp' : '.' ∉ signText negative ++ t := by
        cases negative <;> simp [signText, hp]
      have hpoint : signText negative ++ t ++
          (if signText negative ++ t = ['-'] then ['0', '.'] else ['.']) =
            signText negative ++ typeChar t '.' := by
        by_cases ht' : t = []
        · -- A sign alone gets the zero as well.
          subst ht'
          cases negative with
          | true => rfl
          | false => exact absurd rfl hn
        · have hs : signText negative ++ t ≠ ['-'] := by
            cases negative with
            | true => simpa [signText] using ht'
            | false =>
              rintro rfl
              exact absurd (ht '-' (by simp)) (by decide)
          rw [if_neg hs, typeChar, if_pos rfl, if_neg ht', List.append_assoc]
      refine (dot_of_literal he htr hp').trans ?_
      rw [hpoint]
      rfl

theorem type_number (negative : Bool) {s t : List Char} (h : ed.afterEquals = false)
    (hr : awaited r = .operand) (ht : Plain t) (hs : Plain s) (hc : s.count '.' ≤ 1)
    (hp : '.' ∈ s → '.' ∉ t) :
    (ed.withTrail (numberTrail negative t r)).type s =
      ed.withTrail (numberTrail negative (s.foldl typeChar t) r) := by
  induction s generalizing t with
  | nil => rfl
  | cons c s ih =>
    obtain ⟨hcc, hs⟩ := List.forall_mem_cons.1 hs
    have hc' : isAsciiDigit c = true ∨ c = '.' ∧ '.' ∉ t :=
      hcc.imp_right fun he => ⟨he, hp (he ▸ List.mem_cons_self)⟩
    rw [List.count_cons] at hc
    rw [type_cons, press_number h hr ht hc', List.foldl_cons]
    refine ih (plain_typeChar ht hcc) hs (by omega) fun hm => ?_
    -- The only point is still to come, so this was a digit.
    have hpos := List.count_pos_iff.2 hm
    have hcn : c ≠ '.' := by
      rintro rfl
      simp at hc
      omega
    have hpt := hp (List.mem_cons_of_mem _ hm)
    rw [typeChar, if_neg hcn]
    split
    · simpa using Ne.symm hcn
    · simpa [hpt] using Ne.symm hcn

/-- An operand may be put; a minus is its sign where an expression or a group starts. -/
structure Awaits (start : Bool) (ed : Editor) : Prop where
  editing : ed.afterEquals = false
  operand : awaited ed.trail = .operand
  depth : 0 ≤ depthOf ed.trail
  start : start = true → ed.trail = [] ∨ ∃ r, ed.trail = .opening :: r

/-- Typing the text puts the tokens, whatever stands before them. -/
def Types (text : List Char) (start : Bool) (tokens : List Token) : Prop :=
  ∀ ed : Editor, Awaits start ed → ed.type text = ed.withTrail (tokens.reverse ++ ed.trail)

/-- Tokens that an operator or the end may follow, with all their groups closed. -/
structure Complete (tokens : List Token) : Prop where
  connective : ∀ r, awaited (tokens.reverse ++ r) = .connective
  depth : ∀ r, depthOf (tokens.reverse ++ r) = depthOf r

variable {a b : List Char} {A B : List Token} {start : Bool}

theorem Complete.op (ha : Complete A) (hb : Complete B) (o : BinOp) :
    Complete (A ++ .operator o :: B) := by
  have hr (r : List Token) : (A ++ .operator o :: B).reverse ++ r =
      B.reverse ++ (.operator o :: (A.reverse ++ r)) := by simp
  constructor
  · intro r
    rw [hr, hb.connective]
  · intro r
    rw [hr, hb.depth, depthOf_cons, ha.depth]
    simp [Token.depth]

theorem depthOf_signTokens (negative : Bool) (r : List Token) :
    depthOf ((signTokens negative).reverse ++ r) = depthOf r := by
  cases negative with
  | false => rfl
  | true => simp [signTokens, Token.depth]

theorem Complete.group (ha : Complete A) (negative : Bool) :
    Complete (signTokens negative ++ .opening :: (A ++ [.closing])) := by
  have hr (r : List Token) :
      (signTokens negative ++ Token.opening :: (A ++ [Token.closing])).reverse ++ r =
        .closing :: (A.reverse ++ .opening :: ((signTokens negative).reverse ++ r)) := by simp
  constructor
  · intro r
    rw [hr]
    rfl
  · intro r
    rw [hr, depthOf_cons, ha.depth, depthOf_cons, depthOf_signTokens]
    simp only [Token.depth]
    omega

/-- An operator and a right side behind a left side. -/
theorem Types.op (ha : Types a start A) (hA : Complete A) (hb : Types b false B) (o : BinOp) :
    Types (a ++ o.ascii :: b) start (A ++ .operator o :: B) := by
  intro ed h
  have he : (ed.withTrail (A.reverse ++ ed.trail)).afterEquals = false := h.editing
  have hc : awaited (ed.withTrail (A.reverse ++ ed.trail)).trail = .connective := hA.connective _
  rw [type_append, ha ed h, type_cons, press_operator o he, putOperator_of_awaited hc, hb]
  · simp [withTrail]
  · refine ⟨h.editing, rfl, ?_, by simp⟩
    show 0 ≤ depthOf (.operator o :: (A.reverse ++ ed.trail))
    rw [depthOf_cons, hA.depth]
    simpa [Token.depth] using h.depth

/-- What a sign leaves where it may stand. -/
theorem press_minus (h : Awaits true ed) : (ed.press (keyOf '-')).2 =
    ed.withTrail (.operand (.literal ['-']) :: ed.trail) := by
  refine (press_operator .sub h.editing).trans ?_
  unfold putOperator
  obtain ht | ⟨r, ht⟩ := h.start rfl
  · rw [ht]
    simp
  · rw [ht]
    simp

theorem type_sign (negative : Bool) (h : Awaits start ed) (hn : negative = true → start = true) :
    ed.type (signText negative) = ed.withTrail ((signTokens negative).reverse ++ ed.trail) := by
  cases negative with
  | false => rfl
  | true =>
    obtain rfl := hn rfl
    exact press_minus h

theorem types_number (negative : Bool) (hn : negative = true → start = true) {s : List Char}
    (hs : IsNumber s) (hp : Plain s) : Types (signText negative ++ s) start
      [.operand (.literal (signText negative ++ typedNumber s))] := by
  intro ed h
  have ht : (signTokens negative).reverse ++ ed.trail = numberTrail negative [] ed.trail := by
    cases negative <;> rfl
  have hne : signText negative ++ s.foldl typeChar [] ≠ [] := by
    obtain ⟨c, r, he, -⟩ := (typedNumber_spec hs hp).1.head
    rw [show s.foldl typeChar [] = c :: r from he]
    simp
  rw [type_append, type_sign negative h hn, ht, type_number negative h.editing h.operand (by decide)
    hp hs.count_point (by simp), numberTrail, if_neg hne]
  rfl

theorem press_opening (he : ed.afterEquals = false) (h : awaited ed.trail ≠ .connective) :
    (ed.press (keyOf '(')).2 = ed.withTrail (.opening :: ed.trail) := by
  show ed.openParen = _
  unfold openParen
  dsimp only
  rw [leaveEquals_of_editing he]
  split
  · next ht =>
    split
    · rfl
    · next hb => exact absurd (ht ▸ awaited_operand_of_not_bare (by simpa using hb)) h
  · next ht => exact absurd (ht ▸ rfl) h
  · rfl

theorem press_closing (he : ed.afterEquals = false) (h : awaited ed.trail = .connective)
    (hd : 0 < depthOf ed.trail) :
    (ed.press (keyOf ')')).2 = ed.withTrail (.closing :: ed.trail) := by
  show ed.closeParen.2 = _
  unfold closeParen
  rw [if_neg (by simpa [he, openCount] using hd)]
  obtain ⟨x, r, ht, hb⟩ | ⟨r, ht⟩ := awaited_connective h
  · simp [ht, hb]
  · simp [ht]

/-- A group, perhaps behind its sign. -/
theorem types_group (negative : Bool) (hn : negative = true → start = true)
    (ha : Types a true A) (hA : Complete A) :
    Types (signText negative ++ '(' :: (a ++ [')'])) start
      (signTokens negative ++ .opening :: (A ++ [.closing])) := by
  intro ed h
  have hs : awaited ((signTokens negative).reverse ++ ed.trail) ≠ .connective := by
    cases negative with
    | false => exact h.operand ▸ by simp
    | true => simp [signTokens, awaited, Operand.isBareSign]
  have hd := depthOf_signTokens negative ed.trail
  have hpos := h.depth
  generalize hr : (signTokens negative).reverse ++ ed.trail = r at hs hd
  have hgroup : Awaits true (ed.withTrail (.opening :: r)) :=
    ⟨h.editing, rfl, by simp [withTrail, Token.depth]; omega, fun _ => .inr ⟨r, rfl⟩⟩
  have he : (ed.withTrail (A.reverse ++ .opening :: r)).afterEquals = false := h.editing
  have hclose : 0 < depthOf (ed.withTrail (A.reverse ++ .opening :: r)).trail := by
    show 0 < depthOf (A.reverse ++ .opening :: r)
    rw [hA.depth, depthOf_cons, hd]
    simp [Token.depth]
    omega
  have hopen : ((ed.withTrail r).press (keyOf '(')).2 = ed.withTrail (.opening :: r) :=
    press_opening h.editing hs
  rw [type_append, type_sign negative h hn, hr, type_cons, hopen, type_append, ha _ hgroup,
    type_cons, type_nil]
  show ((ed.withTrail (A.reverse ++ .opening :: r)).press (keyOf ')')).2 = _
  rw [press_closing he (hA.connective _) hclose, ← hr]
  simp [withTrail]

end Editor

open Editor

mutual

theorem complete_expr : (e : Expr) → Complete e.tokens
  | .term t => complete_term t
  | .sum e _ o t => (complete_expr e).op (complete_term t) o.op

theorem complete_term : (t : Term) → Complete t.tokens
  | .factor f => complete_factor f
  | .product t _ o f => (complete_term t).op (complete_factor f) o.op

theorem complete_factor : (f : Factor) → Complete f.tokens
  | .number _ negative n => by
    have hb : (Operand.literal (signText negative ++ n.text)).isBareSign = false :=
      result_not_bare (.inl (n.isNumber.signed negative))
    exact ⟨fun r => awaited_operand_of_not_bare hb, fun r => by simp [Factor.tokens, Token.depth]⟩
  | .group _ negative e _ => (complete_expr e).group negative

end

-- Along the tree: the sentence that comes up has the value of the one that was meant, and the
-- evaluator is handed just its text.
mutual

theorem typed_expr (start : Bool) : (e : Expr) → e.Typable start → ∃ e' : Expr,
    Types e.text start e'.tokens ∧ render Token.evaluable e'.tokens = e'.text ∧ e'.value = e.value
  | .term t, h => by
    obtain ⟨t', ht, hr, hv⟩ := typed_term start t h
    exact ⟨.term t', ht, hr, hv⟩
  | .sum e blanks o t, h => by
    obtain ⟨he, rfl, ht⟩ := h
    obtain ⟨e', he, hre, hve⟩ := typed_expr start e he
    obtain ⟨t', ht, hrt, hvt⟩ := typed_term false t ht
    refine ⟨.sum e' 0 o t', he.op (complete_expr e') ht o.op, ?_, ?_⟩
    · simp only [Expr.tokens, Expr.text, ← hre, ← hrt]
      simp [render, Token.evaluable, opAscii_eq, spaces]
    · simp only [Expr.value, hve, hvt]

theorem typed_term (start : Bool) : (t : Term) → t.Typable start → ∃ t' : Term,
    Types t.text start t'.tokens ∧ render Token.evaluable t'.tokens = t'.text ∧ t'.value = t.value
  | .factor f, h => by
    obtain ⟨f', hf, hr, hv⟩ := typed_factor start f h
    exact ⟨.factor f', hf, hr, hv⟩
  | .product t blanks o f, h => by
    obtain ⟨ht, rfl, hf⟩ := h
    obtain ⟨t', ht, hrt, hvt⟩ := typed_term start t ht
    obtain ⟨f', hf, hrf, hvf⟩ := typed_factor false f hf
    refine ⟨.product t' 0 o f', ht.op (complete_term t') hf o.op, ?_, ?_⟩
    · simp only [Term.tokens, Term.text, ← hrt, ← hrf]
      simp [render, Token.evaluable, opAscii_eq, spaces]
    · simp only [Term.value, hvt, hvf]

theorem typed_factor (start : Bool) : (f : Factor) → f.Typable start → ∃ f' : Factor,
    Types f.text start f'.tokens ∧ render Token.evaluable f'.tokens = f'.text ∧ f'.value = f.value
  | .number blanks negative n, h => by
    obtain ⟨rfl, hn, hp⟩ := h
    obtain ⟨hnum, hv⟩ := typedNumber_spec n.isNumber hp
    refine ⟨.number 0 negative ⟨typedNumber n.text, hnum⟩,
      types_number negative hn n.isNumber hp, ?_, ?_⟩
    · simp [render, Factor.tokens, Factor.text, Token.evaluable, Operand.value, spaces]
    · simp only [Factor.value, literalValue, hv]
  | .group blanks negative e behind, h => by
    obtain ⟨rfl, hn, he, rfl⟩ := h
    obtain ⟨e', he, hr, hv⟩ := typed_expr true e he
    refine ⟨.group 0 negative e' 0, types_group negative hn he (complete_expr e'), ?_, ?_⟩
    · simp only [Factor.tokens, Factor.text, ← hr]
      cases negative <;>
        simp [render, signTokens, signText, Token.evaluable, Token.marked, Operand.value, spaces]
    · simp only [Factor.value, hv]

end

/-- The characters of a sentence that can be typed. -/
inductive IsKeyed : Char → Prop
  | digit {c : Char} : isAsciiDigit c = true → IsKeyed c
  | point : IsKeyed '.'
  | opening : IsKeyed '('
  | closing : IsKeyed ')'
  | operator (o : BinOp) : IsKeyed o.ascii

theorem press_keyOf_ok {c : Char} (h : IsKeyed c) (ed : Editor) :
    ∃ reply, (ed.press (keyOf c)).1 = .ok reply := by
  cases h with
  | digit hd =>
    rw [keyOf_digit hd]
    simp [press, press?, digit, digitKey?, hd, Except.map]
  | point | opening | closing => exact ⟨_, rfl⟩
  | operator o =>
    rw [keyOf_ascii]
    simp [press, press?, operator, operatorKey?_ascii, Except.map]

theorem isKeyed_sign {negative : Bool} {c : Char} (h : c ∈ signText negative) : IsKeyed c := by
  cases negative with
  | false => cases h
  | true =>
    rw [List.mem_singleton.1 h]
    exact .operator .sub

mutual

theorem keyed_expr (start : Bool) : (e : Expr) → e.Typable start → ∀ c ∈ e.text, IsKeyed c
  | .term t, h => keyed_term start t h
  | .sum e blanks o t, h => by
    obtain ⟨he, rfl, ht⟩ := h
    exact List.forall_mem_append.2 ⟨keyed_expr start e he,
      List.forall_mem_cons.2 ⟨.operator _, keyed_term false t ht⟩⟩

theorem keyed_term (start : Bool) : (t : Term) → t.Typable start → ∀ c ∈ t.text, IsKeyed c
  | .factor f, h => keyed_factor start f h
  | .product t blanks o f, h => by
    obtain ⟨ht, rfl, hf⟩ := h
    exact List.forall_mem_append.2 ⟨keyed_term start t ht,
      List.forall_mem_cons.2 ⟨.operator _, keyed_factor false f hf⟩⟩

theorem keyed_factor (start : Bool) : (f : Factor) → f.Typable start → ∀ c ∈ f.text, IsKeyed c
  | .number blanks negative n, h => by
    obtain ⟨rfl, -, hp⟩ := h
    show ∀ c ∈ signText negative ++ n.text, IsKeyed c
    refine List.forall_mem_append.2 ⟨fun c => isKeyed_sign, fun c hc => ?_⟩
    obtain hd | rfl := hp c hc
    · exact .digit hd
    · exact .point
  | .group blanks negative e behind, h => by
    obtain ⟨rfl, -, he, rfl⟩ := h
    show ∀ c ∈ signText negative ++ '(' :: (e.text ++ [')']), IsKeyed c
    exact List.forall_mem_append.2 ⟨fun c => isKeyed_sign, List.forall_mem_cons.2 ⟨.opening,
      List.forall_mem_append.2 ⟨keyed_expr true e he, List.forall_mem_singleton.2 .closing⟩⟩⟩

end

theorem run_clear (earlier keys : List Key) :
    run (earlier ++ .clear :: keys) = keys.foldl (fun ed k => (ed.press k).2) empty := by
  unfold run
  rw [List.foldl_append]
  rfl

/-- A sentence typed on a cleared editor: every key is taken, and equals gives the text that the
sentence evaluates to, or fails as its evaluation does. -/
theorem equals_typed {e : Expr} (h : e.Typable true) (earlier : List Key) :
    (∀ c ∈ e.text, ∀ ed : Editor, ∃ reply, (ed.press (keyOf c)).1 = .ok reply) ∧
      (run (earlier ++ .clear :: e.text.map keyOf)).equals.map (fun p => p.1.map (·.result)) =
        ((evaluateAndFormat e.text).map some).mapError .eval := by
  refine ⟨fun c hc => press_keyOf_ok (keyed_expr true e h c hc), ?_⟩
  obtain ⟨e', ht, hr, hv⟩ := typed_expr true e h
  have hrun : run (earlier ++ .clear :: e.text.map keyOf) =
      empty.withTrail e'.tokens.reverse := by
    have hw := ht empty ⟨rfl, rfl, Int.le_refl 0, fun _ => .inl rfl⟩
    rw [run_clear]
    exact hw.trans (by simp [empty])
  -- All groups are closed, so equals adds no parentheses.
  have hc : (empty.withTrail e'.tokens.reverse).closedTokens = e'.tokens := by
    have hd := (complete_expr e').depth []
    rw [List.append_nil] at hd
    simp [closedTokens, Editor.tokens, openCount, withTrail, hd]
  have hn : e'.tokens.reverse ≠ [] := by
    intro hn
    have ha := (complete_expr e').connective []
    rw [hn] at ha
    cases ha
  have hq : ¬ ((empty.withTrail e'.tokens.reverse).afterEquals = true ∨
      (empty.withTrail e'.tokens.reverse).trail = []) := by
    rintro (ha | ha)
    · cases ha
    · exact hn ha
  rw [hrun, Editor.equals, if_neg hq, hc, hr, evaluate_text, hv, evaluateAndFormat, evaluate_text]
  cases e.value <;> rfl

/-- A negated group with needless zeros and a leading point in it, times a number with a point at
its end. -/
def zeroedSentence : Expr :=
  .term (.product
    (.factor (.group 0 true (.sum
      (.term (.factor (.number 0 true
        ⟨['0', '0', '7'],
          IsSignificand.isNumber (.whole ⟨by simp, List.all_eq_true.1 (by decide)⟩)⟩))) 0 .minus
      (.factor (.number 0 false
        ⟨['.', '5'],
          IsSignificand.isNumber (.fraction ⟨by simp, List.all_eq_true.1 (by decide)⟩)⟩))) 0)) 0
    .times
    (.number 0 false
      ⟨['2', '.'], (@IsSignificand.pointed ['2'] [] ⟨by simp, List.all_eq_true.1 (by decide)⟩
        (by simp)).isNumber⟩))

theorem equals_typed_zeroedSentence :
    zeroedSentence.Typable true ∧ zeroedSentence.text = "-(-007-.5)*2.".toList ∧
      (run (.clear :: "-(-007-.5)*2.".toList.map keyOf)).equals.map (fun p => p.1.map (·.result)) =
        ((evaluateAndFormat "-(-007-.5)*2.".toList).map some).mapError .eval := by
  have h : zeroedSentence.Typable true := by
    simp only [zeroedSentence, Expr.Typable, Term.Typable, Factor.Typable]
    decide
  have ht : zeroedSentence.text = "-(-007-.5)*2.".toList := by decide
  have hr := (equals_typed h []).2
  rw [ht] at hr
  exact ⟨h, ht, hr⟩

end CovertVault.Keypad
