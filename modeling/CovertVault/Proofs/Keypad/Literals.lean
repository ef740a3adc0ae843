import CovertVault.Proofs.Formula.Counting
import CovertVault.Proofs.Formula.Exponent
import CovertVault.Proofs.Keypad.Drafts
import CovertVault.Proofs.Keypad.WellFormed

namespace CovertVault.Keypad
open Formula Editor Number Text

variable {newer older : List Token} {n : Nat}

/-- The text of tokens, newest first, with groups closed behind them. -/
def closedText (newer : List Token) (n : Nat) : List Char :=
  render Token.evaluable newer.reverse ++ List.replicate n ')'

theorem render_append (write : Token → List Char) (a b : List Token) :
    render write (a ++ b) = render write a ++ render write b := List.flatMap_append

theorem render_closedTokens (e : Editor) :
    render Token.evaluable e.closedTokens = closedText e.trail e.openCount.toNat := by
  have hc (n : Nat) : render Token.evaluable (List.replicate n .closing) =
      List.replicate n ')' := by
    induction n with
    | zero => rfl
    | succ n ih =>
      rw [List.replicate_succ, List.replicate_succ, ← ih]
      rfl
  rw [closedTokens, render_append, hc]
  rfl

/-- The oldest of some tokens stands in front of their text. -/
theorem closedText_snoc (newer : List Token) (w : Token) (n : Nat) :
    closedText (newer ++ [w]) n = w.evaluable ++ closedText newer n := by
  unfold closedText
  rw [List.reverse_append, List.reverse_singleton, render_append, List.append_assoc]
  simp [render]

theorem closings_ne {c : Char} {r : List Char} (hc : c ≠ ')') : closedText [] n ≠ c :: r := by
  intro he
  cases n with
  | zero => cases he
  | succ n => exact hc (List.cons.inj he).1.symm

theorem noNumberNext_closings (n : Nat) : NoNumberNext (List.replicate n ')') := by
  cases n with
  | zero => exact noNumberNext_nil
  | succ n => exact noNumberNext_cons (by decide) _

theorem lexFrom_closings (n p : Nat) (u : Bool) :
    lexFrom p u (List.replicate n ')') = List.replicate n .closing := by
  induction n generalizing p u with
  | zero => rw [List.replicate_zero, lexFrom, List.replicate_zero]
  | succ n ih => rw [List.replicate_succ, lexFrom_closing, ih, List.replicate_succ]

/-- Behind a complete operand its number does not go on. -/
theorem noNumberNext_closedText (h : Laid (newer ++ older)) (ha : awaited older = .connective)
    (n : Nat) : NoNumberNext (closedText newer n) := by
  have hs (newer : List Token) (h : Laid (newer ++ older)) (s : List Char)
      (hs : newer = [] → NoNumberNext s) :
      NoNumberNext (render Token.evaluable newer.reverse ++ s) := by
    induction newer generalizing s with
    | nil => exact hs rfl
    | cons t r ih =>
      rw [List.reverse_cons, render_append, List.append_assoc]
      refine ih h.tail _ ?_
      rintro rfl
      have hf : (awaited older).Admits (t.evaluable ++ s) := Token.fits.admits h.1 s
      rw [ha] at hf
      have hn : NoNumberNext (t.evaluable ++ s) := hf
      simpa [render] using hn
  exact hs newer h _ fun _ => noNumberNext_closings n

/-- A sign with nothing behind it. -/
theorem unread_sign (n : Nat) : Unread true ('-' :: List.replicate n ')') := by
  intro p
  have hn : (List.replicate n ')').head? ≠ some '(' := by cases n <;> simp [List.replicate_succ]
  have hscan : scanLiteral ('-' :: List.replicate n ')') = none := by
    cases n <;> rfl
  refine ⟨.malformedNumber p, ?_⟩
  rw [lexFrom, if_neg (by decide), if_neg fun h => hn h.2.2, if_pos (.inr (.inr ⟨rfl, rfl⟩))]
  split
  · exact .head _
  · next h =>
    rw [hscan] at h
    cases h

/-- Tokens behind others are read as what they are, or not to the end. -/
theorem lexFrom_closedText (h : Laid (newer ++ older)) (ht : Typed newer)
    (ho : awaited older ≠ .group) (n : Nat) :
    Unread (awaited older).unary (closedText newer n) ∨
      ∀ p, lexFrom p (awaited older).unary (closedText newer n) =
        newer.reverse.map Token.lexeme ++ List.replicate n .closing := by
  have hread (hs : (awaited (newer ++ older)).Admits (List.replicate n ')')) (p : Nat) :
      lexFrom p (awaited older).unary (closedText newer n) =
        newer.reverse.map Token.lexeme ++ List.replicate n .closing := by
    rw [closedText, lexFrom_render h ht hs, lexFrom_closings]
  cases ha : awaited (newer ++ older) with
  | connective =>
    rw [ha] at hread
    exact .inr (hread (noNumberNext_closings n))
  | operand =>
    rw [ha] at hread
    exact .inr (hread trivial)
  | group =>
    -- The newest token is a sign, and nothing that is negated follows it.
    left
    cases newer with
    | nil => exact absurd ha ho
    | cons t r =>
      cases t with
      | operator | opening | closing => cases ha
      | operand o =>
        by_cases hb : o.isBareSign = true
        · obtain rfl := eq_minus_of_bare hb
          intro p
          have hr : awaited (r ++ older) = .operand := h.awaited_operand
          have hs : (awaited (r ++ older)).Admits ('-' :: List.replicate n ')') := by
            rw [hr]
            trivial
          obtain ⟨err, he⟩ := unread_sign n (p + (render Token.evaluable r.reverse).length)
          have hl := lexFrom_render h.tail ht.tail hs p
          rw [hr] at hl
          refine ⟨err, ?_⟩
          rw [closedText, List.reverse_cons, render_append, List.append_assoc]
          show Lexeme.bad err ∈ lexFrom p (awaited older).unary
            (render Token.evaluable r.reverse ++ '-' :: List.replicate n ')')
          rw [hl]
          exact List.mem_append_right _ he
        · rw [List.cons_append, awaited_operand_of_not_bare (by simpa using hb)] at ha
          cases ha

/-- A lexeme's literal, if it is a number. -/
def literal? : Lexeme → Option (List Char)
  | .number t => some t
  | _ => none

/-- The number literals that are read from a text, in order. -/
def literals (s : List Char) : List (List Char) := (lex s).filterMap literal?

/-- The number that a token stands for. A sign alone stands for none. -/
def Token.number? : Token → Option (List Char)
  | .operand o => if o.isBareSign then none else some o.value
  | _ => none

def numbers (tokens : List Token) : List (List Char) := tokens.filterMap Token.number?

/-- A laid token is read as the number that it stands for, which is complete. -/
theorem literal?_lexeme {t : Token} {r : List Token} (h : Laid (t :: r)) (ht : Typed [t]) :
    literal? t.lexeme = t.number? ∧ ∀ s, t.number? = some s → IsSignedNumber s := by
  cases t with
  | operator | opening | closing => exact ⟨rfl, nofun⟩
  | operand o =>
    by_cases hb : o.isBareSign = true
    · obtain rfl := eq_minus_of_bare hb
      exact ⟨rfl, nofun⟩
    · have hv := isSignedNumber_value h ht (by simpa using hb)
      have hn : (Token.operand o).number? = some o.value := if_neg hb
      rw [hn, Token.lexeme, if_neg (signedNumber_ne_minus hv)]
      refine ⟨rfl, fun s hs => ?_⟩
      cases hs
      exact hv

theorem numbers_of_laid (h : Laid (newer ++ older)) (ht : Typed newer) :
    (newer.reverse.map Token.lexeme).filterMap literal? = numbers newer.reverse ∧
      ∀ s ∈ numbers newer.reverse, IsSignedNumber s := by
  induction newer with
  | nil => exact ⟨rfl, nofun⟩
  | cons t r ih =>
    obtain ⟨hr, hrs⟩ := ih h.tail ht.tail
    obtain ⟨hl, hls⟩ := literal?_lexeme h ht.head
    unfold numbers at hr hrs ⊢
    rw [List.reverse_cons, List.map_append, List.filterMap_append, List.filterMap_append, hr]
    refine ⟨?_, fun s hs => ?_⟩
    · congr 1
      show [t.lexeme].filterMap literal? = [t].filterMap Token.number?
      rw [List.filterMap_cons, List.filterMap_cons, hl]
      rfl
    · obtain hs | hs := List.mem_append.1 hs
      · exact hrs s hs
      · obtain ⟨t', ht', he⟩ := List.mem_filterMap.1 hs
        exact hls s (List.mem_singleton.1 ht' ▸ he)

theorem filterMap_literal? (h : Laid (newer ++ older)) (ht : Typed newer) (n : Nat) :
    (newer.reverse.map Token.lexeme ++ List.replicate n Lexeme.closing).filterMap literal? =
      numbers newer.reverse := by
  have hc : (List.replicate n Lexeme.closing).filterMap literal? = [] := by
    rw [List.filterMap_eq_nil_iff]
    intro l hl
    rw [List.eq_of_mem_replicate hl]
    rfl
  rw [List.filterMap_append, (numbers_of_laid h ht).1, hc, List.append_nil]

theorem Laid.snoc {w : Token} (h : Laid (newer ++ [w] ++ older)) : Laid (w :: older) :=
  h.of_suffix ⟨newer, by simp⟩

theorem Typed.snoc {w : Token} (h : Typed (newer ++ [w])) : Typed newer ∧ Typed [w] :=
  ⟨fun s hs => h s (List.mem_append_left _ hs), fun s hs => h s (List.mem_append_right _ hs)⟩

/-- A plus or a minus behind an operand is an operator. -/
theorem exists_operator (h : Laid (newer ++ older)) (ha : awaited older = .connective) {c : Char}
    {r : List Char} (hc : c = '+' ∨ c = '-') (he : closedText newer n = c :: r) :
    ∃ newer' o, newer = newer' ++ [.operator o] ∧ (o = .add ∨ o = .sub) ∧ opAscii o = c ∧
      closedText newer' n = r := by
  have hn : c ≠ ')' := by obtain rfl | rfl := hc <;> decide
  obtain rfl | ⟨newer', w, rfl⟩ := List.eq_nil_or_concat' newer
  · exact absurd he (closings_ne hn)
  · have hf := h.snoc.1
    rw [ha] at hf
    rw [closedText_snoc] at he
    cases w with
    | operand | opening => cases hf
    | closing => exact absurd (List.cons.inj he).1.symm hn
    | operator o =>
      obtain ⟨ho, hr⟩ := List.cons.inj he
      refine ⟨newer', o, rfl, ?_, ho, hr⟩
      rw [← ho] at hc
      revert hc
      cases o <;> decide

/-- Digits behind an operator belong to an operand. -/
theorem exists_operand (h : Laid (newer ++ older)) (ht : Typed newer)
    (ha : awaited older = .operand) {ds rest : List Char} (hd : IsDigits ds)
    (he : closedText newer n = ds ++ rest) :
    ∃ newer' u, newer = newer' ++ [.operand u] ∧ u.isBareSign = false ∧ IsNumber u.value ∧
      u.value ++ closedText newer' n = ds ++ rest := by
  obtain ⟨d, ds, rfl⟩ := List.exists_cons_of_ne_nil hd.1
  have hdec : isDecimal d = true := hd.2 d (.head _)
  have hn : d ≠ ')' ∧ d ≠ '(' ∧ d ≠ '-' := by
    refine ⟨?_, ?_, ?_⟩ <;>
      · rintro rfl
        revert hdec
        decide
  obtain rfl | ⟨newer', w, rfl⟩ := List.eq_nil_or_concat' newer
  · exact absurd he (closings_ne hn.1)
  · have hl := h.snoc
    have hf := hl.1
    rw [ha] at hf
    rw [closedText_snoc] at he
    cases w with
    | operator | closing => cases hf
    | opening => exact absurd (List.cons.inj he).1.symm hn.2.1
    | operand u =>
      have hb : u.isBareSign = false := by
        by_contra hb
        obtain rfl := eq_minus_of_bare (by simpa using hb)
        exact hn.2.2 (List.cons.inj he).1.symm
      obtain hv | ⟨v, hv, -⟩ := isSignedNumber_value hl ht.snoc.2 hb
      · exact ⟨newer', u, rfl, hb, hv, he⟩
      · refine absurd ?_ hn.2.2
        have he' : u.value ++ closedText newer' n = d :: ds ++ rest := he
        rw [hv] at he'
        exact (List.cons.inj he').1.symm

/-- What is read behind the digits that were taken in: the rest of their number, if there is one,
and then the tokens as they are. -/
theorem lexFrom_tail (h : Laid (newer ++ older)) (hn : Typed newer)
    (ha : awaited older = .connective) {tail : List Char}
    (ht : tail = [] ∨ (IsNumber tail ∧ tail.head? = some '.') ∨
      Unread false (tail ++ closedText newer n)) :
    Unread false (tail ++ closedText newer n) ∨
      ∃ read, (tail = [] ∧ read = [] ∨ IsNumber tail ∧ read = [.number tail]) ∧
        ∀ p, lexFrom p false (tail ++ closedText newer n) =
          read ++ (newer.reverse.map Token.lexeme ++ List.replicate n .closing) := by
  have hnext := noNumberNext_closedText h ha n
  have hclosed := lexFrom_closedText h hn (by rw [ha]; nofun) n
  rw [ha] at hclosed
  obtain rfl | ⟨hv, hp⟩ | hu := ht
  · exact hclosed.imp_right fun hr => ⟨[], .inl ⟨rfl, rfl⟩, hr⟩
  · have hl := fun p => lexFrom_fraction hv hp hnext p false
    refine hclosed.imp (fun hu => hu.cons hl) fun hr =>
      ⟨[.number tail], .inr ⟨hv, rfl⟩, fun p => ?_⟩
    rw [hl]
    exact congrArg (.number tail :: ·) (hr _)
  · exact .inl hu

/-- Every token is read as what it is, so the literals that are read are the numbers that the tokens
stand for, and all are complete. -/
structure Editor.ReadsNumbers (e : Editor) : Prop where
  lexemes : lex (render Token.evaluable e.closedTokens) = e.closedTokens.map Token.lexeme
  literals : literals (render Token.evaluable e.closedTokens) = numbers e.tokens
  complete : ∀ t ∈ numbers e.tokens, IsSignedNumber t

/-- The mark of an exponent at the end of the oldest number takes in the plus or minus behind it
and the digits behind that. If the number that these begin goes on, the rest of it is read for
itself. -/
structure Editor.Absorbs (e : Editor) (t : List Char) (o : BinOp) (u : Operand)
    (ds fs : List Char) (rest : List Token) : Prop where
  tokens : e.tokens = .operand (.literal t) :: .operator o :: .operand u :: rest
  unfinished : ∃ negative m, IsSignificand m ∧ t = signText negative ++ (m ++ ['E'])
  sign : o = .add ∨ o = .sub
  digits : IsDigits ds
  value : u.value = ds ++ fs
  literals : fs = [] ∧ literals (render Token.evaluable e.closedTokens) =
      (t ++ opAscii o :: ds) :: numbers rest ∨
    IsNumber fs ∧ literals (render Token.evaluable e.closedTokens) =
      (t ++ opAscii o :: ds) :: fs :: numbers rest

variable {e : Editor}

theorem Editor.Sound.readsNumbers (h : e.Sound) (ht : Typed e.trail) :
    Unread true (render Token.evaluable e.closedTokens) ∨ e.ReadsNumbers := by
  have hl : Laid (e.trail ++ []) := by
    rw [List.append_nil]
    exact h.laid
  rw [render_closedTokens]
  refine (lexFrom_closedText hl ht nofun e.openCount.toNat).imp_right fun hr => ?_
  have hlex : lex (render Token.evaluable e.closedTokens) =
      e.trail.reverse.map Token.lexeme ++ List.replicate e.openCount.toNat .closing := by
    rw [render_closedTokens]
    exact hr 0
  refine ⟨?_, ?_, (numbers_of_laid hl ht).2⟩
  · rw [hlex, closedTokens, List.map_append, List.map_replicate]
    rfl
  · unfold Keypad.literals
    rw [hlex]
    exact filterMap_literal? hl ht _

/-- An oldest number that ends in the mark of an exponent is read with the operator and the digits
behind it, the other tokens as what they are. -/
theorem Editor.Sound.fuses (h : e.Sound) {negative : Bool} {m sign : List Char}
    (hn : Typed newer) (hm : IsSignificand m) (hs : sign = [] ∨ sign = ['+'])
    (he : e.trail = newer ++ [.operand (.literal (signText negative ++ (m ++ 'E' :: sign)))]) :
    Unread true (render Token.evaluable e.closedTokens) ∨
      ∃ t o u ds fs rest read, e.Absorbs t o u ds fs rest.reverse ∧ u.isBareSign = false ∧
        Typed rest ∧ (fs = [] ∧ read = [] ∨ IsNumber fs ∧ read = [.number fs]) ∧
          lex (render Token.evaluable e.closedTokens) = .number (t ++ opAscii o :: ds) ::
            (read ++ (rest.reverse.map Token.lexeme ++
              List.replicate e.openCount.toNat .closing)) := by
  have hl := h.laid
  rw [he] at hl
  have hb : (Operand.literal (signText negative ++ (m ++ 'E' :: sign))).isBareSign = false := by
    obtain ⟨c, m, rfl, -⟩ := hm.isNumber.head
    cases negative <;> simp [Operand.isBareSign, signText]
  have ha : awaited [.operand (.literal (signText negative ++ (m ++ 'E' :: sign)))] =
      .connective := awaited_operand_of_not_bare hb
  have htext : render Token.evaluable e.closedTokens = signText negative ++ (m ++ 'E' :: (sign ++
      closedText newer e.openCount.toNat)) := by
    rw [render_closedTokens, he, closedText_snoc]
    simp [Token.evaluable, Operand.value]
  have hnext := (noNumberNext_closedText hl ha e.openCount.toNat).1
  obtain hu | ⟨rfl, c, ds, rest, k, hr, hc, hd, hrest, hlex⟩ :=
    lexFrom_unfinished hm hs hnext negative
  · exact .inl (htext ▸ hu)
  -- Behind the mark stand an operator and an operand that begins with the digits of the exponent.
  obtain ⟨newer₁, o, rfl, ho, rfl, hr₁⟩ := exists_operator hl ha hc hr
  rw [List.append_assoc] at hl
  obtain ⟨newer₂, u, rfl, hub, huv, hr₂⟩ := exists_operand hl hn.snoc.1 rfl hd hr₁
  rw [List.append_assoc] at hl
  have hnext := noNumberNext_closedText hl (awaited_operand_of_not_bare hub) e.openCount.toNat
  obtain ⟨fs, hv, rfl, hf⟩ := exists_tail huv hnext hd hrest hr₂
  have hnt := hn.snoc.1.snoc.1
  obtain hu | ⟨read, hread, hlit⟩ := lexFrom_tail hl hnt (awaited_operand_of_not_bare hub) hf
  · exact .inl (htext ▸ hu.cons hlex)
  have hlexemes : lex (render Token.evaluable e.closedTokens) =
      .number (signText negative ++ (m ++ ['E']) ++ opAscii o :: ds) ::
        (read ++ (newer₂.reverse.map Token.lexeme ++
          List.replicate e.openCount.toNat .closing)) := by
    unfold lex
    rw [htext, hlex, hlit]
    simp
  have hliterals : literals (render Token.evaluable e.closedTokens) =
      (signText negative ++ (m ++ ['E']) ++ opAscii o :: ds) ::
        (read.filterMap literal? ++ numbers newer₂.reverse) := by
    unfold literals
    rw [hlexemes, List.filterMap_cons, List.filterMap_append, filterMap_literal? hl hnt]
    rfl
  refine .inr ⟨_, o, u, ds, fs, newer₂, read,
    ⟨?_, ⟨negative, m, hm, rfl⟩, ho, hd, hv, ?_⟩, hub, hnt, hread, hlexemes⟩
  · rw [Editor.tokens, he]
    simp
  · rw [hliterals]
    exact hread.imp (fun ⟨hf, hr⟩ => ⟨hf, by rw [hr]; rfl⟩) fun ⟨hf, hr⟩ => ⟨hf, by rw [hr]; rfl⟩

theorem Editor.Sound.absorbs (h : e.Sound) {negative : Bool} {m sign : List Char}
    (hn : Typed newer) (hm : IsSignificand m) (hs : sign = [] ∨ sign = ['+'])
    (he : e.trail = newer ++ [.operand (.literal (signText negative ++ (m ++ 'E' :: sign)))]) :
    Unread true (render Token.evaluable e.closedTokens) ∨
      ∃ t o u ds fs rest, e.Absorbs t o u ds fs rest :=
  (h.fuses hn hm hs he).imp_right fun ⟨t, o, u, ds, fs, rest, _, ha, _⟩ =>
    ⟨t, o, u, ds, fs, rest.reverse, ha⟩

/-- What is not read to the end makes equals fail. -/
theorem Editor.equals_error_of_unread (hn : e.afterEquals = false)
    (h : Unread true (render Token.evaluable e.closedTokens)) :
    ∃ err, e.equals = .error (.eval err) := by
  obtain ⟨err, hbad⟩ := h 0
  have ht : e.trail ≠ [] := by
    -- Of no tokens nothing is read, and nothing is left unread.
    intro ht
    have hempty : render Token.evaluable e.closedTokens = [] := by
      simp [closedTokens, tokens, openCount, ht, render]
    rw [hempty, lexFrom] at hbad
    cases hbad
  unfold Editor.equals
  rw [if_neg (by simp [hn, ht])]
  cases hv : evaluate (render Token.evaluable e.closedTokens) with
  | ok v => exact absurd hbad ((counts_of_evaluate hv).readable err)
  | error err => exact ⟨err, rfl⟩

/-- Equals fails, or it reads the numbers that the tokens stand for, unless the oldest of them is a
result without its exponent. -/
theorem reads_run (keys : List Key) :
    (run keys).afterEquals = true ∨ (∃ err, (run keys).equals = .error (.eval err)) ∨
      (run keys).ReadsNumbers ∨ ∃ t o u ds fs rest, (run keys).Absorbs t o u ds fs rest := by
  have hs := sound_run keys
  have ho := (originates_run keys).trail
  generalize run keys = e at hs ho
  cases hn : e.afterEquals with
  | true => exact .inl rfl
  | false =>
    right
    have hread : Unread true (render Token.evaluable e.closedTokens) ∨ e.ReadsNumbers ∨
        ∃ t o u ds fs rest, e.Absorbs t o u ds fs rest := by
      obtain ht | ⟨newer, negative, m, sign, hnt, hm, hsign, he⟩ := typed_or_unfinished ho
      · exact (hs.readsNumbers ht).imp_right .inl
      · exact (hs.absorbs hnt hm hsign he).imp_right .inr
    exact hread.imp_left (Editor.equals_error_of_unread hn)

/-- A result of which the exponent is cut off behind its mark, and then a plus and a digit. -/
def cutExponentKeys : List Key :=
  let factor := .digit ['1'] :: List.replicate 10 (.digit ['0'])
  factor ++ .operator ['×'] :: (factor ++ [.equals, .operator ['+'], .backspace, .backspace,
    .backspace, .backspace, .operator ['+'], .digit ['5']])

/-- The plus between two numbers becomes the sign of an exponent. -/
theorem cutExponentKeys_fused :
    (run cutExponentKeys).tokens = [.operand (.literal "1.000000E".toList), .operator .add,
        .operand (.literal ['5'])] ∧
      (run cutExponentKeys).afterEquals = false ∧
      (run cutExponentKeys).equals.map (fun p => p.1.map (·.result)) =
        .ok (some "100000".toList) ∧
      literals (render Token.evaluable (run cutExponentKeys).closedTokens) =
        ["1.000000E+5".toList] ∧
      numbers (run cutExponentKeys).tokens = ["1.000000E".toList, ['5']] := by
  decide +kernel

end CovertVault.Keypad
