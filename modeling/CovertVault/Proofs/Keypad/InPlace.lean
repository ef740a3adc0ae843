import CovertVault.Proofs.InPlace
import CovertVault.Proofs.Keypad.Layout

namespace CovertVault.Keypad
open Formula Editor InPlace

/-- Steps on one editor. -/
abbrev Edit := InPlace PressError Editor

namespace Edit

def setTrail (trail : List Token) : Edit Unit := modify fun e => { e with trail := trail }
def setCarry (carry : Option (List Char)) : Edit Unit := modify fun e => { e with carry := carry }
def setAfterEquals (b : Bool) : Edit Unit := modify fun e => { e with afterEquals := b }

def push (t : Token) : Edit Unit := do setTrail (t :: (← get).trail)
def drop : Edit Unit := do setTrail (← get).trail.tail
def replaceNewest (o : Operand) : Edit Unit := do setTrail (.operand o :: (← get).trail.tail)

/-- The tokens are written first, then that no result is held, then that none is shown. -/
def leave (seed : Bool) : Edit Unit := do
  let e ← get
  if e.afterEquals then
    setTrail (match seed, e.carry with
      | true, some (c :: cs) => [.operand (.literal (c :: cs))]
      | _, _ => [])
    setCarry none
    setAfterEquals false

/-- Whether an operand right behind these tokens is a factor. -/
def endsFactor : List Token → Bool
  | .operand (.applied ..) :: _ | .closing :: _ => true
  | _ => false

def start (text : List Char) : Edit Unit := do
  if endsFactor (← get).trail then push (.operator .mul)
  push (.operand (.literal text))

def digit (key : List Char) : Edit Bool := do
  match digitKey? key with
  | none => throw (.notDigit key)
  | some d =>
    leave false
    match (← get).trail with
    | .operand (.literal t) :: _ =>
      if isLoneZero t then
        if d = '0' then return false
        replaceNewest (.literal (t.dropLast ++ [d]))
      else replaceNewest (.literal (t ++ [d]))
    | _ => start [d]
    return true

def doubleZero : Edit Bool := do
  leave false
  match (← get).trail with
  | .operand (.literal t) :: _ =>
    if isLoneZero t then return false
    replaceNewest (.literal (t ++ ['0', '0']))
  | _ => start ['0', '0']
  return true

def operator (key : List Char) : Edit Bool := do
  match operatorKey? key with
  | none => throw (.unknownOperator key)
  | some o =>
    leave true
    match (← get).trail with
    | [] | .opening :: _ =>
      if o = .sub then
        push (.operand (.literal ['-']))
        return true
      return false
    | .operator o' :: _ =>
      if o' = o then return false
      drop
      push (.operator o)
      return true
    | .operand x :: _ =>
      if x.isBareSign then return false
      push (.operator o)
      return true
    | .closing :: _ =>
      push (.operator o)
      return true

def dot : Edit Bool := do
  leave false
  match (← get).trail with
  | .operand (.literal t) :: _ =>
    if t.contains '.' then return false
    replaceNewest (.literal (t ++ if t = ['-'] then ['0', '.'] else ['.']))
  | _ => start ['0', '.']
  return true

def applyFunction (key : FunctionKey) : Edit Bool := do
  match key.fn? with
  | none => throw (.unknownFunction key)
  | some fn =>
    match (← get).target? with
    | none => return false
    | some o =>
      let computed ← MonadExcept.ofExcept (computedText fn o.value)
      leave true
      replaceNewest (.applied fn o computed)
      return true

def signFlip : Edit Bool := do
  match (← get).target? with
  | none => return false
  | some o =>
    leave true
    replaceNewest (flipped o)
    return true

def backspace : Edit (Option (List Char)) := do
  let e ← get
  if e.afterEquals then return none
  match e.trail with
  | [] => return none
  | .operand (.literal t) :: _ =>
    if t.dropLast = [] then drop else replaceNewest (.literal t.dropLast)
    return t.getLast?.map ([·])
  | .operand (.applied fn o _) :: _ =>
    replaceNewest o
    return some [fn.symbol]
  | t :: _ =>
    drop
    return some t.marked

def openParen : Edit Bool := do
  leave false
  match (← get).trail with
  | .operand x :: _ => if !x.isBareSign then push (.operator .mul)
  | .closing :: _ => push (.operator .mul)
  | _ => pure ()
  push .opening
  return true

def closeParen : Edit Bool := do
  let e ← get
  if e.afterEquals ∨ e.openCount ≤ 0 then return false
  match e.trail with
  | .operator _ :: _ | .opening :: _ => return false
  | .operand x :: _ =>
    if x.isBareSign then return false
    push .closing
    return true
  | _ =>
    push .closing
    return true

def clear : Edit Unit := do
  setTrail []
  setCarry none
  setAfterEquals false

def equals : Edit (Option Evaluation) := do
  let e ← get
  if e.afterEquals ∨ e.trail = [] then return none
  match evaluate (render Token.evaluable e.closedTokens) with
  | .error err => throw (.eval err)
  | .ok v =>
    setTrail []
    setCarry (some (formatNumber v))
    setAfterEquals true
    return some ⟨e.shownText, render Token.shown e.closedTokens, formatNumber v⟩

/-- One key press. -/
def press : Key → Edit Reply
  | .digit k => .changed <$> digit k
  | .doubleZero => .changed <$> doubleZero
  | .operator k => .changed <$> operator k
  | .dot => .changed <$> dot
  | .function k => .changed <$> applyFunction k
  | .signFlip => .changed <$> signFlip
  | .backspace => .removed <$> backspace
  | .openParen => .changed <$> openParen
  | .closeParen => .changed <$> closeParen
  | .clear => do
    clear
    return .cleared
  | .equals => .evaluated <$> equals

/-- The editor after presses on an empty one. -/
def run (keys : List Key) : Editor := keys.foldl (fun e k => (exec (press k) e).2) empty

end Edit

namespace Edit

@[simp] theorem exec_push (t : Token) (e : Editor) :
    exec (push t) e = (.ok (), e.withTrail (t :: e.trail)) := rfl

@[simp] theorem exec_drop (e : Editor) :
    exec drop e = (.ok (), e.withTrail e.trail.tail) := rfl

@[simp] theorem exec_replaceNewest (o : Operand) (e : Editor) :
    exec (replaceNewest o) e = (.ok (), e.replaceLast o) := rfl

@[simp] theorem exec_leave (seed : Bool) (e : Editor) :
    exec (leave seed) e = (.ok (), e.leaveEquals seed) := by
  obtain ⟨trail, carry, afterEquals⟩ := e
  cases afterEquals with
  | false => rfl
  | true =>
    cases seed with
    | false => rfl
    | true => rcases carry with _ | _ | ⟨c, cs⟩ <;> rfl

@[simp] theorem exec_start (text : List Char) (e : Editor) :
    exec (start text) e = (.ok (), e.begin text) := by
  obtain ⟨trail, carry, afterEquals⟩ := e
  rcases trail with _ | ⟨⟨_ | _⟩ | _ | _ | _, r⟩ <;> rfl

theorem exec_digit (key : List Char) (e : Editor) :
    exec (digit key) e = settle e (e.digit key) := by
  unfold digit Editor.digit
  cases hk : digitKey? key with
  | none => rfl
  | some d =>
    dsimp only
    rw [exec_bind, exec_leave]
    obtain ⟨trail, carry, afterEquals⟩ := e.leaveEquals false
    rcases trail with _ | ⟨⟨⟨t⟩ | _⟩ | _ | _ | _, r⟩
    case cons.operand.literal =>
      by_cases hz : isLoneZero t = true <;> by_cases hd : d = '0' <;>
        simp [putDigit, settle, withTrail, replaceLast, Except.map, hz, hd]
    all_goals rfl

theorem exec_doubleZero (e : Editor) :
    exec doubleZero e = (.ok e.doubleZero.1, e.doubleZero.2) := by
  unfold doubleZero Editor.doubleZero
  dsimp only
  rw [exec_bind, exec_leave]
  obtain ⟨trail, carry, afterEquals⟩ := e.leaveEquals false
  rcases trail with _ | ⟨⟨⟨t⟩ | _⟩ | _ | _ | _, r⟩
  case cons.operand.literal =>
    by_cases hz : isLoneZero t = true <;> simp [withTrail, replaceLast, Except.map, hz]
  all_goals rfl

theorem exec_operator (key : List Char) (e : Editor) :
    exec (operator key) e = settle e (e.operator key) := by
  unfold operator Editor.operator
  cases hk : operatorKey? key with
  | none => rfl
  | some o =>
    dsimp only
    rw [exec_bind, exec_leave]
    obtain ⟨trail, carry, afterEquals⟩ := e.leaveEquals true
    rcases trail with _ | ⟨x | o' | _ | _, r⟩
    case nil | cons.opening =>
      by_cases ho : o = .sub <;> simp [putOperator, settle, withTrail, Except.map, ho]
    case cons.operator =>
      by_cases ho : o' = o <;> simp [putOperator, settle, withTrail, Except.map, ho]
    case cons.operand =>
      by_cases hb : x.isBareSign = true <;> simp [putOperator, settle, withTrail, Except.map, hb]
    case cons.closing => rfl

theorem exec_dot (e : Editor) : exec dot e = (.ok e.dot.1, e.dot.2) := by
  unfold dot Editor.dot
  dsimp only
  rw [exec_bind, exec_leave]
  obtain ⟨trail, carry, afterEquals⟩ := e.leaveEquals false
  rcases trail with _ | ⟨⟨⟨t⟩ | _⟩ | _ | _ | _, r⟩
  case cons.operand.literal =>
    by_cases hp : '.' ∈ t <;> simp [withTrail, replaceLast, Except.map, hp]
  all_goals rfl

theorem exec_applyFunction (key : FunctionKey) (e : Editor) :
    exec (applyFunction key) e = settle e (e.applyFunction key) := by
  unfold applyFunction Editor.applyFunction
  cases hk : key.fn? with
  | none => rfl
  | some fn =>
    dsimp only
    rw [exec_bind, exec_get]
    dsimp only
    cases e.target? with
    | none => rfl
    | some o =>
      dsimp only
      rw [exec_bind, exec_ofExcept]
      cases computedText fn o.value with
      | error err => rfl
      | ok c => simp [settle, Except.map]

theorem exec_signFlip (e : Editor) : exec signFlip e = (.ok e.signFlip.1, e.signFlip.2) := by
  unfold signFlip Editor.signFlip
  rw [exec_bind, exec_get]
  dsimp only
  cases e.target? with
  | none => rfl
  | some o => simp [Except.map]

theorem exec_backspace (e : Editor) :
    exec backspace e = (.ok e.backspace.1, e.backspace.2) := by
  obtain ⟨trail, carry, afterEquals⟩ := e
  unfold backspace Editor.backspace
  cases afterEquals with
  | true => rfl
  | false =>
    rcases trail with _ | ⟨⟨⟨t⟩ | _⟩ | _ | _ | _, r⟩
    case cons.operand.literal =>
      by_cases ht : t.dropLast = [] <;> simp [withTrail, replaceLast, Except.map, ht]
    all_goals rfl

theorem exec_openParen (e : Editor) : exec openParen e = (.ok true, e.openParen) := by
  unfold openParen Editor.openParen
  dsimp only
  rw [exec_bind, exec_leave]
  obtain ⟨trail, carry, afterEquals⟩ := e.leaveEquals false
  rcases trail with _ | ⟨x | _ | _ | _, r⟩
  case cons.operand =>
    by_cases hb : x.isBareSign = true <;> simp [withTrail, Except.map, hb]
  all_goals rfl

theorem exec_closeParen (e : Editor) :
    exec closeParen e = (.ok e.closeParen.1, e.closeParen.2) := by
  obtain ⟨trail, carry, afterEquals⟩ := e
  unfold closeParen Editor.closeParen
  rw [exec_bind, exec_get]
  dsimp only
  split
  · rfl
  · rcases trail with _ | ⟨x | _ | _ | _, r⟩
    case cons.operand =>
      by_cases hb : x.isBareSign = true <;> simp [withTrail, Except.map, hb]
    all_goals rfl

theorem exec_equals (e : Editor) : exec equals e = settle e e.equals := by
  unfold equals Editor.equals
  rw [exec_bind, exec_get]
  dsimp only
  split
  · rfl
  · cases evaluate (render Token.evaluable e.closedTokens) <;> rfl

/-- A press in place is a press on values. -/
theorem exec_press (k : Key) (e : Editor) : exec (press k) e = e.press k := by
  cases k with
  | digit text =>
    rw [press, exec_map, exec_digit, Editor.press, press?]
    cases e.digit text <;> rfl
  | doubleZero =>
    rw [press, exec_map, exec_doubleZero]
    rfl
  | operator text =>
    rw [press, exec_map, exec_operator, Editor.press, press?]
    cases e.operator text <;> rfl
  | dot =>
    rw [press, exec_map, exec_dot]
    rfl
  | function key =>
    rw [press, exec_map, exec_applyFunction, Editor.press, press?]
    cases e.applyFunction key <;> rfl
  | signFlip =>
    rw [press, exec_map, exec_signFlip]
    rfl
  | backspace =>
    rw [press, exec_map, exec_backspace]
    rfl
  | openParen =>
    rw [press, exec_map, exec_openParen]
    rfl
  | closeParen =>
    rw [press, exec_map, exec_closeParen]
    rfl
  | clear => rfl
  | equals =>
    rw [press, exec_map, exec_equals, Editor.press, press?]
    cases e.equals <;> rfl

theorem run_eq (keys : List Key) : run keys = Editor.run keys := by
  simp only [run, Editor.run, exec_press]

end Edit

/-- An answer that nothing was done. -/
def Reply.isNothing : Reply → Bool
  | .changed b => !b
  | .removed text => text.isNone
  | .cleared => false
  | .evaluated e => e.isNone

namespace Editor

variable {e : Editor}

/-- An operation says that it did nothing if it did nothing, and only then. -/
def Faithful (e : Editor) (r : Bool × Editor) : Prop := r.1 = false ↔ r.2 = e

theorem withTrail_eq {trail : List Token} : e.withTrail trail = e ↔ trail = e.trail := by
  obtain ⟨t, carry, afterEquals⟩ := e
  simp [withTrail]

theorem faithful_same (e : Editor) : Faithful e (false, e) := by simp [Faithful]

theorem faithful_changed {e' : Editor} (h : e' ≠ e) : Faithful e (true, e') := by
  simpa [Faithful] using h

theorem faithful_withTrail {trail : List Token} (h : trail ≠ e.trail) :
    Faithful e (true, e.withTrail trail) := faithful_changed (mt withTrail_eq.1 h)

theorem ne_of_length {trail trail' : List Token} (h : trail'.length < trail.length) :
    trail ≠ trail' := fun he => by
  rw [he] at h
  exact Nat.lt_irrefl _ h

theorem length_impliedProduct (trail : List Token) :
    trail.length ≤ (impliedProduct trail).length := by
  unfold impliedProduct
  split <;> simp

theorem faithful_begin (e : Editor) (text : List Char) : Faithful e (true, e.begin text) :=
  faithful_withTrail (ne_of_length (Nat.lt_succ_of_le (length_impliedProduct e.trail)))

/-- Characters behind a typed number, or in the place of its last. -/
theorem faithful_retype {t t' : List Char} {r : List Token}
    (he : e.trail = .operand (.literal t) :: r) (ht : t' ≠ t) :
    Faithful e (true, e.withTrail (.operand (.literal t') :: r)) := by
  refine faithful_withTrail ?_
  rw [he]
  simpa using ht

theorem faithful_putDigit (d : Char) (e : Editor) : Faithful e (e.putDigit d) := by
  unfold putDigit
  split
  · next t r he =>
    split
    · next hz =>
      split
      · exact faithful_same e
      · next hd =>
        refine faithful_retype he ?_
        obtain rfl | rfl : t = ['0'] ∨ t = ['-', '0'] := by simpa [isLoneZero] using hz
        · simpa using hd
        · simpa using hd
    · exact faithful_retype he (by simp)
  · exact faithful_begin e [d]

theorem faithful_putOperator (o : BinOp) (e : Editor) : Faithful e (e.putOperator o) := by
  unfold putOperator
  split
  · split
    · exact faithful_withTrail (ne_of_length (Nat.lt_succ_self _))
    · exact faithful_same e
  · split
    · exact faithful_withTrail (ne_of_length (Nat.lt_succ_self _))
    · exact faithful_same e
  · next o' r he =>
    split
    · exact faithful_same e
    · next ho =>
      refine faithful_withTrail ?_
      rw [he]
      simpa using Ne.symm ho
  · split
    · exact faithful_same e
    · exact faithful_withTrail (ne_of_length (Nat.lt_succ_self _))
  · exact faithful_withTrail (ne_of_length (Nat.lt_succ_self _))

theorem leaveEquals_unseeded (h : e.afterEquals = true) : e.leaveEquals false = empty := by
  unfold leaveEquals
  rw [if_pos h]

/-- What is done behind a result is a change, because the result is no longer shown. -/
theorem faithful_of_afterEquals {e' : Editor} (h : e.afterEquals = true)
    (h' : e'.afterEquals = false) : Faithful e (true, e') :=
  faithful_changed fun he => by
    rw [he, h] at h'
    cases h'

theorem faithful_digit (d : Char) (e : Editor) :
    Faithful e ((e.leaveEquals false).putDigit d) := by
  cases hn : e.afterEquals with
  | true =>
    rw [leaveEquals_unseeded hn]
    exact faithful_of_afterEquals hn rfl
  | false =>
    rw [leaveEquals_of_editing hn]
    exact faithful_putDigit d e

theorem faithful_doubleZero (e : Editor) : Faithful e e.doubleZero := by
  unfold doubleZero
  cases hn : e.afterEquals with
  | true =>
    rw [leaveEquals_unseeded hn]
    exact faithful_of_afterEquals hn rfl
  | false =>
    rw [leaveEquals_of_editing hn]
    dsimp only
    split
    · next t r he =>
      split
      · exact faithful_same e
      · exact faithful_retype he (by simp)
    · exact faithful_begin e ['0', '0']

theorem typed_ne_nil {t : List Char} (h : (Operand.literal t).Sound) : t ≠ [] := by
  cases h with
  | literal ht _ => exact ht

theorem faithful_operator (h : e.Sound) (o : BinOp) :
    Faithful e ((e.leaveEquals true).putOperator o) := by
  cases hn : e.afterEquals with
  | true =>
    -- The result is a complete operand: no operator is refused behind it.
    obtain ⟨c, hc⟩ := Option.isSome_iff_exists.1 (h.carry_isSome.trans hn)
    have hb := result_not_bare (h.carried c hc)
    have hne := typed_ne_nil (result_sound (h.carried c hc))
    rw [leaveEquals_result hn hc hne, putOperator_seeded hb]
    exact faithful_of_afterEquals hn rfl
  | false =>
    rw [leaveEquals_of_editing hn]
    exact faithful_putOperator o e

theorem faithful_dot (e : Editor) : Faithful e e.dot := by
  unfold dot
  cases hn : e.afterEquals with
  | true =>
    rw [leaveEquals_unseeded hn]
    exact faithful_of_afterEquals hn rfl
  | false =>
    rw [leaveEquals_of_editing hn]
    dsimp only
    split
    · next t r he =>
      split
      · exact faithful_same e
      · refine faithful_retype he ?_
        split <;> simp
    · exact faithful_begin e ['0', '.']

/-- An operand in the place of another, or of the result. -/
theorem faithful_replaceLast (h : e.Sound) {o o' : Operand} (ho : e.target? = some o)
    (hne : o' ≠ o) : Faithful e (true, (e.leaveEquals true).replaceLast o') := by
  cases hn : e.afterEquals with
  | true => exact faithful_of_afterEquals hn (leaveEquals_afterEquals true e)
  | false =>
    obtain ⟨r, he, -⟩ | ⟨c, hc, -⟩ := trail_of_target ho
    · rw [leaveEquals_of_editing hn] at he ⊢
      refine faithful_withTrail ?_
      rw [he]
      simpa using hne
    · have hsome := h.carry_isSome
      rw [hc, hn] at hsome
      cases hsome

theorem toggleSign_ne (t : List Char) : toggleSign t ≠ t := by
  intro h
  have hl := congrArg List.length h
  unfold toggleSign at hl
  split at hl <;> simp at hl

theorem flipped_ne (o : Operand) : flipped o ≠ o := by
  intro h
  have hs := congrArg sizeOf h
  unfold flipped at h hs
  split at h
  · exact toggleSign_ne _ (Operand.literal.inj h)
  · simp at hs
    omega
  · simp at hs
    omega

theorem faithful_signFlip (h : e.Sound) : Faithful e e.signFlip := by
  unfold signFlip
  split
  · exact faithful_same e
  · next o ho => exact faithful_replaceLast h ho (flipped_ne o)

theorem applied_ne (fn : UnaryFn) (o : Operand) (c : List Char) : Operand.applied fn o c ≠ o := by
  intro h
  have hs := congrArg sizeOf h
  simp at hs
  omega

theorem faithful_closeParen (e : Editor) : Faithful e e.closeParen := by
  unfold closeParen
  split
  · exact faithful_same e
  · split
    · exact faithful_same e
    · exact faithful_same e
    · split
      · exact faithful_same e
      · exact faithful_withTrail (ne_of_length (Nat.lt_succ_self _))
    · exact faithful_withTrail (ne_of_length (Nat.lt_succ_self _))

theorem openParen_ne (e : Editor) : e.openParen ≠ e := by
  have hchanged : Faithful e (true, e.openParen) := by
    unfold openParen
    cases hn : e.afterEquals with
    | true =>
      rw [leaveEquals_unseeded hn]
      exact faithful_of_afterEquals hn rfl
    | false =>
      rw [leaveEquals_of_editing hn]
      dsimp only
      repeat' split
      all_goals exact faithful_withTrail (ne_of_length (by simp only [List.length_cons]; omega))
  exact fun he => nomatch hchanged.2 he

theorem backspace_eq_none (h : e.Sound) : e.backspace.1 = none ↔ e.backspace.2 = e := by
  have hl := h.laid
  unfold backspace
  split
  · simp
  · split
    · simp
    · next t r he =>
      -- There is a last character, and without it the text is another one.
      rw [he] at hl
      have ht : t ≠ [] := typed_ne_nil hl.sound
      have hd : t.dropLast ≠ t := fun hd => by
        have hlen := congrArg List.length hd
        have hpos := List.length_pos_iff.2 ht
        rw [List.length_dropLast] at hlen
        omega
      simp only [Option.map_eq_none_iff, List.getLast?_eq_none_iff, ht, false_iff]
      rw [withTrail_eq, he]
      split
      · simp
      · simpa using hd
    · next fn o c r he =>
      simp only [reduceCtorEq, false_iff]
      rw [withTrail_eq, he]
      simpa using (applied_ne fn o c).symm
    · next t r _ _ he =>
      simp only [reduceCtorEq, false_iff]
      rw [withTrail_eq, he]
      simp

theorem equals_eq_none {v : Option Evaluation} {e' : Editor} (h : e.equals = .ok (v, e')) :
    v = none ↔ e' = e := by
  unfold equals at h
  split at h
  · cases h
    simp
  · next hn =>
    split at h
    · cases h
    · cases h
      simp only [reduceCtorEq, false_iff]
      rintro rfl
      simp at hn

theorem press_faithful (h : e.Sound) {k : Key} (hk : k ≠ .clear) {reply : Reply} {e' : Editor}
    (hp : e.press? k = .ok (reply, e')) : reply.isNothing = true ↔ e' = e := by
  have hchanged {b : Bool} {e' : Editor} (hf : Faithful e (b, e')) :
      (Reply.changed b).isNothing = true ↔ e' = e := by
    rw [Reply.isNothing, Bool.not_eq_true']
    exact hf
  cases k with
  | digit text =>
    obtain ⟨⟨b, e₁⟩, hd, he⟩ := map_eq_ok hp
    cases he
    refine hchanged ?_
    unfold Editor.digit at hd
    split at hd
    · cases hd
    · next d _ => exact Except.ok.inj hd ▸ faithful_digit d e
  | doubleZero =>
    cases hp
    exact hchanged (faithful_doubleZero e)
  | operator text =>
    obtain ⟨⟨b, e₁⟩, hd, he⟩ := map_eq_ok hp
    cases he
    refine hchanged ?_
    unfold Editor.operator at hd
    split at hd
    · cases hd
    · next o _ => exact Except.ok.inj hd ▸ faithful_operator h o
  | dot =>
    cases hp
    exact hchanged (faithful_dot e)
  | function key =>
    obtain ⟨⟨b, e₁⟩, hd, he⟩ := map_eq_ok hp
    cases he
    refine hchanged ?_
    unfold applyFunction at hd
    split at hd
    · cases hd
    · split at hd
      · exact Except.ok.inj hd ▸ faithful_same e
      · next o ho =>
        obtain ⟨c, -, hd⟩ := bind_eq_ok hd
        exact Except.ok.inj hd ▸ faithful_replaceLast h ho (applied_ne _ o c)
  | signFlip =>
    cases hp
    exact hchanged (faithful_signFlip h)
  | backspace =>
    cases hp
    rw [Reply.isNothing, Option.isNone_iff_eq_none]
    exact backspace_eq_none h
  | openParen =>
    cases hp
    exact hchanged (faithful_changed (openParen_ne e))
  | closeParen =>
    cases hp
    exact hchanged (faithful_closeParen e)
  | clear => exact absurd rfl hk
  | equals =>
    obtain ⟨⟨v, e₁⟩, hd, he⟩ := map_eq_ok hp
    cases he
    rw [Reply.isNothing, Option.isNone_iff_eq_none]
    exact equals_eq_none hd

end Editor

/-- No press half-changes the editor. Whatever it holds after presses that write in place, one that
fails leaves it as it was, and one that is answered says that nothing was done exactly where nothing
was. Only what clears it is silent about that. -/
theorem press_whole (keys : List Key) (k : Key) (hk : k ≠ .clear) :
    Edit.run keys = run keys ∧
      exec (Edit.press k) (Edit.run keys) = (run keys).press k ∧
      match exec (Edit.press k) (Edit.run keys) with
      | (.error _, e) => e = Edit.run keys
      | (.ok reply, e) => reply.isNothing = true ↔ e = Edit.run keys := by
  rw [Edit.run_eq, Edit.exec_press]
  refine ⟨rfl, rfl, ?_⟩
  unfold Editor.press
  cases hp : (run keys).press? k with
  | error err => exact rfl
  | ok p => exact press_faithful (sound_run keys) hk hp

/-- A division by zero is refused, and the division stands. -/
theorem press_whole_division :
    let keys : List Key := [.digit ['5'], .operator ['÷'], .digit ['0']]
    exec (Edit.press .equals) (Edit.run keys) =
      (.error (.eval .divisionByZero), Edit.run keys) := by
  intro keys
  have hfails : (exec (Edit.press .equals) (Edit.run keys)).1 =
      .error (.eval .divisionByZero) := by decide +kernel
  have h := (press_whole keys .equals (by decide)).2.2
  generalize exec (Edit.press .equals) (Edit.run keys) = left at hfails h ⊢
  obtain ⟨r, e⟩ := left
  obtain rfl : r = .error (.eval .divisionByZero) := hfails
  exact congrArg (Prod.mk _) h

end CovertVault.Keypad
