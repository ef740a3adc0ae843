import CovertVault.Proofs.Calculator.Display

namespace CovertVault.Calculator
open Keypad Pin Text

/-- A number without its minus. -/
def unsigned : List Char → List Char
  | '-' :: t => t
  | t => t

/-- A buffer beside the text of a number: `k` zeros that are not shown, and digits from the end of
the number, which are all its digits if there are such zeros. The zeros are the `n` that were
replaced, unless five digits have been complete since then. -/
def Buffered (buffer text : List Char) (n : Nat) : Prop :=
  ∃ k ds, buffer = List.replicate k '0' ++ ds ∧ (∀ c ∈ ds, isAsciiDigit c = true) ∧ ds <:+ text ∧
    (0 < k → ds = unsigned text) ∧ k ≤ 3 ∧
    (n = k ∨ k = 0 ∧ ds ≠ [] ∧ (ds = unsigned text → (unsigned text).head? ≠ some '0'))

variable {b t : List Char} {d : Char} {n : Nat}

theorem ne_minus_of_digit (h : isAsciiDigit d = true) : d ≠ '-' := by
  rintro rfl
  cases h

theorem unsigned_snoc (t : List Char) (hd : isAsciiDigit d = true) :
    unsigned (t ++ [d]) = unsigned t ++ [d] := by
  cases t with
  | nil =>
    show unsigned [d] = [d]
    unfold unsigned
    split
    · next he => exact absurd (List.cons.inj he).1 (ne_minus_of_digit hd)
    · rfl
  | cons c t =>
    by_cases hc : c = '-'
    · subst hc
      rfl
    · unfold unsigned
      split
      · next he => exact absurd (List.cons.inj he).1 hc
      · split
        · next he => exact absurd (List.cons.inj he).1 hc
        · rfl

/-- Digits at the end of a number are behind its minus. -/
theorem suffix_unsigned {ds : List Char} (hs : ds <:+ t) (hd : ∀ c ∈ ds, isAsciiDigit c = true) :
    ds <:+ unsigned t := by
  unfold unsigned
  split
  · next r =>
    obtain rfl | hs := List.suffix_cons_iff.1 hs
    · exact absurd rfl (ne_minus_of_digit (hd '-' (.head _)))
    · exact hs
  · exact hs

theorem buffered_nil (t : List Char) : Buffered [] t 0 :=
  ⟨0, [], rfl, nofun, List.nil_suffix, nofun, by decide, .inl rfl⟩

/-- One digit more. -/
theorem Buffered.digit (h : Buffered b t n) (hd : isAsciiDigit d = true) :
    Buffered (b ++ [d]) (t ++ [d]) n := by
  obtain ⟨k, ds, rfl, hds, hs, hk, hk3, hn⟩ := h
  refine ⟨k, ds ++ [d], List.append_assoc _ _ _, ?_, ?_, fun h => ?_, hk3, ?_⟩
  · intro c hc
    obtain hc | hc := List.mem_append.1 hc
    · exact hds c hc
    · rwa [List.mem_singleton.1 hc]
  · obtain ⟨r, rfl⟩ := hs
    exact ⟨r, (List.append_assoc _ _ _).symm⟩
  · rw [hk h, unsigned_snoc t hd]
  · refine hn.imp_right fun ⟨hk, hne, hh⟩ => ⟨hk, by simp, ?_⟩
    rw [unsigned_snoc t hd]
    intro he
    have hu := List.append_cancel_right he
    obtain ⟨c, r, hc⟩ := List.exists_cons_of_ne_nil (hu ▸ hne)
    have hh := hh hu
    rw [hc] at hh ⊢
    exact hh

/-- Behind the last digit of five there may be one zero of a double one. -/
theorem buffered_zero (t : List Char) (n : Nat) : Buffered ['0'] (t ++ ['0', '0']) n := by
  refine ⟨0, ['0'], rfl, List.forall_mem_singleton.2 rfl, ⟨t ++ ['0'], by simp⟩, nofun,
    Nat.zero_le _, .inr ⟨rfl, by simp, ?_⟩⟩
  have hu : unsigned (t ++ ['0', '0']) = unsigned t ++ ['0', '0'] := by
    have h1 := unsigned_snoc (d := '0') t rfl
    have h2 := unsigned_snoc (d := '0') (t ++ ['0']) rfl
    simpa [h1] using h2
  intro he
  have hl := congrArg List.length (he.trans hu)
  simp at hl

/-- A digit takes the place of a lone zero on the screen, and comes behind it in the buffer. -/
theorem Buffered.replace (h : Buffered b t n) (hz : Editor.isLoneZero t = true)
    (hl : b.length + 1 < pinLength) (hd : isAsciiDigit d = true) (hd0 : d ≠ '0') :
    Buffered (b ++ [d]) (t.dropLast ++ [d]) (n + 1) := by
  obtain ⟨k, ds, rfl, hds, hs, hk, hk3, hn⟩ := h
  obtain ⟨hu, hu'⟩ : unsigned t = ['0'] ∧ unsigned (t.dropLast ++ [d]) = [d] := by
    rw [unsigned_snoc _ hd]
    obtain rfl | rfl : t = ['0'] ∨ t = ['-', '0'] := by simpa [Editor.isLoneZero] using hz
    · exact ⟨rfl, rfl⟩
    · exact ⟨rfl, rfl⟩
  have hd1 : ∀ c ∈ [d], isAsciiDigit c = true := List.forall_mem_singleton.2 hd
  obtain hdz | hdn : ds = [] ∨ ds = ['0'] := by
    have hs' := suffix_unsigned hs hds
    rw [hu] at hs'
    obtain he | hs' := List.suffix_cons_iff.1 hs'
    · exact .inr he
    · exact .inl (List.suffix_nil.1 hs')
  · -- Nothing was buffered, so the zero is not in the buffer.
    subst hdz
    have hk0 : k = 0 := by
      by_contra hne
      have he := hk (Nat.pos_of_ne_zero hne)
      rw [hu] at he
      cases he
    subst hk0
    refine ⟨0, [d], rfl, hd1, List.suffix_append _ _, nofun, by decide, .inr ⟨rfl, by simp, ?_⟩⟩
    rw [hu']
    intro _ he
    exact hd0 (Option.some.inj he)
  · -- The zero on the screen is buffered, and now counts among the zeros in front.
    subst hdn
    have hnk : n = k := hn.resolve_right fun ⟨_, _, hh⟩ => hh hu.symm (by rw [hu]; rfl)
    refine ⟨k + 1, [d], ?_, hd1, List.suffix_append _ _, fun _ => hu'.symm, ?_, .inl (by omega)⟩
    · rw [List.replicate_succ']
    · simp [pinLength] at hl
      omega

/-- The last character of the number is taken back, and so is the last digit. -/
theorem Buffered.pop (h : Buffered b t n) (ht : unsigned t ≠ []) (hb : b.dropLast ≠ []) :
    Buffered b.dropLast t.dropLast n := by
  obtain ⟨k, ds, rfl, hds, hs, hk, hk3, hn⟩ := h
  have hne : ds ≠ [] := by
    rintro rfl
    by_cases hk0 : k = 0
    · simp [hk0] at hb
    · exact ht (hk (Nat.pos_of_ne_zero hk0)).symm
  obtain ⟨ds, c, rfl⟩ := (List.eq_nil_or_concat' ds).resolve_left hne
  obtain ⟨r, rfl⟩ := hs
  have hc : isAsciiDigit c = true := hds c (by simp)
  rw [← List.append_assoc] at hk hn hb ⊢
  rw [unsigned_snoc _ hc] at hk hn
  rw [List.dropLast_concat] at hb
  rw [List.dropLast_concat, ← List.append_assoc, List.dropLast_concat]
  refine ⟨k, ds, rfl, fun c hc => hds c (List.mem_append_left _ hc), List.suffix_append _ _,
    fun h => List.append_cancel_right (hk h), hk3, hn.imp_right fun ⟨hk0, _, hh⟩ => ?_⟩
  have hds0 : ds ≠ [] := by simpa [hk0] using hb
  refine ⟨hk0, hds0, fun he => ?_⟩
  have hh := hh (congrArg (· ++ [c]) he)
  obtain ⟨x, xs, hx⟩ := List.exists_cons_of_ne_nil (he ▸ hds0)
  rw [hx] at hh ⊢
  exact hh

/-- The text of the number being typed; none if there is no such number. -/
def numberText : List Token → List Char
  | .operand (.literal t) :: _ => t
  | _ => []

/-- The newest token is an operand under a function, or it closes a group. -/
def isFactor : List Token → Bool
  | .operand (.applied ..) :: _ | .closing :: _ => true
  | _ => false

/-- A digit that takes the place of a lone zero on the screen. -/
def replacesZero (e : Editor) : Key → Bool
  | .digit text => (digitKey? text).any (· ≠ '0') && Editor.isLoneZero (numberText e.trail)
  | _ => false

variable {e : Editor}

theorem numberText_eq_nil {trail : List Token} (h : ∀ t r, trail ≠ .operand (.literal t) :: r) :
    numberText trail = [] := by
  unfold numberText
  split
  · next t r => exact absurd rfl (h t r)
  · rfl

/-- Behind a result there is no number, as there is none once it is left. -/
theorem trail_leaveEquals (h : e.Sound) : (e.leaveEquals false).trail = e.trail := by
  unfold Editor.leaveEquals
  split
  · next ha => rw [h.trail_nil ha]; rfl
  · rfl

theorem putDigit_number (e : Editor) (d : Char) :
    e.putDigit d = (false, e) ∧ d = '0' ∨
      (e.putDigit d).1 = true ∧ isFactor (e.putDigit d).2.trail = false ∧
        (Editor.isLoneZero (numberText e.trail) = true ∧ d ≠ '0' ∧
            numberText (e.putDigit d).2.trail = (numberText e.trail).dropLast ++ [d] ∨
          Editor.isLoneZero (numberText e.trail) = false ∧
            numberText (e.putDigit d).2.trail = numberText e.trail ++ [d]) := by
  unfold Editor.putDigit
  split
  · next t r he =>
    rw [he]
    split
    · next hz =>
      split
      · next hd => exact .inl ⟨rfl, hd⟩
      · next hd => exact .inr ⟨rfl, rfl, .inl ⟨hz, hd, rfl⟩⟩
    · next hz => exact .inr ⟨rfl, rfl, .inr ⟨Bool.eq_false_iff.2 hz, rfl⟩⟩
  · next hl =>
    rw [numberText_eq_nil hl]
    exact .inr ⟨rfl, rfl, .inr ⟨rfl, rfl⟩⟩

theorem doubleZero_number (h : e.Sound) :
    e.doubleZero.1 = false ∧ e.doubleZero.2.trail = e.trail ∨
      e.doubleZero.1 = true ∧ isFactor e.doubleZero.2.trail = false ∧
        numberText e.doubleZero.2.trail = numberText e.trail ++ ['0', '0'] := by
  have ht := trail_leaveEquals h
  unfold Editor.doubleZero
  dsimp only
  split
  · next t r he =>
    split
    · exact .inl ⟨rfl, ht⟩
    · rw [← ht, he]
      exact .inr ⟨rfl, rfl, rfl⟩
  · next hl =>
    rw [← ht, numberText_eq_nil hl]
    exact .inr ⟨rfl, rfl, rfl⟩

/-- Before a number there is no other number, and nothing that would be multiplied by it. -/
theorem before_number {r : List Token} (h : awaited r = .operand) :
    numberText r = [] ∧ isFactor r = false := by
  rcases r with _ | ⟨⟨o⟩ | o | _ | _, r⟩
  · exact ⟨rfl, rfl⟩
  · cases hb : o.isBareSign <;> simp [awaited, hb] at h
  · exact ⟨rfl, rfl⟩
  · exact ⟨rfl, rfl⟩
  · cases h

theorem unsigned_eq_nil (h : unsigned t = []) : t = [] ∨ t = ['-'] := by
  unfold unsigned at h
  split at h
  · rw [h]
    exact .inr rfl
  · exact .inl h

/-- A digit or a point is taken from a number, or it is the sign of a function. -/
theorem backspace_number (h : e.Sound) (hp : e.backspace.1.any Session.isNumberPart = true) :
    isFactor e.trail = true ∨ unsigned (numberText e.trail) ≠ [] ∧
      isFactor e.backspace.2.trail = false ∧
        numberText e.backspace.2.trail = (numberText e.trail).dropLast := by
  have hl := h.laid
  unfold Editor.backspace at hp ⊢
  split at hp
  · cases hp
  · next hn =>
    rw [if_neg hn]
    split at hp
    · cases hp
    · next t r he =>
      rw [he] at hl ⊢
      obtain ⟨hnil, hfac⟩ := before_number hl.awaited_operand
      refine .inr ⟨fun hu => ?_, ?_⟩
      · -- A bare sign is no digit.
        obtain rfl | rfl := unsigned_eq_nil hu
        · cases hp
        · have hm : Session.isNumberPart ['-'] = true := hp
          exact absurd hm (by decide)
      · dsimp only
        split
        · next hd => exact ⟨hfac, hnil.trans hd.symm⟩
        · exact ⟨rfl, rfl⟩
    · next he =>
      rw [he]
      exact .inl rfl
    · next w r hlit happ he =>
      have hw : Session.isNumberPart w.marked = true := hp
      rw [he]
      rcases w with ⟨t | ⟨fn, o, c⟩⟩ | o | _ | _
      · exact absurd rfl (hlit t)
      · exact absurd rfl (happ fn o c)
      · exact absurd hw (by cases o <;> decide)
      · exact absurd hw (by decide)
      · exact .inl rfl

/-- A buffer with one digit more: five are complete, and gone. -/
def putBuffer (b : List Char) (d : Char) : List Char :=
  if b.length + 1 < pinLength then b ++ [d] else []

theorem putBuffer_short (h : b.length + 1 < pinLength) : putBuffer b d = b ++ [d] := if_pos h

theorem putBuffer_full (h : pinLength ≤ b.length + 1) : putBuffer b d = [] :=
  if_neg (Nat.not_lt.2 h)

theorem buffer_feed (g : Guard) (d : Char) :
    (g.feed d).2.buffer = putBuffer g.buffer d ∧
      ((g.feed d).1 ≠ .ok none → (g.feed d).2.buffer = []) := by
  unfold Guard.feed putBuffer
  dsimp only
  rw [List.length_append, List.length_singleton]
  split
  · exact ⟨rfl, fun h => absurd rfl h⟩
  · split
    · exact ⟨rfl, fun _ => rfl⟩
    · exact ⟨rfl, fun _ => rfl⟩

/-- Digits are put into the buffer one by one, unless one of them ends the attempt. -/
theorem Session.buffer_feed (ds : List Char) (s : Session) : (s.feed ds).2.guard.buffer = [] ∨
    (s.feed ds).2.editor = s.editor ∧
      (s.feed ds).2.guard.buffer = ds.foldl putBuffer s.guard.buffer := by
  induction ds generalizing s with
  | nil => exact .inr ⟨editor_refresh s, congrArg _ (guard_refresh s)⟩
  | cons d ds ih =>
    obtain ⟨hb, hn⟩ := Calculator.buffer_feed s.guard d
    unfold feed
    split
    · next err g hf =>
      rw [hf] at hn
      exact .inl (hn (by simp))
    · exact .inl rfl
    · next g hf =>
      rw [hf] at hb
      rw [List.foldl_cons, ← hb]
      exact ih (s.withGuard g)

/-- The buffer beside the number on the screen, with `n` zeros replaced since it was empty. -/
structure Session.Follows (s : Session) (n : Nat) : Prop where
  short : s.guard.buffer.length < pinLength
  buffered : Buffered s.guard.buffer (numberText s.editor.trail) n
  factor : isFactor s.editor.trail = true → s.guard.buffer = []

namespace Session

variable {s : Session}

theorem follows_of_empty (hb : s.guard.buffer = []) : s.Follows 0 where
  short := by rw [hb]; decide
  buffered := by rw [hb]; exact buffered_nil _
  factor _ := hb

theorem Follows.of_eq (h : s.Follows n) {s' : Session} (ht : s'.editor.trail = s.editor.trail)
    (hb : s'.guard.buffer = s.guard.buffer) : s'.Follows n where
  short := by rw [hb]; exact h.short
  buffered := by rw [hb, ht]; exact h.buffered
  factor := by rw [hb, ht]; exact h.factor

/-- What is to be shown of a session that digits were fed to: it has the editor that they were put
into and the buffer with them, or an empty buffer. -/
theorem follows_feed {e : Editor} {ds : List Char}
    (h : ∀ s' : Session, s'.editor = e → s'.guard.buffer = ds.foldl putBuffer s.guard.buffer →
      s'.guard.buffer = [] ∨ s'.Follows n) :
    ((s.withEditor e).feed ds).2.guard.buffer = [] ∨ ((s.withEditor e).feed ds).2.Follows n :=
  (buffer_feed ds (s.withEditor e)).elim .inl fun ⟨he, hb⟩ => h _ he hb

/-- A digit that reaches the screen is put into the buffer. -/
theorem Follows.pressDigit (hs : s.editor.Sound) (h : s.Follows n) (text : List Char) :
    (s.pressDigit text).2.guard.buffer = [] ∨
      (s.pressDigit text).2.Follows (n + if replacesZero s.editor (.digit text) then 1 else 0) := by
  cases hk : digitKey? text with
  | none =>
    have hp : (s.pressDigit text).2 = s := by simp [Session.pressDigit, Editor.digit, hk]
    rw [hp]
    exact .inr (by simpa [replacesZero, hk] using h)
  | some d =>
    obtain rfl := eq_singleton_of_digitKey? hk
    have hd := isAsciiDigit_of_digitKey? hk
    have ht := trail_leaveEquals hs
    have hr : replacesZero s.editor (.digit [d]) =
        (decide (d ≠ '0') && Editor.isLoneZero (numberText s.editor.trail)) := by
      simp [replacesZero, hk]
    have hp : s.pressDigit [d] =
        (s.withEditor ((s.editor.leaveEquals false).putDigit d).2).feed
          (if ((s.editor.leaveEquals false).putDigit d).1 then [d] else []) := by
      simp [Session.pressDigit, Editor.digit, hk]
    rw [hp, hr]
    obtain ⟨hq, rfl⟩ | ⟨ha, hf, hn⟩ := putDigit_number (s.editor.leaveEquals false) d
    · rw [hq]
      exact follows_feed fun s' he hb => .inr (h.of_eq (by rw [he, ht]) hb)
    · rw [if_pos ha]
      rw [ht] at hn
      refine follows_feed fun s' he hb => ?_
      obtain hl | hl := Nat.lt_or_ge (s.guard.buffer.length + 1) pinLength
      · have hb' : s'.guard.buffer = s.guard.buffer ++ [d] := hb.trans (putBuffer_short hl)
        refine .inr ⟨by simpa [hb'] using hl, ?_, by simp [he, hf]⟩
        rw [hb', he]
        obtain ⟨hz, hd0, hn⟩ | ⟨hz, hn⟩ := hn
        · rw [hn, hz, decide_eq_true hd0]
          exact h.buffered.replace hz hl hd hd0
        · rw [hn, hz, Bool.and_false]
          exact h.buffered.digit hd
      · exact .inl (hb.trans (putBuffer_full hl))

/-- Two zeros on the screen, and in the buffer as far as they do not complete five digits. -/
theorem Follows.pressDoubleZero (hs : s.editor.Sound) (h : s.Follows n) :
    s.pressDoubleZero.2.guard.buffer = [] ∨ s.pressDoubleZero.2.Follows n := by
  have hp : s.pressDoubleZero = (s.withEditor s.editor.doubleZero.2).feed
      (if s.editor.doubleZero.1 then ['0', '0'] else []) := rfl
  rw [hp]
  obtain ⟨ha, ht⟩ | ⟨ha, hf, hn⟩ := doubleZero_number hs
  · rw [ha]
    exact follows_feed fun s' he hb => .inr (h.of_eq (by rw [he, ht]) hb)
  · rw [if_pos ha]
    refine follows_feed fun s' he hb => ?_
    have hfac : isFactor s'.editor.trail = true → s'.guard.buffer = [] := by
      rw [he, hf]
      nofun
    have hput : s'.guard.buffer = putBuffer (putBuffer s.guard.buffer '0') '0' := hb
    obtain hl | hl := Nat.lt_or_ge (s.guard.buffer.length + 1) pinLength
    · rw [putBuffer_short hl] at hput
      obtain hl' | hl' := Nat.lt_or_ge ((s.guard.buffer ++ ['0']).length + 1) pinLength
      · rw [putBuffer_short hl'] at hput
        refine .inr ⟨by simpa [hput] using hl', ?_, hfac⟩
        have hz := (h.buffered.digit (d := '0') rfl).digit (d := '0') rfl
        rw [hput, he, hn]
        simpa using hz
      · exact .inl (hput.trans (putBuffer_full hl'))
    · -- The first zero completes five digits, and the second one is alone in the buffer.
      rw [putBuffer_full hl, putBuffer_short (by decide)] at hput
      refine .inr ⟨by rw [hput]; decide, ?_, hfac⟩
      rw [hput, he, hn]
      exact buffered_zero _ n

/-- A digit or a point is taken from the screen, and a digit from the buffer; what else is taken
back empties it. -/
theorem Follows.pressBackspace (hs : s.editor.Sound) (h : s.Follows n) :
    s.pressBackspace.2.guard.buffer = [] ∨ s.pressBackspace.2.Follows n := by
  have he : s.pressBackspace.2.editor = s.editor.backspace.2 := editor_refresh _
  have hg : s.pressBackspace.2.guard =
      if s.editor.backspace.1.any isNumberPart then s.guard.dropLast else s.guard.reset :=
    guard_refresh _
  by_cases hp : s.editor.backspace.1.any isNumberPart = true
  · rw [if_pos hp] at hg
    have hb : s.pressBackspace.2.guard.buffer = s.guard.buffer.dropLast := by rw [hg]; rfl
    by_cases hb0 : s.guard.buffer.dropLast = []
    · exact .inl (hb.trans hb0)
    · obtain hf | ⟨hu, hf, hn⟩ := backspace_number hs hp
      · rw [h.factor hf] at hb
        exact .inl hb
      · refine .inr ⟨?_, ?_, by simp [he, hf]⟩
        · have hl := h.short
          rw [hb, List.length_dropLast]
          omega
        · rw [hb, he, hn]
          exact h.buffered.pop hu hb0
  · rw [if_neg hp] at hg
    exact .inl (by rw [hg]; rfl)

theorem sound_press (h : s.editor.Sound) (now : Time.Present) (key : Key) (store : Store) :
    (s.press now key store).2.1.editor.Sound := by
  obtain he | he := s.editor_press now key store
  · rw [he]
    exact h.press key
  · rw [he]
    exact sound_empty

/-- Behind a value the buffer is empty, and stays so whatever is taken back. -/
theorem Follows.guard_pressBackspace (h : s.Follows n) (hf : isFactor s.editor.trail = true) :
    s.pressBackspace.2.guard = s.guard := by
  have hb := h.factor hf
  obtain ⟨editor, ⟨digest, buffer⟩, line, display⟩ := s
  obtain rfl : buffer = [] := hb
  unfold Session.pressBackspace
  dsimp only
  rw [guard_refresh]
  split <;> rfl

theorem buffer_pressOther (key : Key) (s : Session) : (s.pressOther key).2.guard.buffer = [] := by
  unfold pressOther
  dsimp only
  split
  · rfl
  · rw [guard_refresh]
    rfl

theorem buffer_pressEquals (now : Time.Present) (s : Session) (store : Store) :
    (s.pressEquals now store).2.1.guard.buffer = [] := by
  unfold pressEquals
  dsimp only
  split
  · rfl
  · rfl
  · split
    · rfl
    · split <;> rfl

/-- Every key keeps the buffer beside the number. Only a digit can replace a zero. -/
theorem Follows.press (hs : s.editor.Sound) (h : s.Follows n) (now : Time.Present) (key : Key)
    (store : Store) : (s.press now key store).2.1.guard.buffer = [] ∨
      (s.press now key store).2.1.Follows (n + if replacesZero s.editor key then 1 else 0) := by
  cases key with
  | digit text => exact h.pressDigit hs text
  | doubleZero => exact h.pressDoubleZero hs
  | backspace => exact h.pressBackspace hs
  | equals => exact .inl (buffer_pressEquals now s store)
  | _ => exact .inl (buffer_pressOther _ s)

end Session

namespace Desk

/-- The zeros that digits have replaced on the screen since the buffer was last empty, if there were
`n` before. -/
def replaced : Desk → Nat → List (Time.Present × Key) → Nat
  | _, n, [] => n
  | d, n, p :: presses =>
    (d.press p).replaced (if (d.press p).session.guard.buffer = [] then 0
      else n + if replacesZero d.session.editor p.2 then 1 else 0) presses

theorem follows_after {d : Desk} (hs : d.session.editor.Sound) (h : d.session.Follows n)
    (presses : List (Time.Present × Key)) : (d.after presses).session.editor.Sound ∧
      (d.after presses).session.Follows (d.replaced n presses) := by
  induction presses generalizing d n with
  | nil => exact ⟨hs, h⟩
  | cons p presses ih =>
    refine ih (d := d.press p) (Session.sound_press hs p.1 p.2 d.store) ?_
    have hp := h.press hs p.1 p.2 d.store
    -- An attempt that came to its end leaves an empty buffer, and the count of zeros starts anew.
    split
    · next hb => exact Session.follows_of_empty hb
    · next hb => exact hp.resolve_left hb

/-- After any presses, those that fail or unlock included. -/
theorem follows_ofDigest (digest : Option String) (store : Store)
    (presses : List (Time.Present × Key)) :
    ((ofDigest digest store).after presses).session.editor.Sound ∧
      ((ofDigest digest store).after presses).session.Follows
        ((ofDigest digest store).replaced 0 presses) :=
  follows_after sound_empty (Session.follows_of_empty rfl) presses

/-- While no number is being typed, the guard has buffered nothing but a zero for each zero that a
digit has replaced on the screen since the buffer was last empty: at most three, and none behind an
operand under a function or a closed group. -/
theorem buffer_without_number (digest : Option String) (store : Store)
    (presses : List (Time.Present × Key))
    (h : ∀ t, ((ofDigest digest store).after presses).session.editor.tokens.getLast? ≠
      some (.operand (.literal t))) :
    ((ofDigest digest store).after presses).session.guard.buffer =
        List.replicate ((ofDigest digest store).replaced 0 presses) '0' ∧
      (ofDigest digest store).replaced 0 presses ≤ 3 ∧
      (isFactor ((ofDigest digest store).after presses).session.editor.trail = true →
        ((ofDigest digest store).after presses).session.guard.buffer = []) := by
  have hf := (follows_ofDigest digest store presses).2
  generalize (ofDigest digest store).after presses = d at h hf
  generalize (ofDigest digest store).replaced 0 presses = n at hf
  have hn : numberText d.session.editor.trail = [] := by
    refine numberText_eq_nil fun t r he => h t ?_
    rw [Editor.tokens, he]
    simp
  obtain ⟨k, ds, hb, -, hs, -, hk3, hnk⟩ := hf.buffered
  rw [hn] at hs
  obtain rfl := List.suffix_nil.1 hs
  obtain rfl : n = k := hnk.resolve_right fun ⟨_, hne, _⟩ => hne rfl
  exact ⟨by rw [hb, List.append_nil], hk3, hf.factor⟩

/-- A zero, a digit in its place, and that digit taken back. -/
def takenBack : List (Time.Present × Key) :=
  [.digit ['0'], .digit ['5'], .backspace].map (.ok "", ·)

/-- Done twice, it leaves two zeros. -/
theorem buffer_takenBack_twice :
    (∀ t, ((ofDigest none .empty).after (takenBack ++ takenBack)).session.editor.tokens.getLast? ≠
        some (.operand (.literal t))) ∧
      ((ofDigest none .empty).after (takenBack ++ takenBack)).session.guard.buffer =
        ['0', '0'] := by
  have ht : ∀ t, ((ofDigest none .empty).after
      (takenBack ++ takenBack)).session.editor.tokens.getLast? ≠ some (.operand (.literal t)) :=
    fun _ => nofun
  exact ⟨ht, (buffer_without_number none .empty (takenBack ++ takenBack) ht).1.trans rfl⟩

/-- A zero is left of a number that is not there any more. -/
theorem takenBack_buffered : ((ofDigest none .empty).after takenBack).session.editor.tokens = [] ∧
    ((ofDigest none .empty).after takenBack).session.guard.buffer = ['0'] := by
  decide

end Desk

/-- How the buffer stands beside the number on the screen. It holds zeros and digits from the end of
the number, all of them if there are such zeros; nothing where the expression ends in a function or
a closed group, and there backspace takes no digit. -/
structure Session.BesideNumber (s : Session) : Prop where
  short : s.guard.buffer.length < 5
  digits : ∃ zeros ds, s.guard.buffer = List.replicate zeros '0' ++ ds ∧
    (∀ c ∈ ds, isAsciiDigit c = true) ∧ ds <:+ numberText s.editor.trail ∧
      (0 < zeros → ds = unsigned (numberText s.editor.trail))
  factor : isFactor s.editor.trail = true →
    s.guard.buffer = [] ∧ s.pressBackspace.2.guard = s.guard

/-- The buffer after any presses, those that fail or unlock included. -/
theorem Desk.besideNumber_after (digest : Option String) (store : Store)
    (presses : List (Time.Present × Key)) :
    ((Desk.ofDigest digest store).after presses).session.BesideNumber := by
  have hf := (follows_ofDigest digest store presses).2
  obtain ⟨k, ds, hb, hd, hs, hk, -, -⟩ := hf.buffered
  exact ⟨hf.short, ⟨k, ds, hb, hd, hs, hk⟩,
    fun h => ⟨hf.factor h, hf.guard_pressBackspace h⟩⟩

end CovertVault.Calculator
