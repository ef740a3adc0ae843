import CovertVault.Proofs.Keypad.Negation
import CovertVault.Proofs.Keypad.WellFormed

namespace CovertVault.Keypad
open Formula Editor

def Operand.presses : Operand → Nat
  | .literal t => t.length
  | .applied _ o _ => o.presses + 1

def Token.presses : Token → Nat
  | .operand o => o.presses
  | _ => 1

def Editor.presses (e : Editor) : Nat := (e.tokens.map Token.presses).sum

variable {o : Operand}

theorem Operand.Sound.presses_pos (h : o.Sound) : 0 < o.presses := by
  cases h with
  | literal ht _ => exact List.length_pos_iff.2 ht
  | applied | negated => exact Nat.succ_pos _

theorem Token.Sound.presses_pos {t : Token} (h : t.Sound) : 0 < t.presses := by
  cases t with
  | operand o => exact Operand.Sound.presses_pos h
  | operator | opening | closing => exact Nat.one_pos

namespace Editor

variable {e : Editor}

theorem presses_eq (e : Editor) : e.presses = (e.trail.map Token.presses).sum := by
  rw [presses, tokens, List.map_reverse, List.sum_reverse]

theorem presses_withTrail (e : Editor) (t : Token) (r : List Token) :
    (e.withTrail (t :: r)).presses = t.presses + (e.withTrail r).presses := by
  simp only [presses_eq, withTrail, List.map_cons, List.sum_cons]

theorem withTrail_trail (e : Editor) : e.withTrail e.trail = e := rfl

theorem backspace_nil (he : e.trail = []) : e.backspace = (none, e) := by
  unfold backspace
  split
  · rfl
  · rw [he]

/-- A function on the newest operand is taken back. -/
theorem backspace_applied {fn : UnaryFn} {c : List Char} {r : List Token}
    (hn : e.afterEquals = false) (he : e.trail = .operand (.applied fn o c) :: r) :
    e.backspace = (some [fn.symbol], e.withTrail (.operand o :: r)) := by
  unfold backspace
  rw [if_neg (by simp [hn]), he]

/-- A function put on the newest operand is taken back, with all that it has changed. -/
theorem backspace_replaceLast (fn : UnaryFn) (c : List Char) {r : List Token}
    (hn : e.afterEquals = false) (he : e.trail = .operand o :: r) :
    (e.replaceLast (.applied fn o c)).backspace = (some [fn.symbol], e) := by
  have hn' : (e.replaceLast (.applied fn o c)).afterEquals = false := hn
  rw [backspace_applied hn' rfl, he]
  show (_, e.withTrail (.operand o :: r)) = _
  rw [← he, withTrail_trail]

theorem backspace_literal {t : List Char} {c : Char} {r : List Token} (hn : e.afterEquals = false)
    (he : e.trail = .operand (.literal (t ++ [c])) :: r) :
    e.backspace = (some [c], e.withTrail (if t = [] then r else .operand (.literal t) :: r)) := by
  unfold backspace
  rw [if_neg (by simp [hn]), he]
  simp

theorem backspace_token {t : Token} {r : List Token} (hn : e.afterEquals = false)
    (he : e.trail = t :: r) (ht : ∀ o, t ≠ .operand o) :
    e.backspace = (some t.marked, e.withTrail r) := by
  unfold backspace
  rw [if_neg (by simp [hn]), he]
  cases t with
  | operand o => exact absurd rfl (ht o)
  | operator | opening | closing => rfl

/-- A backspace takes one press away and says which character it was. -/
theorem Sound.presses_backspace (h : e.Sound) (hn : e.afterEquals = false) (he : e.trail ≠ []) :
    e.backspace.2.afterEquals = false ∧ e.backspace.2.presses + 1 = e.presses ∧
      ∃ c, e.backspace.1 = some [c] := by
  obtain ⟨t, r, htr⟩ := List.exists_cons_of_ne_nil he
  have hlaid := h.laid
  rw [htr] at hlaid
  have hp : e.presses = t.presses + (e.withTrail r).presses := by
    rw [← presses_withTrail, ← htr, withTrail_trail]
  -- The newest token goes as a whole, or it loses its outermost function or its last character.
  cases t with
  | operand o =>
    cases o with
    | literal t =>
      obtain rfl | ⟨t, c, rfl⟩ := List.eq_nil_or_concat' t
      · cases hlaid.sound with
        | literal ht _ => exact absurd rfl ht
      · rw [backspace_literal hn htr]
        refine ⟨hn, ?_, c, rfl⟩
        have hc : (Token.operand (.literal (t ++ [c]))).presses = t.length + 1 :=
          List.length_append
        rw [hp, hc]
        split
        · next ht =>
          rw [ht, List.length_nil, Nat.zero_add, Nat.add_comm]
        · rw [presses_withTrail, Nat.add_right_comm]
          rfl
    | applied fn o c =>
      rw [backspace_applied hn htr]
      refine ⟨hn, ?_, fn.symbol, rfl⟩
      have hf : (Token.operand (.applied fn o c)).presses = (Token.operand o).presses + 1 := rfl
      rw [hp, hf, presses_withTrail, Nat.add_right_comm]
  | operator op =>
    rw [backspace_token hn htr nofun]
    exact ⟨hn, (hp.trans (Nat.add_comm _ _)).symm, opSymbol op, rfl⟩
  | opening =>
    rw [backspace_token hn htr nofun]
    exact ⟨hn, (hp.trans (Nat.add_comm _ _)).symm, '(', rfl⟩
  | closing =>
    rw [backspace_token hn htr nofun]
    exact ⟨hn, (hp.trans (Nat.add_comm _ _)).symm, ')', rfl⟩

theorem Sound.presses_pos (h : e.Sound) (he : e.trail ≠ []) : 0 < e.presses := by
  obtain ⟨t, r, htr⟩ := List.exists_cons_of_ne_nil he
  have hlaid := h.laid
  rw [htr] at hlaid
  rw [presses_eq, htr, List.map_cons, List.sum_cons]
  exact Nat.add_pos_left (Token.Sound.presses_pos hlaid.2.1) _

theorem Sound.trail_nil_of_presses (h : e.Sound) (hp : e.presses = 0) : e.trail = [] := by
  by_contra he
  exact Nat.ne_of_gt (h.presses_pos he) hp

/-- A function that acts stands on the operand that it was pressed for. -/
theorem applyFunction_acts {key : FunctionKey} {e' : Editor}
    (h : e.applyFunction key = .ok (true, e')) :
    ∃ fn o c, key.fn? = some fn ∧ e.target? = some o ∧
      e' = (e.leaveEquals true).replaceLast (.applied fn o c) := by
  unfold applyFunction at h
  split at h
  · cases h
  · next fn hfn =>
    split at h
    · cases h
    · next o ho =>
      obtain ⟨c, -, h⟩ := bind_eq_ok h
      cases h
      exact ⟨fn, o, c, hfn, ho, rfl⟩

theorem run_append (keys more : List Key) :
    run (keys ++ more) = more.foldl (fun e k => (e.press k).2) (run keys) :=
  List.foldl_append

theorem run_backspaces_succ (keys : List Key) (n : Nat) :
    run (keys ++ List.replicate (n + 1) .backspace) =
      (run (keys ++ List.replicate n .backspace)).backspace.2 := by
  rw [List.replicate_succ', ← List.append_assoc, run_append]
  rfl

theorem presses_run_backspaces {keys : List Key} (hn : (run keys).afterEquals = false) (n : Nat) :
    (run (keys ++ List.replicate n .backspace)).afterEquals = false ∧
      (run (keys ++ List.replicate n .backspace)).presses = (run keys).presses - n := by
  induction n with
  | zero =>
    rw [List.replicate_zero, List.append_nil]
    exact ⟨hn, rfl⟩
  | succ n ih =>
    obtain ⟨hn', hp⟩ := ih
    have hs := sound_run (keys ++ List.replicate n .backspace)
    rw [run_backspaces_succ]
    -- On an empty expression a backspace does nothing, and no press is left to count.
    by_cases he : (run (keys ++ List.replicate n .backspace)).trail = []
    · have hz : (run (keys ++ List.replicate n .backspace)).presses = 0 := by
        rw [presses_eq, he]
        rfl
      rw [backspace_nil he]
      rw [hz] at hp
      exact ⟨hn', by dsimp only; omega⟩
    · obtain ⟨hn'', hp', -⟩ := hs.presses_backspace hn' he
      exact ⟨hn'', by omega⟩

end Editor

/-- Where no result is shown, backspace takes back a function that has acted, and a sign flip that
has wrapped an operand, with the whole expression as it was before and the sign of the function as
the answer. And pressed again and again it takes away one press at a time, through well-formed
expressions, until there are no tokens and nothing is left to take. -/
theorem backspace_run (keys : List Key) (hn : (run keys).afterEquals = false) :
    (∀ key e', (run keys).applyFunction key = .ok (true, e') →
      ∃ fn, key.fn? = some fn ∧ e'.backspace = (some [fn.symbol], run keys)) ∧
    (∀ fn o c r, (run keys).trail = .operand (.applied fn o c) :: r → fn ≠ .negate →
      (run keys).signFlip.1 = true ∧
        (run keys).signFlip.2.backspace = (some [UnaryFn.negate.symbol], run keys)) ∧
    ∀ n, (run (keys ++ List.replicate n .backspace)).WellFormed ∧
      (run (keys ++ List.replicate n .backspace)).presses = (run keys).presses - n ∧
      (n < (run keys).presses →
        (run (keys ++ List.replicate n .backspace)).tokens ≠ [] ∧
          ∃ c, (run (keys ++ List.replicate n .backspace)).backspace.1 = some [c]) ∧
      ((run keys).presses ≤ n →
        (run (keys ++ List.replicate n .backspace)).tokens = [] ∧
          (run (keys ++ List.replicate n .backspace)).backspace =
            (none, run (keys ++ List.replicate n .backspace))) := by
  refine ⟨fun key e' h => ?_, fun fn o c r he hf => ?_, fun n => ?_⟩
  · obtain ⟨fn, o, c, hfn, ho, rfl⟩ := applyFunction_acts h
    obtain ⟨-, r, he⟩ := (sound_run keys).target ho
    rw [leaveEquals_of_editing hn] at he ⊢
    exact ⟨fn, hfn, backspace_replaceLast fn c hn he⟩
  · have hflip : (run keys).signFlip =
        (true, (run keys).replaceLast (.applied .negate (.applied fn o c) (toggleSign c))) := by
      unfold Editor.signFlip
      rw [target_editing hn he rfl, leaveEquals_of_editing hn]
      cases fn with
      | negate => exact absurd rfl hf
      | sqrt | square | percent => rfl
    rw [hflip]
    exact ⟨rfl, backspace_replaceLast .negate _ hn he⟩
  · have hs := sound_run (keys ++ List.replicate n .backspace)
    obtain ⟨hn', hp⟩ := presses_run_backspaces hn n
    generalize run (keys ++ List.replicate n .backspace) = e at hs hn' hp
    refine ⟨hs.wellFormed, hp, fun hlt => ?_, fun hle => ?_⟩
    · -- With no tokens left there would be no press left to take back.
      have he : e.trail ≠ [] := by
        intro he
        rw [presses_eq, he, List.map_nil, List.sum_nil] at hp
        omega
      obtain ⟨-, -, hc⟩ := hs.presses_backspace hn' he
      exact ⟨by simpa [tokens] using he, hc⟩
    · have he : e.trail = [] := hs.trail_nil_of_presses (by omega)
      exact ⟨by rw [tokens, he, List.reverse_nil], backspace_nil he⟩

/-- A nested operand in a group that is left open: four characters, three functions, the group and
the operator and the number before it. -/
theorem backspace_nestedOperand :
    let keys : List Key := [.digit ['2'], .operator ['×'], .openParen, .digit ['1'], .digit ['6'],
      .dot, .digit ['0'], .function (.named ['√']), .signFlip, .function (.named ['²'])]
    (run keys).afterEquals = false ∧ (run keys).shownText = "2×(-√16.0²".toList ∧
      (run keys).presses = 10 ∧
      (run (keys ++ List.replicate 4 .backspace)).presses = 6 ∧
      (run (keys ++ List.replicate 10 .backspace)).tokens = [] ∧
      (run keys).signFlip.2.backspace = (some ['±'], run keys) := by
  intro keys
  have hn : (run keys).afterEquals = false := by decide +kernel
  have hpresses : (run keys).presses = 10 := by decide +kernel
  have htop : (run keys).trail.head? = some (.operand (.applied .square
      (.applied .negate (.applied .sqrt (.literal "16.0".toList) "4".toList) "-4".toList)
      "16".toList)) := by
    decide +kernel
  obtain ⟨r, he⟩ := List.head?_eq_some_iff.1 htop
  obtain ⟨-, hwrap, hdrain⟩ := backspace_run keys hn
  obtain ⟨-, hfour, -, -⟩ := hdrain 4
  obtain ⟨-, -, -, hall⟩ := hdrain 10
  rw [hpresses] at hfour
  exact ⟨hn, by decide +kernel, hpresses, hfour, (hall hpresses.le).1,
    (hwrap _ _ _ _ he (by decide)).2⟩

end CovertVault.Keypad
