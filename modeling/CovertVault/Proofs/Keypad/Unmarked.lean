import CovertVault.Proofs.Formula.ResultText
import CovertVault.Proofs.Keypad.Origins

namespace CovertVault.Keypad
open Formula Editor Text

/-- No arrow among what is typed in an operand. -/
def Operand.Unmarked : Operand → Prop
  | .literal t => '→' ∉ t
  | .applied _ o _ => o.Unmarked

def Token.Unmarked : Token → Prop
  | .operand o => o.Unmarked
  | _ => True

structure Editor.Unmarked (e : Editor) : Prop where
  trail : ∀ t ∈ e.trail, t.Unmarked
  carry : ∀ c, e.carry = some c → '→' ∉ c

theorem IsDigits.unmarked {s : List Char} (h : ∀ c ∈ s, isDecimal c = true) : '→' ∉ s := by
  intro hm
  have ha := h _ hm
  revert ha
  decide

theorem IsNumber.unmarked {s : List Char} (h : IsNumber s) : '→' ∉ s := by
  obtain ⟨significand, exponent, hs, he, rfl⟩ := h
  have hs' : '→' ∉ significand := by
    cases hs with
    | whole h => exact IsDigits.unmarked h.2
    | pointed h hf => simp [IsDigits.unmarked h.2, IsDigits.unmarked hf]
    | fraction h => simp [IsDigits.unmarked h.2]
  have he' : '→' ∉ exponent := by
    cases he with
    | absent => simp
    | present hm hg hd =>
      have := IsDigits.unmarked hd.2
      obtain rfl | rfl := hm <;> obtain rfl | rfl | rfl := hg <;> simp [this]
  simp [hs', he']

/-- No result holds an arrow. -/
theorem unmarked_formatNumber (v : Float) : '→' ∉ formatNumber v := by
  by_cases hr : formatNumber v = errorText
  · rw [hr]
    decide
  · obtain h | ⟨r, hr, h⟩ := isSignedNumber_formatNumber hr
    · exact IsNumber.unmarked h
    · rw [hr]
      simp [IsNumber.unmarked h]

theorem Operand.Unmarked.shown {o : Operand} (h : o.Unmarked) : '→' ∉ o.shown := by
  induction o with
  | literal t => exact h
  | applied fn o c ih =>
    have ho := ih h
    cases fn with
    | sqrt => simp [Operand.shown, ho]
    | square | percent => simp [Operand.shown, UnaryFn.symbol, ho]
    | negate =>
      unfold Operand.shown
      split <;> simp [ho]

theorem Token.Unmarked.shown {t : Token} (h : t.Unmarked) : '→' ∉ t.shown := by
  cases t with
  | operand o => exact Operand.Unmarked.shown h
  | operator o => cases o <;> decide
  | opening | closing => decide

theorem Editor.Unmarked.shownText {e : Editor} (h : e.Unmarked) : '→' ∉ e.shownText := by
  intro hm
  obtain ⟨t, ht, hm⟩ := List.mem_flatMap.1 hm
  exact (h.trail t (List.mem_reverse.1 ht)).shown hm

/-- No arrow comes into a number under the keys. -/
theorem typing_unmarked : Typing fun _ t => '→' ∉ t where
  first hd := by
    intro hm
    obtain rfl := List.mem_singleton.1 hm
    cases hd
  minus := by decide
  digit ht hd := by
    rw [List.mem_append, not_or]
    refine ⟨ht, fun hm => ?_⟩
    obtain rfl := List.mem_singleton.1 hm
    cases hd
  point ht _ _ := by simpa using ht
  cut ht _ hm := ht ((List.dropLast_sublist _).mem hm)
  flip ht _ := by
    unfold toggleSign
    split
    · exact fun hm => ht (List.mem_cons_of_mem _ hm)
    · simpa using ht
  result _ := unmarked_formatNumber _

theorem unmarked_origin (o : Operand) : o.Unmarked ↔ '→' ∉ o.origin := by
  induction o with
  | literal t => exact .rfl
  | applied fn o c ih => exact ih

theorem originate_unmarked (trail : List Token) :
    Originate (fun _ t => '→' ∉ t) trail ↔ ∀ t ∈ trail, t.Unmarked := by
  induction trail with
  | nil => simp [Originate]
  | cons t r ih =>
    rw [Originate, ih, List.forall_mem_cons]
    refine and_congr_left fun _ => ?_
    cases t with
    | operand o => simp [Token.Unmarked, unmarked_origin]
    | operator | opening | closing => simp [Token.Unmarked]

namespace Editor

variable {e : Editor}

theorem unmarked_iff : e.Unmarked ↔ e.Originates fun _ t => '→' ∉ t :=
  ⟨fun h => ⟨(originate_unmarked _).2 h.trail, h.carry⟩,
    fun h => ⟨(originate_unmarked _).1 h.trail, h.carry⟩⟩

theorem unmarked_empty : empty.Unmarked := ⟨by simp [empty], by simp [empty]⟩

/-- A key press puts no arrow into the expression, whatever it answers. -/
theorem Unmarked.press (h : e.Unmarked) (k : Key) : (e.press k).2.Unmarked :=
  press_of_pressed h fun _ hp =>
    unmarked_iff.2 ((unmarked_iff.1 h).pressed typing_unmarked (fun _ => by simp) hp)

end Editor

end CovertVault.Keypad
