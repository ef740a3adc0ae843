import CovertVault.Proofs.Formula.Finite
import CovertVault.Proofs.Keypad.Origins
import CovertVault.Proofs.Keypad.Reading

namespace CovertVault.Keypad
open Formula Editor Number Text

/-- A number while it is typed, or a result of whose end any part is taken away. Only results are
written with an exponent. -/
inductive Draft : Bool → List Char → Prop
  | whole {b : Bool} {ds : List Char} : IsDigits ds → Draft b ds
  | pointed {b : Bool} {ds fs : List Char} : IsDigits ds → (∀ c ∈ fs, isDecimal c = true) →
      Draft b (ds ++ '.' :: fs)
  | scientific {ds fs sign xs : List Char} : IsDigits ds → (∀ c ∈ fs, isDecimal c = true) →
      sign = [] ∨ sign = ['+'] → (∀ c ∈ xs, isDecimal c = true) →
      Draft true (ds ++ '.' :: (fs ++ 'E' :: (sign ++ xs)))

/-- The same with a sign, or a sign alone. -/
def Written (b : Bool) (t : List Char) : Prop :=
  t = ['-'] ∨ ∃ negative s, t = signText negative ++ s ∧ Draft b s

variable {b : Bool} {s t : List Char} {d : Char}

theorem forall_mem_snoc {ds : List Char} (h : ∀ c ∈ ds, isDecimal c = true)
    (hd : isAsciiDigit d = true) : ∀ c ∈ ds ++ [d], isDecimal c = true := by
  intro c hc
  obtain hc | hc := List.mem_append.1 hc
  · exact h c hc
  · rw [List.mem_singleton.1 hc]
    exact isDecimal_ascii hd

theorem Draft.digit (h : Draft b s) (hd : isAsciiDigit d = true) : Draft b (s ++ [d]) := by
  cases h with
  | whole h => exact .whole ⟨by simp, forall_mem_snoc h.2 hd⟩
  | pointed h hf =>
    rw [List.append_assoc, List.cons_append]
    exact .pointed h (forall_mem_snoc hf hd)
  | scientific h hf hs hx =>
    have hc := Draft.scientific h hf hs (forall_mem_snoc hx hd)
    simpa using hc

theorem Draft.point (h : Draft b s) (hp : '.' ∉ s) : Draft b (s ++ ['.']) := by
  cases h with
  | whole h => exact .pointed h nofun
  | pointed | scientific => simp at hp

theorem Draft.head (h : Draft b s) : ∃ c r, s = c :: r ∧ isDecimal c = true := by
  cases h with
  | whole h =>
    rw [← List.append_nil s]
    exact h.head []
  | pointed h | scientific h => exact h.head _

theorem forall_mem_dropLast {ds : List Char} (h : ∀ c ∈ ds, isDecimal c = true) :
    ∀ c ∈ ds.dropLast, isDecimal c = true := fun c hc => h c ((List.dropLast_sublist ds).mem hc)

theorem Draft.cut (h : Draft b s) (hn : s.dropLast ≠ []) : Draft b s.dropLast := by
  cases h with
  | whole h => exact .whole ⟨hn, forall_mem_dropLast h.2⟩
  | @pointed _ ds fs h hf =>
    rw [List.dropLast_append_of_ne_nil (by simp)]
    cases fs with
    | nil => simpa using Draft.whole h
    | cons c fs => exact .pointed h (forall_mem_dropLast hf)
  | @scientific ds fs sign xs h hf hs hx =>
    -- What is cut is a digit of the exponent, its sign or its mark.
    rw [List.dropLast_append_of_ne_nil (by simp), List.dropLast_cons_of_ne_nil (by simp),
      List.dropLast_append_of_ne_nil (by simp)]
    cases xs with
    | cons x xs =>
      rw [List.dropLast_cons_of_ne_nil (by simp), List.dropLast_append_of_ne_nil (by simp)]
      exact .scientific h hf hs (forall_mem_dropLast hx)
    | nil =>
      obtain rfl | rfl := hs
      · simpa using Draft.pointed h hf
      · have hc : Draft true (ds ++ '.' :: (fs ++ 'E' :: ([] ++ []))) :=
          .scientific h hf (.inl rfl) nofun
        exact hc

theorem draft_of_result (h : IsResult s) : Draft true s := by
  cases h with
  | whole h => exact .whole h
  | pointed h hf => exact .pointed h hf.2
  | @scientific ds fs xs h hf hx =>
    have hd : Draft true (ds ++ '.' :: (fs ++ 'E' :: (['+'] ++ xs))) :=
      .scientific h hf.2 (.inr rfl) hx.2
    exact hd

theorem Draft.written (h : Draft b s) (negative : Bool) : Written b (signText negative ++ s) :=
  .inr ⟨negative, s, rfl, h⟩

theorem Draft.head_ne (h : Draft b s) : s.head? ≠ some '-' := by
  obtain ⟨c, r, rfl, hc⟩ := h.head
  intro he
  cases he
  revert hc
  decide

theorem toggleSign_draft (h : Draft b s) (negative : Bool) :
    toggleSign (signText negative ++ s) = signText (!negative) ++ s := by
  cases negative with
  | true => rfl
  | false => exact toggleSign_unsigned h.head_ne

theorem isDigits_single (hd : isAsciiDigit d = true) : IsDigits [d] :=
  ⟨by simp, List.forall_mem_singleton.2 (isDecimal_ascii hd)⟩

theorem typing_written : Typing Written where
  first hd := (Draft.whole (isDigits_single hd)).written false
  minus := .inl rfl
  digit h hd := by
    obtain rfl | ⟨negative, s, rfl, hs⟩ := h
    · exact (Draft.whole (isDigits_single hd)).written true
    · rw [List.append_assoc]
      exact (hs.digit hd).written negative
  point h hp hm := by
    obtain rfl | ⟨negative, s, rfl, hs⟩ := h
    · exact absurd rfl hm
    · rw [List.append_assoc]
      exact (hs.point fun hc => hp (List.mem_append_right _ hc)).written negative
  cut h hn := by
    obtain rfl | ⟨negative, s, rfl, hs⟩ := h
    · exact absurd rfl hn
    · obtain ⟨c, r, rfl, -⟩ := hs.head
      rw [List.dropLast_append_of_ne_nil (by simp)] at hn ⊢
      by_cases hr : (c :: r).dropLast = []
      · -- The only digit is cut off, and what is left is the sign.
        cases negative with
        | false => exact absurd (by simp [hr, signText]) hn
        | true => exact .inl (by simp [hr, signText])
      · exact (hs.cut hr).written negative
  flip h hm := by
    obtain rfl | ⟨negative, s, rfl, hs⟩ := h
    · exact absurd rfl hm
    · rw [toggleSign_draft hs]
      exact hs.written _
  result h := by
    obtain ⟨d, hd⟩ := formatNumber_of_evaluate h
    obtain ⟨negative, s, hs, hr⟩ := exactText_eq d
    rw [hd, hs]
    exact (draft_of_result hr).written negative

namespace Editor

/-- The numbers after any sequence of key presses. -/
theorem originates_run (keys : List Key) : (run keys).Originates Written := by
  have hpress (e : Editor) (k : Key) (h : e.Originates Written ∧ e.Sound) :
      (e.press k).2.Originates Written ∧ (e.press k).2.Sound := by
    refine ⟨press_of_pressed h.1 fun _ hp => h.1.pressed typing_written ?_ hp, h.2.press k⟩
    intro hc
    -- No result is a sign alone.
    cases result_not_bare (h.2.carried _ hc)
  exact (run_induction ⟨originates_empty, sound_empty⟩ hpress keys).1

end Editor

/-- A number is complete, or it has the mark of an exponent at its end, or a plus behind that. -/
theorem Draft.isNumber_or (h : Draft b s) : IsNumber s ∨ b = true ∧ ∃ m sign,
    s = m ++ 'E' :: sign ∧ IsSignificand m ∧ (sign = [] ∨ sign = ['+']) := by
  cases h with
  | whole h => exact .inl (IsSignificand.whole h).isNumber
  | pointed h hf => exact .inl (IsSignificand.pointed h hf).isNumber
  | @scientific ds fs sign xs h hf hs hx =>
    by_cases hn : xs = []
    · subst hn
      exact .inr ⟨rfl, ds ++ '.' :: fs, sign, by simp, .pointed h hf, hs⟩
    · have hs' : sign = [] ∨ sign = ['+'] ∨ sign = ['-'] := hs.imp_right .inl
      exact .inl ⟨ds ++ '.' :: fs, 'E' :: (sign ++ xs), .pointed h hf,
        .present (.inr rfl) hs' ⟨hn, hx⟩, by simp⟩

theorem Typed.cons {t : Token} {r : List Token} (h : Typed r)
    (ht : ∀ s, t = .operand (.literal s) → s ≠ ['-'] → IsSignedNumber s) : Typed (t :: r) := by
  intro s hs hn
  obtain hs | hs := List.mem_cons.1 hs
  · exact ht s hs.symm hn
  · exact h s hs hn

/-- Of the numbers only the oldest may be unfinished. -/
theorem typed_or_unfinished {trail : List Token} (h : Originate Written trail) :
    Typed trail ∨ ∃ newer negative m sign, Typed newer ∧ IsSignificand m ∧
      (sign = [] ∨ sign = ['+']) ∧
        trail = newer ++ [.operand (.literal (signText negative ++ (m ++ 'E' :: sign)))] := by
  induction trail with
  | nil => exact .inl nofun
  | cons t r ih =>
    obtain ⟨ht, hr⟩ := h
    have hw (s : List Char) (hs : t = .operand (.literal s)) : Written r.isEmpty s := ht _ hs
    obtain hr | ⟨newer, negative, m, sign, hn, hm, hs, rfl⟩ := ih hr
    · -- The newest number is complete, or it is the oldest one as well and a cut result.
      by_cases hc : ∀ s, t = .operand (.literal s) → s ≠ ['-'] → IsSignedNumber s
      · exact .inl (hr.cons hc)
      · simp only [not_forall, exists_prop] at hc
        obtain ⟨s, rfl, hm, hns⟩ := hc
        obtain rfl | ⟨negative, s, rfl, hd⟩ := hw s rfl
        · exact absurd rfl hm
        · obtain hd | ⟨hb, m, sign, rfl, hm, hs⟩ := hd.isNumber_or
          · exact absurd (hd.signed negative) hns
          · obtain rfl := List.isEmpty_iff.1 hb
            exact .inr ⟨[], negative, m, sign, nofun, hm, hs, rfl⟩
    · refine .inr ⟨t :: newer, negative, m, sign, hn.cons fun s hst hm => ?_, hm, hs, rfl⟩
      obtain rfl | ⟨negative, s, rfl, hd⟩ := hw s hst
      · exact absurd rfl hm
      · obtain hd | ⟨hb, -⟩ := hd.isNumber_or
        · exact hd.signed negative
        · simp at hb

end CovertVault.Keypad
