import CovertVault.Backup.Program
import CovertVault.Proofs.Number.Digits
import Mathlib.Logic.Function.Basic

namespace CovertVault.Backup

structure Holding where
  object? : Place → Option Object
  /-- Tags that were given out. -/
  issued : String → Prop

namespace Holding

def hold (h : Holding) (p : Place) (o : Object) : Holding :=
  ⟨Function.update h.object? p (some o), fun tag => h.issued tag ∨ tag = o.tag⟩

def drop (h : Holding) (p : Place) : Holding := ⟨Function.update h.object? p none, h.issued⟩

@[simp] theorem hold_self (h : Holding) (p : Place) (o : Object) :
    (h.hold p o).object? p = some o := Function.update_self _ _ _

@[simp] theorem drop_self (h : Holding) (p : Place) : (h.drop p).object? p = none :=
  Function.update_self _ _ _

end Holding

/-- A new tag is told or not. -/
def Tells (told : Option String) (tag : String) : Prop := told = none ∨ told = some tag

/-- What may come of a call. -/
inductive Serves (h : Holding) : Call → Except Failure Reply → Holding → Prop
  | failed (c : Call) (f : Failure) : Serves h c (.error f) h
  | got {p : Place} {o : Object} : h.object? p = some o →
      Serves h (.get p) (.ok ⟨o.body, some o.tag⟩) h
  | stored {p : Place} {body : Bytes} {tag : String} {told : Option String} :
      ¬h.issued tag → Tells told tag →
      Serves h (.put p body) (.ok ⟨[], told⟩) (h.hold p ⟨body, tag⟩)
  | copied {target source : Place} {old o : Object} {tag : String} {told : Option String} :
      h.object? target = some old → h.object? source = some o →
      ¬h.issued tag → Tells told tag →
      Serves h (.copy target source old.tag) (.ok ⟨[], told⟩) (h.hold target ⟨o.body, tag⟩)
  | deleted (p : Place) : Serves h (.delete p) (.ok ⟨[], none⟩) (h.drop p)

/-- The place that a call changes. -/
def Call.target? : Call → Option Place
  | .get _ => none
  | .put p _ | .copy p _ _ | .delete p => some p

namespace Serves
variable {h h' : Holding} {c : Call} {reply : Except Failure Reply} {p : Place}

/-- Elsewhere everything stays as it was. -/
theorem frame (hs : Serves h c reply h') (hp : c.target? ≠ some p) :
    h'.object? p = h.object? p := by
  cases hs with
  | failed | got => rfl
  | stored | copied | deleted =>
    exact Function.update_of_ne (fun he => hp (congrArg some he.symm)) _ _

theorem failure {f : Failure} (hs : Serves h c (.error f) h') : h' = h := by
  cases hs
  rfl

/-- What was given out stays given out. -/
theorem issued (hs : Serves h c reply h') {tag : String} (ht : h.issued tag) : h'.issued tag := by
  cases hs with
  | failed | got | deleted => exact ht
  | stored | copied => exact .inl ht

/-- An object is where it was, or it has a new tag. -/
theorem tag_new (hs : Serves h c reply h') {o : Object} (ho : h'.object? p = some o) :
    h.object? p = some o ∨ ¬h.issued o.tag ∧ h'.issued o.tag := by
  by_cases hp : c.target? = some p
  · cases hs with
    | failed | got => exact .inl ho
    | stored hnew =>
      cases hp
      rw [Holding.hold_self] at ho
      cases ho
      exact .inr ⟨hnew, .inr rfl⟩
    | copied _ _ hnew =>
      cases hp
      rw [Holding.hold_self] at ho
      cases ho
      exact .inr ⟨hnew, .inr rfl⟩
    | deleted =>
      cases hp
      rw [Holding.drop_self] at ho
      cases ho
  · rw [hs.frame hp] at ho
    exact .inl ho

end Serves

namespace Bucket

def tag (n : Nat) : String := "\"e" ++ String.ofList (Number.natText n) ++ "\""

theorem tag_injective : Function.Injective tag := by
  intro m n h
  have hl : ("\"e" ++ String.ofList (Number.natText m) ++ "\"").toList =
      ("\"e" ++ String.ofList (Number.natText n) ++ "\"").toList := congrArg String.toList h
  simp only [String.toList_append, String.toList_ofList, List.append_cancel_right_eq,
    List.append_cancel_left_eq] at hl
  exact Number.natText_injective hl

/-- What a bucket holds. -/
def holding (b : Bucket) : Holding := ⟨b.find?, fun t => ∃ n ≤ b.issued, t = tag n⟩

variable {b : Bucket}

theorem not_issued_nextTag (b : Bucket) : ¬b.holding.issued b.nextTag := by
  rintro ⟨n, hn, ht⟩
  have := tag_injective (ht : tag (b.issued + 1) = tag n)
  omega

theorem lookup_cons_if (p q : Place) (o : Object) (objects : List (Place × Object)) :
    ((p, o) :: objects).lookup q = if q = p then some o else objects.lookup q := by
  by_cases hq : q = p
  · subst hq
    simp
  · rw [List.lookup_cons, beq_false_of_ne hq, if_neg hq]

theorem lookup_without (b : Bucket) (p q : Place) :
    (b.without p).lookup q = if q = p then none else b.find? q := by
  unfold without find?
  induction b.objects with
  | nil => simp
  | cons entry objects ih =>
    obtain ⟨place, o⟩ := entry
    rw [lookup_cons_if]
    by_cases hp : place = p
    · rw [List.filter_cons_of_neg (by simpa using hp), ih, hp]
      by_cases hq : q = p
      · rw [if_pos hq, if_pos hq]
      · rw [if_neg hq, if_neg hq, if_neg hq]
    · rw [List.filter_cons_of_pos (by simpa using hp), lookup_cons_if, ih]
      by_cases hq : q = place
      · rw [if_pos hq, if_pos hq, if_neg (hq ▸ hp)]
      · rw [if_neg hq, if_neg hq]

theorem holding_store (b : Bucket) (p : Place) (body : Bytes) :
    (b.store p body).holding = b.holding.hold p ⟨body, b.nextTag⟩ := by
  unfold holding Holding.hold
  congr 1
  · funext q
    rw [Function.update_apply]
    change ((p, (⟨body, b.nextTag⟩ : Object)) :: b.without p).lookup q = _
    rw [lookup_cons_if, lookup_without]
    by_cases hq : q = p
    · rw [if_pos hq, if_pos hq]
    · rw [if_neg hq, if_neg hq, if_neg hq]
  · funext t
    change (∃ n ≤ b.issued + 1, t = tag n) = ((∃ n ≤ b.issued, t = tag n) ∨ t = tag (b.issued + 1))
    refine propext ⟨?_, ?_⟩
    · rintro ⟨n, hn, rfl⟩
      obtain hn | rfl := Nat.le_succ_iff.1 hn
      · exact .inl ⟨n, hn, rfl⟩
      · exact .inr rfl
    · rintro (⟨n, hn, rfl⟩ | rfl)
      · exact ⟨n, Nat.le_succ_of_le hn, rfl⟩
      · exact ⟨_, Nat.le_refl _, rfl⟩

theorem holding_without (b : Bucket) (p : Place) :
    ({ b with objects := b.without p } : Bucket).holding = b.holding.drop p := by
  unfold holding Holding.drop
  congr 1
  funext q
  rw [Function.update_apply]
  exact lookup_without b p q

theorem tells_nextTag (tells : Bool) (t : String) : Tells (if tells then some t else none) t := by
  cases tells
  · exact .inl rfl
  · exact .inr rfl

theorem serve_serves (b : Bucket) (c : Call) :
    Serves b.holding c (b.serve c).1 (b.serve c).2.holding := by
  cases c with
  | get p =>
    unfold serve
    dsimp only
    split
    · next o ho => exact .got ho
    · exact .failed _ _
  | put p body =>
    unfold serve
    dsimp only
    rw [holding_store]
    exact .stored b.not_issued_nextTag (tells_nextTag _ _)
  | copy target source tag =>
    unfold serve
    dsimp only
    split
    · exact .failed _ _
    · next htag =>
      obtain ⟨old, hold, rfl⟩ := Option.map_eq_some_iff.1 (not_not.1 htag)
      split
      · exact .failed _ _
      · next o ho =>
        rw [holding_store]
        exact .copied hold ho b.not_issued_nextTag (tells_nextTag _ _)
  | delete p =>
    unfold serve
    dsimp only
    rw [holding_without]
    exact .deleted p

/-- Whatever faults it meets, a bucket is good for that. -/
theorem answer_serves (b : Bucket) (c : Call) :
    Serves b.holding c (b.answer c).1 (b.answer c).2.holding := by
  unfold answer
  generalize takeFault c.operation b.faults = met
  obtain ⟨fault, faults⟩ := met
  cases fault with
  | some f => exact .failed c f
  | none => exact serve_serves { b with faults := faults, log := c :: b.log } c

end Bucket

structure Exchange where
  call : Call
  reply : Except Failure Reply
deriving DecidableEq

namespace Program
variable {ε α : Type}

/-- A program after its first calls have been answered. -/
def resume : Program ε α → List Exchange → Program ε α
  | p, [] => p
  | .done r, _ :: _ => .done r
  | .call _ next, e :: es => (next e.reply).resume es

def awaits? : Program ε α → Option Call
  | .done _ => none
  | .call c _ => some c

def result? : Program ε α → Option (Except ε α)
  | .done r => some r
  | .call .. => none

/-- Exchanges that begin with those of a program. -/
def Follows : Program ε α → List Exchange → Prop
  | _, [] => True
  | .done _, _ :: _ => False
  | .call c next, e :: es => e.call = c ∧ (next e.reply).Follows es

@[simp] theorem follows_nil (p : Program ε α) : p.Follows [] := by
  cases p <;> exact trivial

@[simp] theorem resume_nil (p : Program ε α) : p.resume [] = p := by
  cases p <;> rfl

/-- A program that nothing comes between ends as its exchanges make it. -/
theorem run_follows {ω : Type} (answer : Call → ω → Except Failure Reply × ω) (p : Program ε α)
    (w : ω) : ∃ es, p.Follows es ∧ (p.resume es).result? = some (p.run answer w).1 := by
  induction p generalizing w with
  | done r => exact ⟨[], trivial, rfl⟩
  | call c next ih =>
    -- The exchange of the first call goes before those of what follows its answer.
    obtain ⟨es, hf, hr⟩ := ih (answer c w).1 (answer c w).2
    exact ⟨⟨c, (answer c w).1⟩ :: es, ⟨rfl, hf⟩, hr⟩

theorem Follows.snoc {p : Program ε α} {es : List Exchange} (h : p.Follows es) {c : Call}
    (hc : (p.resume es).awaits? = some c) (reply : Except Failure Reply) :
    p.Follows (es ++ [⟨c, reply⟩]) := by
  induction es generalizing p with
  | nil =>
    cases p with
    | done r => cases hc
    | call c' next =>
      cases hc
      exact ⟨rfl, follows_nil _⟩
  | cons e es ih =>
    cases p with
    | done r => exact h.elim
    | call c' next => exact ⟨h.1, ih h.2 hc⟩

end Program

end CovertVault.Backup
