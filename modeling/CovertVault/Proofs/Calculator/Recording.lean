import CovertVault.Calculator.Session
import CovertVault.Proofs.Store.Writes

namespace CovertVault.Calculator
open Store

/-- Digits for the guard record nothing. -/
theorem commands_feed {ds : List Char} {s : Session} {reply : Reply}
    (h : (s.feed ds).1 = .ok reply) : reply.commands = [] := by
  induction ds generalizing s with
  | nil =>
    cases h
    rfl
  | cons d ds ih =>
    unfold Session.feed at h
    split at h
    · cases h
    · cases h
      rfl
    · exact ih h

theorem commands_pressOther {key : Keypad.Key} {s : Session} {reply : Reply}
    (h : (s.pressOther key).1 = .ok reply) : reply.commands = [] := by
  unfold Session.pressOther at h
  dsimp only at h
  split at h
  · cases h
  · next r e he =>
    cases h
    cases r <;> rfl

theorem timeOr_present (time : String) : timeOr (some time) (.ok time) = .ok time := by
  unfold timeOr
  by_cases h : time = "" <;> simp [h, Option.filter]

/-- What a key press stores and reports: nothing, or one and the same calculation. -/
inductive Records (now : Time.Present) (store : Store) :
    Except Error Reply × Session × Store → Prop
  | nothing {r : Except Error Reply} (s : Session) :
      (∀ reply, r = .ok reply → reply.commands = []) → Records now store (r, s, store)
  | row {row : HistoryRecord} (s : Session) : now = .ok row.calculatedAt →
      row.id = store.db.lastHistory + 1 → fitsColumn row.id = true →
      Records now store (.ok (.recorded (some row)), s, store.addCalculation row)

theorem records_pressEquals (now : Time.Present) (s : Session) (store : Store) :
    Records now store (s.pressEquals now store) := by
  unfold Session.pressEquals
  dsimp only
  split
  · exact .nothing _ (by simp)
  · exact .nothing _ fun reply h => by
      cases h
      rfl
  · split
    · exact .nothing _ (by simp)
    · next time =>
      split
      · exact .nothing _ (by simp)
      · next id t h =>
        obtain ⟨time', ht, ⟨hi, hf⟩, rfl⟩ := appendHistory_ok h
        obtain rfl : time = time' := Except.ok.inj ((timeOr_present time).symm.trans ht)
        exact .row _ rfl hi hf

/-- No key but equals stores or reports anything. -/
theorem press_unrecorded {key : Keypad.Key} (hk : key ≠ .equals) (now : Time.Present) (s : Session)
    (store : Store) : (s.press now key store).2.2 = store ∧
      ∀ reply, (s.press now key store).1 = .ok reply → reply.commands = [] := by
  unfold Session.press
  dsimp only
  split
  · unfold Session.pressDigit
    split
    · exact ⟨rfl, by simp⟩
    · exact ⟨rfl, fun _ h => commands_feed h⟩
  · exact ⟨rfl, fun _ h => commands_feed h⟩
  · refine ⟨rfl, fun reply h => ?_⟩
    cases h
    rfl
  · exact absurd rfl hk
  · exact ⟨rfl, fun _ h => commands_pressOther h⟩

theorem records_press (now : Time.Present) (key : Keypad.Key) (s : Session) (store : Store) :
    Records now store (s.press now key store) := by
  by_cases hk : key = .equals
  · subst hk
    exact records_pressEquals now s store
  · obtain ⟨ht, hc⟩ := press_unrecorded hk now s store
    generalize s.press now key store = p at ht hc
    obtain ⟨r, s', t⟩ := p
    obtain rfl : t = store := ht
    exact .nothing s' hc

end CovertVault.Calculator
