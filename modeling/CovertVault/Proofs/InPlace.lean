namespace CovertVault

abbrev InPlace (ε σ : Type) := ExceptT ε (StateM σ)

namespace InPlace

variable {ε σ α β : Type}

/-- What the steps answer, and the state that they leave. -/
def exec (p : InPlace ε σ α) (s : σ) : Except ε α × σ := p.run.run s

/-- What a function of the state amounts to: where it fails, the state is as it was. -/
def settle (s : σ) : Except ε (α × σ) → Except ε α × σ
  | .ok (a, s') => (.ok a, s')
  | .error e => (.error e, s)

@[simp] theorem exec_pure (a : α) (s : σ) : exec (pure a : InPlace ε σ α) s = (.ok a, s) := rfl

@[simp] theorem exec_get (s : σ) : exec (get : InPlace ε σ σ) s = (.ok s, s) := rfl

@[simp] theorem exec_ofExcept (r : Except ε α) (s : σ) :
    exec (MonadExcept.ofExcept r : InPlace ε σ α) s = (r, s) := by
  cases r <;> rfl

@[simp] theorem exec_bind (p : InPlace ε σ α) (f : α → InPlace ε σ β) (s : σ) :
    exec (p >>= f) s = match exec p s with
      | (.ok a, s') => exec (f a) s'
      | (.error e, s') => (.error e, s') := by
  show (match exec p s with | (r, s') => ExceptT.bindCont f r s') = _
  obtain ⟨r, s'⟩ := exec p s
  cases r <;> rfl

@[simp] theorem exec_map (f : α → β) (p : InPlace ε σ α) (s : σ) :
    exec (f <$> p) s = ((exec p s).1.map f, (exec p s).2) := by
  rw [map_eq_pure_bind, exec_bind]
  obtain ⟨r, s'⟩ := exec p s
  cases r <;> rfl

end InPlace

end CovertVault
