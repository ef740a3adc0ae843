import CovertVault.Json.Basic

namespace CovertVault.Json

theorem field?_cons (k : String) (v : Json) (ms : List (String × Json)) (key : String) :
    field? ((k, v) :: ms) key = if key = k then some v else field? ms key := by
  unfold field?
  rw [List.lookup_cons]
  by_cases h : key = k
  · simp [h]
  · have hb : (key == k) = false := by simpa using h
    simp [h, hb]

theorem field?_insert (k : String) (v : Json) (ms : List (String × Json)) (key : String) :
    field? (insert k v ms) key = if key = k then some v else field? ms key := by
  induction ms with
  | nil => rw [insert, field?_cons]
  | cons m ms ih =>
    obtain ⟨k', v'⟩ := m
    unfold insert
    by_cases hk : k' = k
    · subst hk
      rw [if_pos rfl, field?_cons, field?_cons]
      by_cases h : key = k' <;> simp [h]
    · rw [if_neg hk, field?_cons, field?_cons, ih]
      by_cases h : key = k'
      · subst h
        simp [hk]
      · simp [h]

theorem field?_filter (k : String) (ms : List (String × Json)) (key : String) :
    field? (ms.filter (·.1 ≠ k)) key = if key = k then none else field? ms key := by
  induction ms with
  | nil => simp [field?]
  | cons m ms ih =>
    obtain ⟨k', v'⟩ := m
    by_cases hk : k' = k
    · subst hk
      rw [List.filter_cons_of_neg (by simp), ih, field?_cons]
      by_cases h : key = k' <;> simp [h]
    · rw [List.filter_cons_of_pos (by simpa using hk), field?_cons, field?_cons, ih]
      by_cases h : key = k'
      · subst h
        simp [hk]
      · simp [h]

/-- The members of an object; none for other values. -/
def members : Json → List (String × Json)
  | .obj ms => ms
  | _ => []

/-- The value under a key. -/
def child? (v : Json) (key : String) : Option Json := field? v.members key

/-- The value at the end of a path. -/
def at? (v : Json) : List String → Option Json
  | [] => some v
  | k :: path => (v.child? k).bind (at? · path)

/-- Puts a value at the end of a path, with objects on the way there. -/
def put (value : Json) : List String → Json → Json
  | [], _ => value
  | k :: path, v => .obj (insert k (put value path ((v.child? k).getD .null)) v.members)

/-- Takes away what is at the end of a path. -/
def remove : List String → Json → Json
  | [], _ => .null
  | [k], v => .obj (v.members.filter (·.1 ≠ k))
  | k :: k' :: path, v =>
    match v.child? k with
    | some c => .obj (insert k (remove (k' :: path) c) v.members)
    | none => v

@[simp] theorem at?_nil (v : Json) : v.at? [] = some v := rfl

theorem at?_cons (v : Json) (k : String) (path : List String) :
    v.at? (k :: path) = (v.child? k).bind (at? · path) := rfl

variable {path other : List String}

/-- What is put is there, with all that it holds. -/
theorem at?_put_append (value v : Json) (path rest : List String) :
    (put value path v).at? (path ++ rest) = value.at? rest := by
  induction path generalizing v with
  | nil => rfl
  | cons k path ih =>
    rw [put, List.cons_append, at?_cons, child?, members, field?_insert, if_pos rfl]
    exact ih _

/-- Paths that part leave each other alone. -/
theorem at?_put_of_apart (value v : Json) (hp : ¬ path <+: other) (ho : ¬ other <+: path) :
    (put value path v).at? other = v.at? other := by
  induction path generalizing other v with
  | nil => exact absurd (List.nil_prefix) hp
  | cons k path ih =>
    cases other with
    | nil => exact absurd (List.nil_prefix) ho
    | cons key other =>
      rw [put, at?_cons, at?_cons, child?, members, field?_insert]
      -- The paths go on together for one key more, or part here.
      by_cases hk : key = k
      · subst hk
        simp only [List.cons_prefix_cons, true_and] at hp ho
        rw [if_pos rfl, Option.bind_some, ih _ hp ho]
        show _ = (v.child? key).bind (at? · other)
        cases v.child? key with
        | some c => rfl
        | none =>
          cases other with
          | nil => exact absurd (List.nil_prefix) ho
          | cons => rfl
      · rw [if_neg hk]
        rfl

theorem at?_remove_append (v : Json) (hp : path ≠ []) (rest : List String) :
    (remove path v).at? (path ++ rest) = none := by
  induction path generalizing v with
  | nil => exact absurd rfl hp
  | cons k path ih =>
    cases path with
    | nil =>
      rw [remove, List.cons_append, at?_cons, child?, members, field?_filter, if_pos rfl]
      rfl
    | cons k' path =>
      rw [remove, List.cons_append]
      cases hc : v.child? k with
      | none => rw [at?_cons, hc, Option.bind_none]
      | some c =>
        dsimp only
        rw [at?_cons, child?, members, field?_insert, if_pos rfl]
        exact ih c (by simp)

theorem at?_remove_of_apart (v : Json) (hp : ¬ path <+: other) (ho : ¬ other <+: path) :
    (remove path v).at? other = v.at? other := by
  induction path generalizing other v with
  | nil => exact absurd (List.nil_prefix) hp
  | cons k path ih =>
    cases other with
    | nil => exact absurd (List.nil_prefix) ho
    | cons key other =>
      cases path with
      | nil =>
        have hk : key ≠ k := by
          rintro rfl
          exact hp (by simp)
        rw [remove, at?_cons, at?_cons, child?, members, field?_filter, if_neg hk]
        rfl
      | cons k' path =>
        rw [remove]
        cases hc : v.child? k with
        | none => rfl
        | some c =>
          dsimp only
          rw [at?_cons, at?_cons, child?, members, field?_insert]
          by_cases hk : key = k
          · subst hk
            simp only [List.cons_prefix_cons, true_and] at hp ho
            rw [if_pos rfl, hc, Option.bind_some, Option.bind_some, ih c ?_ ?_]
            · simpa [List.cons_prefix_cons] using hp
            · exact ho
          · rw [if_neg hk]
            rfl

section
variable (value v : Json) (a b k key : String)

theorem at?_pair : (v.at? [a]).bind (·.child? key) = v.at? [a, key] := by
  rw [at?_cons, at?_cons]
  cases v.child? a with
  | none => rfl
  | some c =>
    show c.child? key = (c.child? key).bind some
    exact (Option.bind_fun_some _).symm

theorem at?_put_node :
    (put value [a] v).at? [b, key] = if b = a then value.child? key else v.at? [b, key] := by
  split
  · next h =>
    subst h
    rw [show [b, key] = [b] ++ [key] from rfl, at?_put_append, at?_cons]
    cases value.child? key <;> rfl
  · next h =>
    apply at?_put_of_apart
    · simpa [List.cons_prefix_cons] using Ne.symm h
    · simp [List.cons_prefix_cons]

theorem at?_put_member :
    (put value [a, k] v).at? [b, key] =
      if b = a ∧ key = k then some value else v.at? [b, key] := by
  split
  · next h =>
    obtain ⟨rfl, rfl⟩ := h
    exact at?_put_append value v [b, key] []
  · next h =>
    apply at?_put_of_apart
    · simpa [List.cons_prefix_cons, eq_comm] using h
    · simpa [List.cons_prefix_cons] using h

theorem at?_remove_node :
    (remove [a] v).at? [b, key] = if b = a then none else v.at? [b, key] := by
  split
  · next h =>
    subst h
    exact at?_remove_append v (by simp) [key]
  · next h =>
    apply at?_remove_of_apart
    · simpa [List.cons_prefix_cons] using Ne.symm h
    · simp [List.cons_prefix_cons]

theorem at?_remove_member :
    (remove [a, k] v).at? [b, key] = if b = a ∧ key = k then none else v.at? [b, key] := by
  split
  · next h =>
    obtain ⟨rfl, rfl⟩ := h
    exact at?_remove_append v (by simp) []
  · next h =>
    apply at?_remove_of_apart
    · simpa [List.cons_prefix_cons, eq_comm] using h
    · simpa [List.cons_prefix_cons] using h

end

theorem insert_insert (k : String) (v w : Json) (ms : List (String × Json)) :
    insert k w (insert k v ms) = insert k w ms := by
  induction ms with
  | nil => simp [insert]
  | cons m ms ih =>
    obtain ⟨k', v'⟩ := m
    by_cases hk : k' = k
    · simp [insert, hk]
    · simp [insert, hk, ih]

theorem put_put (value v : Json) (path : List String) :
    put value path (put value path v) = put value path v := by
  induction path generalizing v with
  | nil => rfl
  | cons k path ih =>
    have hc : (put value (k :: path) v).child? k =
        some (put value path ((v.child? k).getD .null)) := by
      rw [put, child?, members, field?_insert, if_pos rfl]
    rw [put, hc, Option.getD_some, ih]
    show Json.obj (insert k _ (insert k _ v.members)) = _
    rw [insert_insert]
    rfl

theorem remove_remove (v : Json) (path : List String) :
    remove path (remove path v) = remove path v := by
  induction path generalizing v with
  | nil => rfl
  | cons k path ih =>
    cases path with
    | nil =>
      show Json.obj ((v.members.filter (·.1 ≠ k)).filter (·.1 ≠ k)) = _
      rw [List.filter_filter]
      simp [remove]
    | cons k' path =>
      have hr (w c : Json) (hw : w.child? k = some c) :
          remove (k :: k' :: path) w = .obj (insert k (remove (k' :: path) c) w.members) := by
        rw [remove, hw]
      cases hc : v.child? k with
      | none =>
        have hn : remove (k :: k' :: path) v = v := by rw [remove, hc]
        rw [hn, hn]
      | some c =>
        have hi : (Json.obj (insert k (remove (k' :: path) c) v.members)).child? k =
            some (remove (k' :: path) c) := by
          rw [child?, members, field?_insert, if_pos rfl]
        rw [hr v c hc, hr _ _ hi, ih]
        show Json.obj (insert k _ (insert k _ v.members)) = _
        rw [insert_insert]

end CovertVault.Json
