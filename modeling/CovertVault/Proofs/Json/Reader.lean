import CovertVault.Json.Reader
import CovertVault.Proofs.Json.Token

namespace CovertVault.Json
open Number Text

/-- A value that is read back as it was written, with at most `depth` arrays and objects in one
another. -/
inductive Plain : Nat → Json → Prop where
  | null (depth : Nat) : Plain depth .null
  | bool (depth : Nat) (b : Bool) : Plain depth (.bool b)
  | int (depth : Nat) {n : Int} (h : (natText n.natAbs).length ≤ digitLimit) : Plain depth (.int n)
  | str (depth : Nat) (s : String) : Plain depth (.str s)
  | arr {depth : Nat} {items : List Json} (h : ∀ v ∈ items, Plain depth v) :
    Plain (depth + 1) (.arr items)
  | obj {depth : Nat} {members : List (String × Json)} (hk : (members.map Prod.fst).Nodup)
    (h : ∀ p ∈ members, Plain depth p.2) : Plain (depth + 1) (.obj members)

mutual

theorem ascii_write : ∀ v : Json, Ascii v.write
  | .null | .bool true | .bool false | .nan => by
    rw [write]
    simp
  | .int n => by
    rw [write]
    exact ascii_intText n
  | .decimal d => by
    have hs : Ascii (signText d.negative) := by cases d.negative <;> simp [signText]
    rw [write, ascii_append, ascii_append, ascii_cons]
    exact ⟨⟨hs, ascii_natText _⟩, by decide, ascii_intText _⟩
  | .infinity negative => by
    rw [write]
    cases negative <;> simp [signText]
  | .str s => by
    rw [write]
    exact ascii_writeString s.toList
  | .broken s => by
    have hp (p : Point) : Ascii (writePoint p) := by
      cases p
      · exact ascii_writeChar _
      · exact ascii_escapeUnit _
    rw [write, List.cons_append, ascii_cons, ascii_append]
    exact ⟨by decide, ascii_flatMap hp, by simp⟩
  | .arr items => by
    rw [write, List.cons_append, ascii_cons, ascii_append]
    exact ⟨by decide, ascii_writeItems items, by simp⟩
  | .obj members => by
    rw [write, List.cons_append, ascii_cons, ascii_append]
    exact ⟨by decide, ascii_writeMembers members, by simp⟩

theorem ascii_writeItems : ∀ items : List Json, Ascii (writeItems items)
  | [] => by
    rw [writeItems]
    exact ascii_nil
  | [v] => by
    rw [writeItems]
    exact ascii_write v
  | v :: w :: items => by
    rw [writeItems, ascii_append, ascii_cons]
    exact ⟨ascii_write v, by decide, ascii_writeItems (w :: items)⟩

theorem ascii_writeMembers : ∀ members : List (String × Json), Ascii (writeMembers members)
  | [] => by
    rw [writeMembers]
    exact ascii_nil
  | [(k, v)] => by
    rw [writeMembers, ascii_append, ascii_cons]
    exact ⟨ascii_writeString k.toList, by decide, ascii_write v⟩
  | (k, v) :: p :: members => by
    rw [writeMembers, ascii_append, ascii_cons, ascii_append, ascii_cons]
    exact ⟨⟨ascii_writeString k.toList, by decide, ascii_write v⟩, by decide,
      ascii_writeMembers (p :: members)⟩

end

theorem insert_new {k : String} (v : Json) {members : List (String × Json)}
    (h : k ∉ members.map Prod.fst) : insert k v members = members ++ [(k, v)] := by
  induction members with
  | nil => rfl
  | cons p members ih =>
    obtain ⟨hp, hm⟩ := not_or.1 (mt List.mem_cons.2 h)
    rw [insert, if_neg (Ne.symm hp), ih hm, List.cons_append]

theorem foldl_insert {f : List (String × Json) → String × Json → List (String × Json)}
    (hf : ∀ r k v, f r (k, v) = insert k v r) {members seen : List (String × Json)}
    (h : ((seen ++ members).map Prod.fst).Nodup) : members.foldl f seen = seen ++ members := by
  induction members generalizing seen with
  | nil => rw [List.foldl_nil, List.append_nil]
  | cons p members ih =>
    obtain ⟨k, v⟩ := p
    have hk : k ∉ seen.map Prod.fst := by
      intro hk
      rw [List.map_append, List.nodup_append] at h
      exact h.2.2 _ hk k (by simp) rfl
    rw [List.foldl_cons, hf, insert_new v hk, ih (by simpa using h), List.append_assoc]
    rfl

/-- Members with different keys are taken as they are. -/
theorem lastValues_of_nodup {members : List (String × Json)} (h : (members.map Prod.fst).Nodup) :
    lastValues members = members :=
  foldl_insert (fun _ _ _ => rfl) h

theorem keyOf_points (k : String) : State.keyOf (points k) = k := by
  have hk : (points k).map Point.charOrReplacement = k.toList := by
    rw [points, List.map_map]
    exact List.map_id _
  rw [State.keyOf, hk, String.ofList_toList]

variable {m : Reading}

/-- The state that a text leads to. -/
def readOn (m : Reading) (st : State) (s : List Point) : Option State := do
  (← tokens m s).foldlM m.step st

theorem readOn_nil (st : State) : readOn m st [] = some st := by
  rw [readOn, tokens]
  rfl

theorem tokens_cons {p : Point} {r : List Point} (hp : isSpace p = false) :
    tokens m (p :: r) =
      (scanToken m (p :: r)).bind fun t => (tokens m t.2).map (t.1 :: ·) := by
  have hd : (p :: r).dropWhile isSpace = p :: r := by simp [hp]
  rw [tokens]
  split
  · next hs =>
    rw [hd] at hs
    cases hs
  · next hs =>
    rw [hd] at hs
    cases hs
    split
    · next ht => simp only [ht, Option.bind_none]
    · next ht => simp only [ht, Option.bind_some]

theorem readOn_scan (st : State) {p : Point} {r s : List Point} {t : Token}
    (hp : isSpace p = false) (ht : scanToken m (p :: r) = some (t, s)) :
    readOn m st (p :: r) = (m.step st t).bind fun st => readOn m st s := by
  rw [readOn, tokens_cons hp, ht]
  simp only [readOn, Option.bind_eq_bind, Option.bind_some]
  cases tokens m s with
  | none => cases m.step st t <;> rfl
  | some ts => simp

theorem readOn_step {st st' : State} {p : Point} {r s : List Point} {t : Token}
    (hp : isSpace p = false) (ht : scanToken m (p :: r) = some (t, s)) (h : st.step t = some st')
    (hd : ∀ k ∈ m.depthLimit, st'.depth ≤ k) : readOn m st (p :: r) = readOn m st' s := by
  have hm : m.step st t = some st' := by
    rw [Reading.step, h, Option.filter_some, if_pos]
    cases hl : m.depthLimit with
    | none => rfl
    | some k => simpa using hd k hl
  rw [readOn_scan st hp ht, hm, Option.bind_some]

theorem depth_complete (v : Json) (stack : List Frame) :
    (State.complete v stack).depth ≤ stack.length := by
  rcases stack with _ | ⟨_ | _ | _, stack⟩ <;> simp [State.complete, State.depth]

/-- The text of a value is read from the state that waits for a value, up to what stops it. -/
structure ReadsBack (m : Reading) (depth : Nat) (v : Json) : Prop where
  head : ∃ c s, v.write = c :: s ∧ isSpace (.char c) = false ∧ c ≠ ']'
  value : ∀ (stack : List Frame) (r : List Point), Stops r →
    (∀ k ∈ m.depthLimit, stack.length + depth ≤ k) →
    readOn m (.value stack) (v.write.map .char ++ r) = readOn m (.complete v stack) r

theorem scanToken_ne_closeArr {p : Point} {r : List Point} {t : Token × List Point}
    (hp : p ≠ .char ']') (ht : scanToken m (p :: r) = some t) : t.1 ≠ .closeArr := by
  intro h
  unfold scanToken at ht
  split at ht
  case h_4 he =>
    cases he
    exact hp rfl
  case h_7 =>
    obtain ⟨_, -, ht⟩ := Option.bind_eq_some_iff.1 ht
    dsimp only at ht
    split at ht <;> cases ht
    cases h
  case h_8 =>
    obtain ⟨_, -, rfl⟩ := Option.map_eq_some_iff.1 ht
    cases h
  all_goals
    cases ht
    cases h

/-- Before its first item an array reads on like before any other. -/
theorem ReadsBack.firstItem {depth : Nat} {v : Json} (h : ReadsBack m depth v)
    (stack : List Frame) (r : List Point) :
    readOn m (.firstItem stack) (v.write.map .char ++ r) =
      readOn m (.value (.arr [] :: stack)) (v.write.map .char ++ r) := by
  obtain ⟨c, s, hw, hc, hne⟩ := h.head
  rw [hw, List.map_cons, List.cons_append]
  cases ht : scanToken m (.char c :: (s.map .char ++ r)) with
  | none => rw [readOn, readOn, tokens_cons hc, ht]; rfl
  | some t =>
    have hclose : t.1 ≠ .closeArr := scanToken_ne_closeArr (by simpa using hne) ht
    have hs : m.step (.firstItem stack) t.1 = m.step (.value (.arr [] :: stack)) t.1 := by
      rw [Reading.step, Reading.step, State.step, State.step]
      exact hclose
    rw [readOn_scan _ hc ht, readOn_scan _ hc ht, hs]

section
variable {depth : Nat} {stack : List Frame}
  (hd : ∀ n ∈ m.depthLimit, stack.length + (depth + 1) ≤ n)
include hd

theorem depth_frame (f : Frame) : ∀ n ∈ m.depthLimit, (f :: stack).length + depth ≤ n := by
  intro n hn
  have := hd n hn
  rw [List.length_cons]
  omega

theorem depth_value (f : Frame) : ∀ n ∈ m.depthLimit, (State.value (f :: stack)).depth ≤ n :=
  fun n hn => Nat.le_trans (Nat.le_add_right _ _) (depth_frame hd f n hn)

theorem depth_close (v : Json) : ∀ n ∈ m.depthLimit, (State.complete v stack).depth ≤ n := by
  intro n hn
  have := hd n hn
  have := depth_complete v stack
  omega

theorem readOn_items {v : Json} {items : List Json} (h : ∀ w ∈ v :: items, ReadsBack m depth w)
    (seen : List Json) (r : List Point) :
    readOn m (.value (.arr seen :: stack))
        ((writeItems (v :: items)).map .char ++ .char ']' :: r) =
      readOn m (.complete (.arr (seen.reverse ++ v :: items)) stack) r := by
  induction items generalizing v seen with
  | nil =>
    have hv := (h v (by simp)).value _ _ (stops_closeArr r) (depth_frame hd (.arr seen))
    rw [writeItems, hv]
    refine readOn_step rfl rfl ?_ (depth_close hd _)
    rw [State.complete, State.step, List.reverse_cons]
  | cons w items ih =>
    have hv := (h v (by simp)).value _ _
      (stops_comma ((writeItems (w :: items)).map .char ++ .char ']' :: r))
      (depth_frame hd (.arr seen))
    -- This item is closed by the comma and joins those that were seen.
    have hr := ih (fun u hu => h u (List.mem_cons_of_mem v hu)) (v :: seen)
    rw [writeItems, List.map_append, List.map_cons, List.append_assoc, List.cons_append, hv]
    refine (readOn_step rfl rfl rfl (depth_value hd _)).trans ?_
    rw [hr, List.reverse_cons, List.append_assoc]
    rfl

/-- One member is read, from any state that takes its key. -/
theorem readOn_member (k : String) {v : Json} (h : ReadsBack m depth v) {st : State}
    {seen : List (String × Json)}
    (hst : ∀ k, st.step (.str k) = some (.colon seen (State.keyOf k) stack)) {r : List Point}
    (hr : Stops r) :
    readOn m st ((writeString k.toList).map .char ++ .char ':' :: (v.write.map .char ++ r)) =
      readOn m (.more (.obj ((k, v) :: seen) :: stack)) r := by
  have hk := scanToken_writeString m k (.char ':' :: (v.write.map .char ++ r))
  have hs := hst (points k)
  rw [keyOf_points] at hs
  -- The key, the colon, and then the value inside the member.
  refine (readOn_step rfl hk hs fun _ _ => Nat.zero_le _).trans ?_
  refine (readOn_step rfl rfl rfl (depth_value hd _)).trans ?_
  exact h.value _ _ hr (depth_frame hd _)

theorem readOn_members {k : String} {v : Json} {members : List (String × Json)}
    (h : ∀ p ∈ (k, v) :: members, ReadsBack m depth p.2) {st : State}
    (seen : List (String × Json))
    (hst : ∀ k, st.step (.str k) = some (.colon seen (State.keyOf k) stack)) (r : List Point) :
    readOn m st ((writeMembers ((k, v) :: members)).map .char ++ .char '\x7d' :: r) =
      readOn m (.complete (.obj (lastValues (seen.reverse ++ (k, v) :: members))) stack) r := by
  have hv : ReadsBack m depth v := h (k, v) List.mem_cons_self
  induction members generalizing k v seen st with
  | nil =>
    rw [writeMembers, List.map_append, List.map_cons, List.append_assoc, List.cons_append,
      readOn_member hd k hv hst (stops_closeObj r)]
    refine readOn_step rfl rfl ?_ (depth_close hd _)
    rw [State.step, List.reverse_cons]
  | cons p members ih =>
    obtain ⟨k', v'⟩ := p
    have hs : ∀ t, State.step (.key ((k, v) :: seen) stack) (.str t) =
        some (.colon ((k, v) :: seen) (State.keyOf t) stack) := fun _ => rfl
    have hr := ih (fun p hp => h p (List.mem_cons_of_mem _ hp)) ((k, v) :: seen) hs
      (h (k', v') (by simp))
    rw [writeMembers, List.map_append, List.map_append, List.map_cons, List.map_cons,
      List.append_assoc, List.append_assoc, List.cons_append, List.cons_append,
      readOn_member hd k hv hst (stops_comma _)]
    refine (readOn_step rfl rfl rfl fun _ _ => Nat.zero_le _).trans ?_
    rw [hr, List.reverse_cons, List.append_assoc]
    rfl

end

theorem readsBack_arr {depth : Nat} {items : List Json}
    (h : ∀ v ∈ items, ReadsBack m depth v) : ReadsBack m (depth + 1) (.arr items) := by
  refine ⟨⟨'[', _, by rw [write]; rfl, rfl, by decide⟩, fun stack r _ hd => ?_⟩
  have he : (Json.arr items).write.map Point.char ++ r =
      .char '[' :: ((writeItems items).map .char ++ .char ']' :: r) := by
    simp [write]
  rw [he]
  refine (readOn_step rfl rfl rfl fun _ _ => Nat.zero_le _).trans ?_
  cases items with
  | nil => exact readOn_step rfl rfl rfl (depth_close hd _)
  | cons v items =>
    have hf : readOn m (.firstItem stack) ((writeItems (v :: items)).map .char ++ .char ']' :: r) =
        readOn m (.value (.arr [] :: stack))
          ((writeItems (v :: items)).map .char ++ .char ']' :: r) := by
      cases items with
      | nil => exact (h v (by simp)).firstItem stack _
      | cons w items =>
        rw [writeItems, List.map_append, List.append_assoc]
        exact (h v (by simp)).firstItem stack _
    exact hf.trans (readOn_items hd h [] r)

theorem readsBack_obj {depth : Nat} {members : List (String × Json)}
    (hk : (members.map Prod.fst).Nodup) (h : ∀ p ∈ members, ReadsBack m depth p.2) :
    ReadsBack m (depth + 1) (.obj members) := by
  refine ⟨⟨'\x7b', _, by rw [write]; rfl, rfl, by decide⟩, fun stack r _ hd => ?_⟩
  have he : (Json.obj members).write.map Point.char ++ r =
      .char '\x7b' :: ((writeMembers members).map .char ++ .char '\x7d' :: r) := by
    simp [write]
  rw [he]
  refine (readOn_step rfl rfl rfl fun _ _ => Nat.zero_le _).trans ?_
  cases members with
  | nil => exact readOn_step rfl rfl rfl (depth_close hd _)
  | cons p members =>
    have hs : ∀ k, State.step (.firstKey stack) (.str k) =
        some (.colon [] (State.keyOf k) stack) := fun _ => rfl
    have hr := readOn_members hd h [] hs r
    rwa [List.reverse_nil, List.nil_append, lastValues_of_nodup hk] at hr

/-- A value that is one token is complete with it. -/
theorem readsBack_token {depth : Nat} {v : Json} {c : Char} {s : List Char} {t : Token}
    (hw : v.write = c :: s) (hc : isSpace (.char c) = false) (hne : c ≠ ']')
    (ht : ∀ r, Stops r → scanToken m (v.write.map .char ++ r) = some (t, r))
    (hb : ∀ stack, State.begin stack t = some (.complete v stack)) : ReadsBack m depth v := by
  refine ⟨⟨c, s, hw, hc, hne⟩, fun stack r hr hd => ?_⟩
  have hs := ht r hr
  rw [hw, List.map_cons, List.cons_append] at hs ⊢
  refine readOn_step hc hs (hb stack) fun n hn => ?_
  have := depth_complete v stack
  have := hd n hn
  omega

theorem Plain.readsBack {depth : Nat} {v : Json} (h : Plain depth v) : ReadsBack m depth v := by
  induction h with
  | null => exact readsBack_token rfl rfl (by decide) (fun _ _ => rfl) fun _ => rfl
  | bool _ b =>
    cases b
    · exact readsBack_token rfl rfl (by decide) (fun _ _ => rfl) fun _ => rfl
    · exact readsBack_token rfl rfl (by decide) (fun _ _ => rfl) fun _ => rfl
  | @int depth n hn =>
    obtain ⟨c, ds, hc, hd⟩ := exists_natText n.natAbs
    have digit {d : Char} (h : isAsciiDigit d = false) : c ≠ d := by
      rintro rfl
      rw [h] at hd
      cases hd
    have ht (r : List Point) (hr : Stops r) : scanToken m ((Json.int n).write.map .char ++ r) =
        some (.atom (.int n), r) := by
      rw [write]
      exact scanToken_intText m hn hr
    -- A minus comes before the digits only below zero.
    by_cases hneg : n < 0
    · have hw : (Json.int n).write = '-' :: natText n.natAbs := by rw [write, intText, if_pos hneg]
      exact readsBack_token hw rfl (by decide) ht fun _ => rfl
    · have hw : (Json.int n).write = c :: ds := by rw [write, intText, if_neg hneg, hc]
      have hs : isSpace (.char c) = false := by
        simp [isSpace, digit (d := ' ') rfl, digit (d := '\t') rfl, digit (d := '\n') rfl,
          digit (d := '\r') rfl]
      exact readsBack_token hw hs (digit rfl) ht fun _ => rfl
  | str _ s =>
    have hb (stack : List Frame) : State.begin stack (.str (points s)) =
        some (.complete (.str s) stack) := by
      rw [State.begin, ofPoints, points, ofPoints?_chars, String.ofList_toList]
    refine readsBack_token (by rw [write, writeString]; rfl) rfl (by decide) (fun r _ => ?_) hb
    rw [write]
    exact scanToken_writeString m s r
  | arr _ ih => exact readsBack_arr ih
  | obj hk _ ih => exact readsBack_obj hk ih

/-- Reading undoes writing. -/
theorem parse?_write {depth : Nat} {v : Json} (h : Plain depth v)
    (hd : ∀ n ∈ m.depthLimit, depth ≤ n) : parse? m (v.write.map .char) = some v := by
  have hr : readOn m (.value []) (v.write.map .char) = some (.done v) := by
    have := h.readsBack.value [] [] stops_nil fun n hn => by simpa using hd n hn
    rwa [List.append_nil, readOn_nil] at this
  have hp : parse? m (v.write.map .char) =
      (readOn m (.value []) (v.write.map .char)).bind State.result? := by
    rw [parse?, readOn]
    simp only [Option.bind_eq_bind, Option.bind_assoc]
  rw [hp, hr]
  rfl

/-- A value is read back from a body that reveals UTF-8. -/
theorem ofBody?_write {depth : Nat} {v : Json} (h : Plain depth v)
    (hr : decodeRevealed? (Bytes.utf8 v.write) = decodeLoneUtf8? (Bytes.utf8 v.write)) :
    ofBody? (Bytes.utf8 v.write) = some v := by
  rw [ofBody?, hr, decodeLoneUtf8?_utf8 (ascii_write v)]
  exact parse?_write h (by simp [lenient])

theorem decodeRevealed?_quote (s : List Char) :
    decodeRevealed? (Bytes.utf8 ('\x7b' :: '"' :: s)) =
      decodeLoneUtf8? (Bytes.utf8 ('\x7b' :: '"' :: s)) := by
  rw [Bytes.utf8_cons_of_lt _ (by decide), Bytes.utf8_cons_of_lt _ (by decide)]
  rcases Bytes.utf8 s with _ | ⟨a, _ | ⟨b, r⟩⟩ <;> rfl

theorem ofBody?_obj {depth : Nat} {members : List (String × Json)}
    (h : Plain depth (.obj members)) :
    ofBody? (Bytes.utf8 (Json.obj members).write) = some (.obj members) := by
  apply ofBody?_write h
  match members with
  | [] => rfl
  | [(k, v)] =>
    rw [write, writeMembers, writeString]
    exact decodeRevealed?_quote _
  | (k, v) :: p :: ms =>
    rw [write, writeMembers, writeString]
    exact decodeRevealed?_quote _

theorem ofBody?_nil : ofBody? [] = none := by
  have h : (ofBody? []).isNone = true := by decide +kernel
  exact Option.isNone_iff_eq_none.1 h

theorem ofBody?_null : ofBody? (Bytes.utf8 null.write) = some .null :=
  ofBody?_write (.null 0) rfl

end CovertVault.Json
