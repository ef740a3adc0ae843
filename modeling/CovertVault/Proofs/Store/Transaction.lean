import CovertVault.Proofs.InPlace
import CovertVault.Proofs.Store.Orderly
import CovertVault.Proofs.Text.Points
import CovertVault.Store.Rekey

namespace CovertVault.Store
open InPlace Transaction

variable {ε : Type} {s : Store} {transform : Nat → Bytes → Except ε Bytes}

theorem map_updated {done rest : List FileRecord} {r : FileRecord}
    (ho : ((done ++ r :: rest).map (·.id)).Nodup) (ciphertext : Bytes) :
    ((done ++ r :: rest).map fun q =>
      if q.id = r.id then { q with ciphertext := ciphertext } else q) =
        done ++ { r with ciphertext := ciphertext } :: rest := by
  have hother {rows : List FileRecord} (h : ∀ q ∈ rows, q.id ≠ r.id) :
      (rows.map fun q => if q.id = r.id then { q with ciphertext := ciphertext } else q) = rows :=
    (List.map_congr_left fun q hq => if_neg (h q hq)).trans (List.map_id' rows)
  rw [List.map_append, List.map_cons, List.nodup_append, List.nodup_cons] at ho
  obtain ⟨-, ⟨hrest, -⟩, hdone⟩ := ho
  have hd : ∀ q ∈ done, q.id ≠ r.id := fun q hq =>
    hdone q.id (List.mem_map.2 ⟨q, hq, rfl⟩) r.id (.head _)
  have hr : ∀ q ∈ rest, q.id ≠ r.id := fun q hq he => hrest (List.mem_map.2 ⟨q, hq, he⟩)
  rw [List.map_append, List.map_cons, if_pos rfl, hother hd, hother hr]

/-- Row by row the same, with what the calls give for the ciphertexts from one call on. -/
def Rewritten (transform : Nat → Bytes → Except ε Bytes) (k : Nat) (rows rows' : List FileRecord) :
    Prop :=
  rows'.length = rows.length ∧ ∀ i r r', rows[i]? = some r → rows'[i]? = some r' →
    transform (k + i) r.ciphertext = .ok r'.ciphertext ∧ r'.toFileMeta = r.toFileMeta

theorem Rewritten.succeeds {k : Nat} {rows rows' : List FileRecord}
    (h : Rewritten transform k rows rows') {i : Nat} {r : FileRecord} (hi : rows[i]? = some r) :
    ∃ c, transform (k + i) r.ciphertext = .ok c := by
  have hlt : i < rows'.length := by
    rw [h.1]
    exact (List.getElem?_eq_some_iff.1 hi).1
  obtain ⟨hc, -⟩ := h.2 i r rows'[i] hi (List.getElem?_eq_getElem hlt)
  exact ⟨_, hc⟩

/-- The first call that fails is the one for a row. -/
def FirstFailure (transform : Nat → Bytes → Except ε Bytes) (k : Nat) (rows : List FileRecord)
    (i : Nat) (e : ε) : Prop :=
  (∃ r, rows[i]? = some r ∧ transform (k + i) r.ciphertext = .error e) ∧
    ∀ j r, j < i → rows[j]? = some r → ∃ c, transform (k + j) r.ciphertext = .ok c

/-- The rows are rewritten, or a call fails and those before it do not, or a write is refused. -/
theorem rekeyRows_cases (s : Store) (transform : Nat → Bytes → Except ε Bytes) (k : Nat)
    (rows : List FileRecord) :
    (∃ rows', s.rekeyRows transform k rows = .ok rows' ∧ Rewritten transform k rows rows' ∧
      ∀ r ∈ rows, s.db.refuses .files .update r.id = false) ∨
    (∃ i e, FirstFailure transform k rows i e ∧
      s.rekeyRows transform k rows = .error (.transform e)) ∨
    (∃ r ∈ rows, s.db.refuses .files .update r.id = true) ∧
      s.rekeyRows transform k rows = .error (.store (.failed .rekeyFiles)) := by
  induction rows generalizing k with
  | nil => exact .inl ⟨[], rfl, ⟨rfl, by simp⟩, by simp⟩
  | cons r rows ih =>
    unfold rekeyRows
    rw [allow_eq]
    cases hc : transform k r.ciphertext with
    | error e => exact .inr (.inl ⟨0, e, ⟨⟨r, rfl, hc⟩, by simp⟩, rfl⟩)
    | ok c =>
      by_cases hf : s.db.refuses .files .update r.id = true
      · rw [if_pos hf]
        exact .inr (.inr ⟨⟨r, .head _, hf⟩, rfl⟩)
      rw [if_neg hf]
      -- The calls for the other rows are counted from one more.
      obtain ⟨rows', hr, ⟨hl, hrows⟩, hn⟩ | ⟨i, e, ⟨⟨q, hq, he⟩, hbefore⟩, hr⟩ |
        ⟨⟨q, hq, hn⟩, hr⟩ := ih (k + 1)
      · refine .inl ⟨{ r with ciphertext := c } :: rows', by rw [hr]; rfl, ⟨by simp [hl], ?_⟩, ?_⟩
        · rintro (_ | i) q q' hq hq'
          · cases hq
            cases hq'
            exact ⟨hc, rfl⟩
          · have hi := hrows i q q' hq hq'
            rwa [Nat.add_assoc, Nat.add_comm 1] at hi
        · exact List.forall_mem_cons.2 ⟨by simpa using hf, hn⟩
      · refine .inr (.inl ⟨i + 1, e, ⟨⟨q, hq, ?_⟩, ?_⟩, by rw [hr]; rfl⟩)
        · rwa [Nat.add_assoc, Nat.add_comm 1] at he
        · rintro (_ | j) p hj hp
          · cases hp
            exact ⟨c, hc⟩
          · have hj := hbefore j p (Nat.lt_of_succ_lt_succ hj) hp
            rwa [Nat.add_assoc, Nat.add_comm 1] at hj
      · exact .inr (.inr ⟨⟨q, .tail _ hq, hn⟩, by rw [hr]; rfl⟩)

theorem rekeyRows_length {k : Nat} {rows rows' : List FileRecord}
    (h : s.rekeyRows transform k rows = .ok rows') : rows'.length = rows.length := by
  simpa using congrArg List.length (rekeyRows_metas h)

/-- In an open store the rows decide, and after them the write of the secret. -/
theorem rekeyFiles_eq (hopen : s.isOpen = true) (digest : Option String) (canary : Option Bytes) :
    s.rekeyFiles transform digest canary =
      match s.rekeyRows transform 0 s.db.files with
      | .error e => .error e
      | .ok files =>
        if s.db.refuses .config .update 1 then .error (.store (.failed .rekeyFiles))
        else .ok (files.length,
          s.withDatabase { s.db with files := files, secret := ⟨digest, canary, false⟩ }) := by
  unfold rekeyFiles
  rw [guard_nil hopen, allow_eq]
  cases s.rekeyRows transform 0 s.db.files with
  | error e => rfl
  | ok files => by_cases hf : s.db.refuses .config .update 1 = true <;> simp [hf]

theorem rekeyFiles_closed (hopen : s.isOpen = false) (digest : Option String)
    (canary : Option Bytes) :
    s.rekeyFiles transform digest canary = .error (.store (.failed .rekeyFiles)) := by
  unfold rekeyFiles
  rw [guard_closed hopen]
  rfl

/-- A transaction that has changed nothing but files so far. -/
def ofFiles (s : Store) (files : List FileRecord) : Transaction :=
  ⟨s.withDatabase { s.db with files := files }, s.db⟩

theorem rollback_ofFiles (files : List FileRecord) : (ofFiles s files).rollback = s := rfl

theorem failure_ofFiles (hopen : s.isOpen = true) (files : List FileRecord) (e : RekeyFailure ε) :
    (ofFiles s files).failure e = e :=
  if_pos hopen

theorem updateFile_ofFiles (hopen : s.isOpen = true) {done rest : List FileRecord} {r : FileRecord}
    (ho : ((done ++ r :: rest).map (·.id)).Nodup) (ciphertext : Bytes) :
    (ofFiles s (done ++ r :: rest)).updateFile r.id ciphertext =
      if s.db.refuses .files .update r.id then .error (.failed .rekeyFiles)
      else .ok (ofFiles s (done ++ { r with ciphertext := ciphertext } :: rest)) := by
  have hcurrent : (ofFiles s (done ++ r :: rest)).current.isOpen = true := hopen
  have hany : (ofFiles s (done ++ r :: rest)).current.db.files.any (·.id = r.id) = true := by
    simp [ofFiles, withDatabase]
  have hrefuses : (ofFiles s (done ++ r :: rest)).current.db.refuses .files .update r.id =
      s.db.refuses .files .update r.id := rfl
  unfold updateFile
  dsimp only
  rw [guard_nil hcurrent, hany, allow_eq, hrefuses, ← map_updated ho ciphertext]
  by_cases hf : s.db.refuses .files .update r.id = true
  · rw [if_pos hf, if_pos hf]
    rfl
  · rw [if_neg hf, if_neg hf]
    rfl

theorem updateSecret_ofFiles (hopen : s.isOpen = true) (files : List FileRecord)
    (digest : Option (List Text.Point)) (canary : Option Bytes) :
    ((ofFiles s files).updateSecret digest canary : Except (RekeyFailure ε) Transaction) =
      match digest.mapM Text.encodable with
      | .error x => .error (.unencodable x)
      | .ok digest =>
        if s.db.refuses .config .update 1 then .error (.store (.failed .rekeyFiles))
        else .ok ⟨s.withDatabase { s.db with files := files, secret := ⟨digest, canary, false⟩ },
          s.db⟩ := by
  have hcurrent : (ofFiles s files).current.isOpen = true := hopen
  have hrefuses : (ofFiles s files).current.db.refuses .config .update 1 =
      s.db.refuses .config .update 1 := rfl
  unfold updateSecret
  dsimp only
  rw [guard_nil hcurrent, allow_eq, hrefuses]
  cases digest.mapM Text.encodable with
  | error x => rfl
  | ok digest =>
    by_cases hf : s.db.refuses .config .update 1 = true
    · rw [if_pos hf]
      dsimp only
      rw [if_pos hf]
      rfl
    · rw [if_neg hf]
      dsimp only
      rw [if_neg hf]
      rfl

/-- An error of code that leaves the store alone, as it comes out. -/
def RekeyError.escaped : RekeyError (Raised ε) → RekeyFailure ε
  | .store e => .store e
  | .transform r => r.escaped

/-- While the rows of `done` have been rewritten, the others are as they were selected. -/
theorem rewrite_apart (hopen : s.isOpen = true) (f : Nat → Bytes → Except (Raised ε) Bytes)
    (k : Nat) {done rest : List FileRecord} (ho : ((done ++ rest).map (·.id)).Nodup) :
    (∀ rows, s.rekeyRows f k rest = .ok rows →
      rewrite (.apart f) k rest (ofFiles s (done ++ rest)) = (.ok (), ofFiles s (done ++ rows))) ∧
    ∀ e, s.rekeyRows f k rest = .error e →
      ∃ files, rewrite (.apart f) k rest (ofFiles s (done ++ rest)) =
        (.error e.escaped, ofFiles s files) := by
  induction rest generalizing done k with
  | nil =>
    refine ⟨fun rows h => ?_, fun e h => ?_⟩
    · cases h
      rfl
    · cases h
  | cons r rest ih =>
    unfold rekeyRows rewrite
    rw [allow_eq, Rewriter.apart_apply]
    cases f k r.ciphertext with
    | error x =>
      refine ⟨fun rows h => ?_, fun e h => ?_⟩
      · cases h
      · cases h
        exact ⟨_, rfl⟩
    | ok c =>
      dsimp only
      rw [updateFile_ofFiles hopen ho]
      by_cases hf : s.db.refuses .files .update r.id = true
      · rw [if_pos hf, if_pos hf]
        refine ⟨fun rows h => ?_, fun e h => ?_⟩
        · cases h
        · cases h
          exact ⟨_, rfl⟩
      · rw [if_neg hf, if_neg hf]
        -- This row joins those that are done, and the ids stay what they were.
        have hnext : done ++ { r with ciphertext := c } :: rest =
            (done ++ [{ r with ciphertext := c }]) ++ rest := by
          simp
        have ho' : (((done ++ [{ r with ciphertext := c }]) ++ rest).map fun r : FileRecord =>
            r.id).Nodup := by
          simpa using ho
        obtain ⟨hok, herror⟩ := ih (k + 1) ho'
        dsimp only [mapError_ok, ok_bind]
        rw [hnext]
        cases hrows : s.rekeyRows f (k + 1) rest with
        | error x =>
          refine ⟨fun rows h => ?_, fun e h => ?_⟩
          · cases h
          · cases h
            exact herror x hrows
        | ok rows =>
          refine ⟨fun rows' h => ?_, fun e h => ?_⟩
          · cases h
            rw [hok rows hrows, List.append_assoc]
            rfl
          · cases h

theorem rekey_closed (hopen : s.isOpen = false) (f : Nat → Bytes → Except (Raised ε) Bytes)
    (digest : Option (List Text.Point)) (canary : Option Bytes) :
    s.rekey (.apart f) digest canary = (.error (.store (.failed .rekeyFiles)), s) := by
  unfold rekey
  rw [guard_closed hopen]

/-- In an open store the rows decide, after them the text of the digest, and then its write. -/
theorem rekey_open (hopen : s.isOpen = true) (ho : (s.db.files.map (·.id)).Nodup)
    (f : Nat → Bytes → Except (Raised ε) Bytes) (digest : Option (List Text.Point))
    (canary : Option Bytes) :
    s.rekey (.apart f) digest canary =
      match s.rekeyRows f 0 s.db.files with
      | .error e => (.error e.escaped, s)
      | .ok files =>
        match digest.mapM Text.encodable with
        | .error x => (.error (.unencodable x), s)
        | .ok digest =>
          if s.db.refuses .config .update 1 then (.error (.store (.failed .rekeyFiles)), s)
          else (.ok files.length,
            s.withDatabase { s.db with files := files, secret := ⟨digest, canary, false⟩ }) := by
  have hbegin : begin s = ofFiles s ([] ++ s.db.files) := rfl
  have hnone : (([] ++ s.db.files).map fun r : FileRecord => r.id).Nodup := ho
  obtain ⟨hok, herror⟩ := rewrite_apart hopen f 0 hnone
  unfold rekey
  rw [guard_nil hopen, hbegin]
  cases hrows : s.rekeyRows f 0 s.db.files with
  | error e =>
    obtain ⟨files, hr⟩ := herror e hrows
    rw [hr]
    dsimp only
    rw [failure_ofFiles hopen, rollback_ofFiles]
  | ok rows =>
    rw [hok rows hrows]
    dsimp only
    rw [updateSecret_ofFiles hopen, rekeyRows_length hrows]
    cases digest.mapM Text.encodable with
    | error x =>
      dsimp only
      rw [failure_ofFiles hopen, rollback_ofFiles]
    | ok digest =>
      by_cases hf : s.db.refuses .config .update 1 = true
      · dsimp only
        rw [if_pos hf, if_pos hf]
        dsimp only
        rw [failure_ofFiles hopen, rollback_ofFiles]
      · dsimp only
        rw [if_neg hf, if_neg hf]
        rfl

/-- With code that leaves the store alone the transaction is the operation that has all new
ciphertexts before it writes anything. -/
theorem rekey_apart (ho : (s.db.files.map (·.id)).Nodup)
    (f : Nat → Bytes → Except (Raised ε) Bytes) (digest : Option String) (canary : Option Bytes) :
    s.rekey (.apart f) (digest.map Text.points) canary =
      settle s ((s.rekeyFiles f digest canary).mapError RekeyError.escaped) := by
  cases hopen : s.isOpen with
  | false =>
    rw [rekeyFiles_closed hopen, rekey_closed hopen]
    rfl
  | true =>
    rw [rekeyFiles_eq hopen, rekey_open hopen ho, Text.mapM_encodable_points]
    cases s.rekeyRows f 0 s.db.files with
    | error e => rfl
    | ok files => by_cases hf : s.db.refuses .config .update 1 = true <;> simp [hf] <;> rfl

/-- What a transaction answers and leaves when its code leaves the store alone: all of it is done,
or nothing. An error of the database comes out as one of the store, whoever has raised it. -/
structure TransactsExactly (f : Nat → Bytes → Except (Raised ε) Bytes)
    (digest : Option (List Text.Point)) (canary : Option Bytes) (s : Store)
    (answer : Except (RekeyFailure ε) Nat × Store) : Prop where
  whole : ∀ n, answer.1 = .ok n → n = s.db.files.length ∧
    ∃ files text, Rewritten f 0 s.db.files files ∧ digest = text.map Text.points ∧
      answer.2 = s.withDatabase { s.db with files := files, secret := ⟨text, canary, false⟩ }
  nothing : ∀ err, answer.1 = .error err → answer.2 = s ∧
    (err = .store (.failed .rekeyFiles) ∨
      (∃ i e, FirstFailure f 0 s.db.files i (.other e) ∧ err = .transform e) ∨
      ∃ p x, digest = some p ∧ Text.encodable p = .error x ∧ err = .unencodable x)
  succeeds : (∃ n, answer.1 = .ok n) ↔ s.isOpen = true ∧
    (∃ text : Option String, digest = text.map Text.points) ∧
    s.db.refuses .config .update 1 = false ∧
    (∀ r ∈ s.db.files, s.db.refuses .files .update r.id = false) ∧
    ∀ i r, s.db.files[i]? = some r → ∃ c, f i r.ciphertext = .ok c
  first : s.isOpen = true → (∀ r ∈ s.db.files, s.db.refuses .files .update r.id = false) →
    (∃ i r e, s.db.files[i]? = some r ∧ f i r.ciphertext = .error e) →
      ∃ i e, FirstFailure f 0 s.db.files i e ∧ answer.1 = .error e.escaped

theorem FirstFailure.not_all_ok {i : Nat} {e : ε} {rows : List FileRecord}
    (h : FirstFailure transform 0 rows i e) :
    ¬ ∀ i r, rows[i]? = some r → ∃ c, transform i r.ciphertext = .ok c := by
  obtain ⟨⟨r, hi, he⟩, -⟩ := h
  intro hall
  obtain ⟨c, hc⟩ := hall i r hi
  rw [Nat.zero_add, hc] at he
  cases he

section

variable {f : Nat → Bytes → Except (Raised ε) Bytes} {digest : Option (List Text.Point)}
  {canary : Option Bytes}

theorem Rewritten.all_ok {rows rows' : List FileRecord} (h : Rewritten f 0 rows rows') :
    ∀ i r, rows[i]? = some r → ∃ c, f i r.ciphertext = .ok c := by
  intro i r hi
  obtain ⟨c, hc⟩ := h.succeeds hi
  rw [Nat.zero_add] at hc
  exact ⟨c, hc⟩

theorem Rewritten.not_fails {rows rows' : List FileRecord} (h : Rewritten f 0 rows rows') :
    ¬ ∃ i r e, rows[i]? = some r ∧ f i r.ciphertext = .error e := by
  rintro ⟨i, r, e, hi, he⟩
  obtain ⟨c, hc⟩ := h.all_ok i r hi
  rw [hc] at he
  cases he

/-- Statements that fail, or a store that is closed. -/
theorem transactsExactly_refused
    (hs : ¬ (s.isOpen = true ∧ s.db.refuses .config .update 1 = false ∧
      ∀ r ∈ s.db.files, s.db.refuses .files .update r.id = false))
    (hf : s.isOpen = true → (∀ r ∈ s.db.files, s.db.refuses .files .update r.id = false) →
      ¬ ∃ i r e, s.db.files[i]? = some r ∧ f i r.ciphertext = .error e) :
    TransactsExactly f digest canary s (.error (.store (.failed .rekeyFiles)), s) where
  whole := nofun
  nothing err h := by
    cases h
    exact ⟨rfl, .inl rfl⟩
  succeeds := ⟨nofun, fun ⟨hopen, _, hc, hr, _⟩ => absurd ⟨hopen, hc, hr⟩ hs⟩
  first hopen hr hfails := absurd hfails (hf hopen hr)

theorem transactsExactly_unencodable {x : Text.Unencodable}
    (hx : digest.mapM Text.encodable = .error x)
    (hf : ¬ ∃ i r e, s.db.files[i]? = some r ∧ f i r.ciphertext = .error e) :
    TransactsExactly f digest canary s (.error (.unencodable x), s) where
  whole := nofun
  nothing err h := by
    cases h
    obtain ⟨p, hp, hpx⟩ := Text.mapM_encodable_error hx
    exact ⟨rfl, .inr (.inr ⟨p, x, hp, hpx, rfl⟩)⟩
  succeeds := by
    refine ⟨nofun, fun ⟨_, ⟨text, ht⟩, _⟩ => ?_⟩
    rw [ht, Text.mapM_encodable_points] at hx
    cases hx
  first _ _ hfails := absurd hfails hf

theorem transactsExactly_raised {i : Nat} {e : Raised ε} (h : FirstFailure f 0 s.db.files i e) :
    TransactsExactly f digest canary s (.error e.escaped, s) where
  whole := nofun
  nothing err herr := by
    cases herr
    cases e with
    | database => exact ⟨rfl, .inl rfl⟩
    | other e => exact ⟨rfl, .inr (.inl ⟨i, e, h, rfl⟩)⟩
  succeeds := ⟨nofun, fun ⟨_, _, _, _, hall⟩ => absurd hall h.not_all_ok⟩
  first _ _ _ := ⟨i, e, h, rfl⟩

theorem transactsExactly_whole {files : List FileRecord} {text : Option String}
    (hopen : s.isOpen = true) (ht : digest.mapM Text.encodable = .ok text)
    (hc : s.db.refuses .config .update 1 = false)
    (hr : ∀ r ∈ s.db.files, s.db.refuses .files .update r.id = false)
    (h : Rewritten f 0 s.db.files files) :
    TransactsExactly f digest canary s (.ok files.length,
      s.withDatabase { s.db with files := files, secret := ⟨text, canary, false⟩ }) where
  whole n hn := by
    cases hn
    exact ⟨h.1, files, text, h, Text.eq_points_of_mapM_encodable ht, rfl⟩
  nothing := nofun
  succeeds := by
    have hd := Text.eq_points_of_mapM_encodable ht
    exact ⟨fun _ => ⟨hopen, ⟨text, hd⟩, hc, hr, h.all_ok⟩, fun _ => ⟨_, rfl⟩⟩
  first _ _ hfails := absurd hfails h.not_fails

end

/-- All ciphertexts are changed in one transaction. Whatever fails, the store is as it was. The
first call that fails does so with its own error, or with the store's where that came from the
database; where none does, no write is refused and the new digest has a UTF-8 form, every file has
what its own call gave for its own ciphertext and is otherwise the same, the new secret is stored,
and the answer is how many files there are. -/
theorem rekey_transaction (f : Nat → Bytes → Except (Raised ε) Bytes)
    (digest : Option (List Text.Point)) (canary : Option Bytes) (s : Store)
    (ho : (s.db.files.map (·.id)).Nodup) :
    TransactsExactly f digest canary s (s.rekey (.apart f) digest canary) := by
  cases hopen : s.isOpen with
  | false =>
    rw [rekey_closed hopen]
    exact transactsExactly_refused (by simp [hopen]) (by simp [hopen])
  | true =>
    rw [rekey_open hopen ho]
    -- The rows come first, then the text of the digest, then its write.
    obtain ⟨files, hr, hrows, hn⟩ | ⟨i, e, hfirst, hr⟩ | ⟨⟨r, hm, hn⟩, hr⟩ :=
      rekeyRows_cases s f 0 s.db.files
    · rw [hr]
      cases ht : digest.mapM Text.encodable with
      | error x => exact transactsExactly_unencodable ht hrows.not_fails
      | ok text =>
        by_cases hc : s.db.refuses .config .update 1 = true
        · simp only [if_pos hc]
          exact transactsExactly_refused (by simp [hc]) fun _ _ => hrows.not_fails
        · simp only [if_neg hc]
          exact transactsExactly_whole hopen ht (by simpa using hc) hn hrows
    · rw [hr]
      exact transactsExactly_raised hfirst
    · rw [hr]
      have hnot : ¬ ∀ r ∈ s.db.files, s.db.refuses .files .update r.id = false := fun h => by
        rw [h r hm] at hn
        cases hn
      exact transactsExactly_refused (fun h => hnot h.2.2) fun _ h => absurd h hnot

/-- Two files as they are put into an empty store. -/
def twoFiles : Database :=
  { Database.empty with
    files := [⟨⟨1, "a", ".txt", 1, "2024-01-01 09:00:00"⟩, [1]⟩,
      ⟨⟨2, "b", ".txt", 1, "2024-01-02 09:00:00"⟩, [2]⟩]
    lastFile := 2 }

/-- A call that does not take the ciphertext of the second of them. -/
def takesFirst (k : Nat) (ciphertext : Bytes) : Except (Raised String) Bytes :=
  if ciphertext = [2] then .error (.other "tag") else .ok (UInt8.ofNat k :: ciphertext)

/-- The last of two calls fails, behind an update of the first file. -/
theorem rekey_transaction_last : (twoFiles.files.map (·.id)).Nodup ∧
    TransactsExactly takesFirst (some (Text.points "d")) none (ofDatabase twoFiles)
      (.error (.transform "tag"), ofDatabase twoFiles) := by
  have ho : (twoFiles.files.map (·.id)).Nodup := by decide
  exact ⟨ho, rekey_transaction takesFirst (some (Text.points "d")) none (ofDatabase twoFiles) ho⟩

/-- A third file behind these. -/
def threeFiles : Database :=
  { twoFiles with
    files := twoFiles.files ++ [⟨⟨3, "c", ".txt", 1, "2024-01-03 09:00:00"⟩, [3]⟩]
    lastFile := 3 }

/-- Code that looks up the stored digest at each call, and fails at the third. -/
def looksUpDigest : Rewriter String := fun k ciphertext t =>
  let (_, t) := t.call fun s => s.pinDigest.map (·, s)
  if k = 2 then (.error (.other "tag"), t) else (.ok (0 :: ciphertext), t)

/-- A refused write fails a change whose code does not, and so does a digest that is half of a
surrogate pair; an error of the database does not come out as itself; and code that looks into the
store commits what was rewritten before it fails. -/
theorem rekey_not_as_raised :
    (ofDatabase { twoFiles with faults := [⟨.files, .update, some 2⟩] }).rekey
        (.apart fun _ c => (.ok (0 :: c) : Except (Raised String) Bytes))
        (some (Text.points "d")) none =
      (.error (.store (.failed .rekeyFiles)),
        ofDatabase { twoFiles with faults := [⟨.files, .update, some 2⟩] }) ∧
    (ofDatabase twoFiles).rekey
        (.apart fun _ c => (.ok (0 :: c) : Except (Raised String) Bytes))
        (some [.half 0xD800]) none =
      (.error (.unencodable ⟨.utf8, [.half 0xD800], 0⟩), ofDatabase twoFiles) ∧
    (ofDatabase twoFiles).rekey
        (.apart fun _ _ => (.error .database : Except (Raised String) Bytes))
        (some (Text.points "d")) none =
      (.error (.store (.failed .rekeyFiles)), ofDatabase twoFiles) ∧
    ((ofDatabase threeFiles).rekey looksUpDigest (some (Text.points "d")) none).1 =
      .error (.transform "tag") ∧
    ((ofDatabase threeFiles).rekey looksUpDigest (some (Text.points "d")) none).2.db.files.map
      (·.ciphertext) = [[0, 1], [0, 2], [3]] :=
  ⟨rfl, rfl, rfl, rfl, rfl⟩

end CovertVault.Store
