import CovertVault.Proofs.Backup.Job
import Mathlib.Data.List.Pairwise

namespace CovertVault.Backup

/-- A call that a job has made. -/
structure Turn (ι : Type) extends Exchange where
  job : ι
  /-- The snapshot's object before the call, and after it. -/
  before : Option Object
  after : Option Object
deriving DecidableEq

variable {ι : Type} [DecidableEq ι]

/-- What passed between a job and the bucket, of all that was called, newest first. -/
def said (i : ι) : List (Turn ι) → List Exchange
  | [] => []
  | t :: log => if t.job = i then said i log ++ [t.toExchange] else said i log

theorem mem_said {i : ι} {log : List (Turn ι)} {e : Exchange} :
    e ∈ said i log ↔ ∃ t ∈ log, t.job = i ∧ t.toExchange = e := by
  induction log with
  | nil => simp [said]
  | cons t log ih =>
    unfold said
    by_cases ht : t.job = i
    · rw [if_pos ht, List.mem_append, ih, List.mem_singleton]
      simp [ht, or_comm, eq_comm]
    · rw [if_neg ht, ih]
      simp [ht]

/-- Where any number of jobs come, starting with nothing in the bucket, if each makes its next call
when it likes. -/
inductive Reached (s : SnapshotStore) (jobs : ι → Job) : Holding → List (Turn ι) → Prop
  | start {h : Holding} : (∀ p, h.object? p = none) → Reached s jobs h []
  | turn {h h' : Holding} {log : List (Turn ι)} {i : ι} {c : Call} {reply : Except Failure Reply} :
      Reached s jobs h log → (jobs i).next? s (said i log) = some c → Serves h c reply h' →
      Reached s jobs h' (⟨⟨c, reply⟩, i, h.object? s.place, h'.object? s.place⟩ :: log)

variable {s : SnapshotStore} {jobs : ι → Job} {h : Holding} {log : List (Turn ι)}

theorem Reached.follows (hr : Reached s jobs h log) (i : ι) : (jobs i).Follows s (said i log) := by
  induction hr with
  | start =>
    unfold said Job.Follows
    cases jobs i <;> simp
  | @turn h h' log k c reply _ hc _ ih =>
    unfold said
    dsimp only
    by_cases hk : k = i
    · subst hk
      rw [if_pos rfl]
      exact ih.snoc hc reply
    · rw [if_neg hk]
      exact ih

theorem Reached.next (hr : Reached s jobs h log) {i : ι} {c : Call}
    (hc : (jobs i).next? s (said i log) = some c) : Next s (jobs i) (said i log) c :=
  next_of_follows (hr.follows i) hc

/-- The next call of a job, if it is not at its end. -/
def takeTurn (s : SnapshotStore) (jobs : ι → Job) (b : Bucket × List (Turn ι)) (i : ι) :
    Bucket × List (Turn ι) :=
  match (jobs i).next? s (said i b.2) with
  | none => b
  | some c =>
    let (reply, after) := b.1.answer c
    (after, ⟨⟨c, reply⟩, i, b.1.find? s.place, after.find? s.place⟩ :: b.2)

/-- Jobs that make their calls in an order. -/
def takeTurns (s : SnapshotStore) (jobs : ι → Job) (order : List ι) (b : Bucket) :
    Bucket × List (Turn ι) :=
  order.foldl (takeTurn s jobs) (b, [])

theorem reached_takeTurn {b : Bucket × List (Turn ι)} (hr : Reached s jobs b.1.holding b.2)
    (i : ι) : Reached s jobs (takeTurn s jobs b i).1.holding (takeTurn s jobs b i).2 := by
  unfold takeTurn
  cases hc : (jobs i).next? s (said i b.2) with
  | none => exact hr
  | some c => exact .turn hr hc (b.1.answer_serves c)

theorem reached_takeTurns (s : SnapshotStore) (jobs : ι → Job) (order : List ι) {b : Bucket}
    (hb : b.objects = []) :
    Reached s jobs (takeTurns s jobs order b).1.holding (takeTurns s jobs order b).2 := by
  have hstart : Reached s jobs b.holding [] := .start fun p => by
    change b.objects.lookup p = none
    rw [hb]
    rfl
  exact List.foldlRecOn order _
    (motive := fun b : Bucket × List (Turn ι) => Reached s jobs b.1.holding b.2) hstart
    fun _ hr i _ => reached_takeTurn hr i

theorem staging_ne_place (s : SnapshotStore) (name : String) : s.staging name ≠ s.place := by
  intro h
  have hl := congrArg (fun p => p.key.length) h
  have hs : (".staging-" : String).length = 9 := rfl
  simp only [SnapshotStore.staging, String.length_append] at hl
  omega

theorem staging_injective {a b : String} (h : s.staging a = s.staging b) : a = b := by
  have hl := congrArg (fun p => p.key.toList) h
  simp only [SnapshotStore.staging, String.toList_append, List.append_assoc,
    List.append_cancel_left_eq] at hl
  exact String.toList_injective hl

/-- Names of staging places are used once. -/
def NamedApart (jobs : ι → Job) : Prop :=
  ∀ i j d d' tag tag' name, jobs i = .replace d tag name → jobs j = .replace d' tag' name → i = j

omit [DecidableEq ι] in
/-- A job changes the snapshot's place and its own staging place only. -/
theorem Next.target?_eq {j : Job} {es : List Exchange} {c : Call} (hn : Next s j es c) {p : Place}
    (hp : c.target? = some p) :
    p = s.place ∨ ∃ d tag name, j = .replace d tag name ∧ p = s.staging name := by
  cases hn with
  | get => cases hp
  | put | copy =>
    cases hp
    exact .inl rfl
  | stage | clean =>
    cases hp
    exact .inr ⟨_, _, _, rfl, rfl⟩

/-- Objects lie in the snapshot's place and in staging places only. -/
theorem Reached.places (hr : Reached s jobs h log) {p : Place} {o : Object}
    (ho : h.object? p = some o) :
    p = s.place ∨ ∃ i d tag name, jobs i = .replace d tag name ∧ p = s.staging name := by
  induction hr with
  | start hempty =>
    rw [hempty] at ho
    cases ho
  | @turn h h' log k c reply hr hc hs ih =>
    -- A call writes to its own target, which is the place of the snapshot or a staging place.
    by_cases hp : c.target? = some p
    · obtain rfl | ⟨d, tag, name, hk, rfl⟩ := (hr.next hc).target?_eq hp
      · exact .inl rfl
      · exact .inr ⟨k, d, tag, name, hk, rfl⟩
    · rw [hs.frame hp] at ho
      exact ih ho

/-- What lies in the staging place of a job is its own, and has not been cleaned up. -/
structure Staged (s : SnapshotStore) (d : Draft) (name : String) (o : Object)
    (es : List Exchange) : Prop where
  own : s.tokenOf d = .ok o.body
  put : ∃ stored, (⟨.put (s.staging name) o.body, .ok stored⟩ : Exchange) ∈ es
  left : ∀ r, (⟨.delete (s.staging name), .ok r⟩ : Exchange) ∉ es

omit [DecidableEq ι] in
theorem Staged.snoc {d : Draft} {name : String} {o : Object} {es : List Exchange}
    (h : Staged s d name o es) {e : Exchange} (he : ∀ r, e ≠ ⟨.delete (s.staging name), .ok r⟩) :
    Staged s d name o (es ++ [e]) where
  own := h.own
  put := h.put.imp fun _ hmem => List.mem_append_left _ hmem
  left r hmem := by
    obtain hmem | hmem := List.mem_append.1 hmem
    · exact h.left r hmem
    · exact he r (List.mem_singleton.1 hmem).symm

theorem Reached.staged (hnames : NamedApart jobs) (hr : Reached s jobs h log) {i : ι} {d : Draft}
    {tag name : String} (hi : jobs i = .replace d tag name) {o : Object}
    (ho : h.object? (s.staging name) = some o) : Staged s d name o (said i log) := by
  induction hr generalizing o with
  | start hempty =>
    rw [hempty] at ho
    cases ho
  | @turn h h' log k c reply hr hc hs ih =>
    have hn := hr.next hc
    unfold said
    dsimp only
    -- No other job writes to this staging place, since the names of the drafts are apart.
    by_cases hk : k = i
    · subst hk
      rw [if_pos rfl]
      rw [hi] at hn
      generalize said k log = es at hn ih
      cases hn with
      | stage htoken =>
        cases reply with
        | error f =>
          rw [hs.failure] at ho
          obtain ⟨_, hmem⟩ := (ih ho).put
          cases hmem
        | ok r =>
          cases hs
          rw [Holding.hold_self] at ho
          cases ho
          exact ⟨htoken, ⟨_, List.mem_singleton.2 rfl⟩, by simp⟩
      | copy =>
        have hp : (Call.copy s.place (s.staging name) tag).target? ≠ some (s.staging name) :=
          fun hp => staging_ne_place s name (Option.some.inj hp).symm
        rw [hs.frame hp] at ho
        exact (ih ho).snoc (by simp)
      | clean =>
        cases reply with
        | error f =>
          rw [hs.failure] at ho
          exact (ih ho).snoc (by simp)
        | ok r =>
          cases hs
          rw [Holding.drop_self] at ho
          cases ho
    · rw [if_neg hk]
      have hp : c.target? ≠ some (s.staging name) := by
        intro hp
        obtain hplace | ⟨d', tag', name', hk', hname⟩ := hn.target?_eq hp
        · exact staging_ne_place s name hplace
        · obtain rfl := staging_injective hname
          exact hk (hnames k i d' d tag' tag name hk' hi)
      rw [hs.frame hp] at ho
      exact ih ho

/-- The turn by which a job stores the object of its draft: its only one, or its copy, which takes
the place of an object with the tag that the job goes by. -/
structure Turn.Stores (s : SnapshotStore) (jobs : ι → Job) (t : Turn ι) (d : Draft) (o : Object) :
    Prop where
  after : t.after = some o
  own : s.tokenOf d = .ok o.body
  told : ∃ told, t.reply = .ok ⟨[], told⟩ ∧ Tells told o.tag
  step : jobs t.job = .write d ∧ t.call = .put s.place o.body ∨
    ∃ tag name old, jobs t.job = .replace d tag name ∧
      t.call = .copy s.place (s.staging name) tag ∧ t.before = some old ∧ old.tag = tag

/-- A turn by which nothing is stored. -/
structure Turn.Passes (s : SnapshotStore) (t : Turn ι) : Prop where
  same : t.after = t.before
  fails : t.call.target? = some s.place → ∃ f, t.reply = .error f

theorem Reached.turn_cases (hnames : NamedApart jobs) (hr : Reached s jobs h log) {i : ι} {c : Call}
    (hc : (jobs i).next? s (said i log) = some c) {reply : Except Failure Reply} {h' : Holding}
    (hs : Serves h c reply h') {t : Turn ι}
    (ht : t = ⟨⟨c, reply⟩, i, h.object? s.place, h'.object? s.place⟩) :
    t.Passes s ∨ ∃ d o, t.Stores s jobs d o := by
  subst ht
  have hn := hr.next hc
  cases reply with
  | error f => exact .inl ⟨congrArg (·.object? s.place) hs.failure, fun _ => ⟨f, rfl⟩⟩
  | ok r =>
    -- Of the calls that succeed only a copy or an unconditional write goes to the place of the
    -- snapshot.
    by_cases hp : c.target? = some s.place
    · generalize hj : jobs i = j at hn
      generalize said i log = es at hn
      cases hn with
      | get => cases hp
      | put htoken =>
        cases hs with
        | stored _ htold =>
          exact .inr ⟨_, _, Holding.hold_self _ _ _, htoken, ⟨_, rfl, htold⟩, .inl ⟨hj, rfl⟩⟩
      | copy htoken =>
        cases hs with
        | copied hold hsource _ htold =>
          exact .inr ⟨_, _, Holding.hold_self _ _ _, (hr.staged hnames hj hsource).own,
            ⟨_, rfl, htold⟩, .inr ⟨_, _, _, hj, rfl, hold, rfl⟩⟩
      | stage | clean => exact absurd (Option.some.inj hp) (staging_ne_place s _)
    · exact .inl ⟨hs.frame hp, fun h => absurd h hp⟩

theorem Reached.turns (hnames : NamedApart jobs) (hr : Reached s jobs h log) :
    ∀ t ∈ log, t.Passes s ∨ ∃ d o, t.Stores s jobs d o := by
  induction hr with
  | start => simp
  | turn hr hc hs ih =>
    intro t ht
    obtain ht | ht := List.mem_cons.1 ht
    · exact hr.turn_cases hnames hc hs ht
    · exact ih t ht

/-- Whatever object is the snapshot's was stored by a job. -/
theorem Reached.stored (hnames : NamedApart jobs) (hr : Reached s jobs h log) {o : Object}
    (ho : h.object? s.place = some o) : ∃ t ∈ log, ∃ d, t.Stores s jobs d o := by
  induction hr with
  | start hempty =>
    rw [hempty] at ho
    cases ho
  | @turn h h' log k c reply hr hc hs ih =>
    -- The turn leaves the object of the snapshot alone, or puts there what its job holds.
    obtain hpass | ⟨d, o', hstores⟩ := hr.turn_cases hnames hc hs rfl
    · obtain ⟨t, ht, hd⟩ := ih (hpass.same.symm.trans ho)
      exact ⟨t, List.mem_cons_of_mem _ ht, hd⟩
    · obtain rfl := Option.some.inj (hstores.after.symm.trans ho)
      exact ⟨_, List.mem_cons_self, d, hstores⟩

/-- An answer shows the object that was the snapshot's then. -/
theorem Reached.shown (hnames : NamedApart jobs) (hr : Reached s jobs h log) {t : Turn ι}
    (ht : t ∈ log) (hget : t.call = .get s.place) {r : Reply} (hok : t.reply = .ok r) :
    ∃ t' ∈ log, ∃ d o, t'.Stores s jobs d o ∧ t.before = some o ∧ r = ⟨o.body, some o.tag⟩ := by
  induction hr with
  | start => cases ht
  | @turn h h' log k c reply hr hc hs ih =>
    obtain rfl | ht := List.mem_cons.1 ht
    · dsimp only at hget hok
      subst hget hok
      cases hs with
      | got ho =>
        obtain ⟨t', ht', d, hd⟩ := hr.stored hnames ho
        exact ⟨t', List.mem_cons_of_mem _ ht', d, _, hd, ho, rfl⟩
    · obtain ⟨t', ht', hd⟩ := ih ht
      exact ⟨t', List.mem_cons_of_mem _ ht', hd⟩

theorem Reached.issued (hr : Reached s jobs h log) {p : Place} {o : Object}
    (ho : h.object? p = some o) : h.issued o.tag := by
  induction hr generalizing o with
  | start hempty =>
    rw [hempty] at ho
    cases ho
  | turn _ _ hs ih =>
    obtain ho | ⟨-, hnew⟩ := hs.tag_new ho
    · exact hs.issued (ih ho)
    · exact hnew

/-- The object with the tag was replaced by a copy. -/
def Turn.Replaces (s : SnapshotStore) (t : Turn ι) (tag : String) : Prop :=
  ∃ source reply, t.call = .copy s.place source tag ∧ t.reply = .ok reply

omit [DecidableEq ι] in
theorem Serves.replaces {h' : Holding} {t : Turn ι} (hs : Serves h t.call t.reply h')
    {tag : String} (ht : t.Replaces s tag) :
    ∃ old, h.object? s.place = some old ∧ old.tag = tag ∧
      ∀ o, h'.object? s.place = some o → ¬h.issued o.tag := by
  obtain ⟨source, reply, hcall, hreply⟩ := ht
  rw [hcall, hreply] at hs
  cases hs with
  | copied hold _ hnew =>
    refine ⟨_, hold, rfl, fun o ho => ?_⟩
    rw [Holding.hold_self] at ho
    cases ho
    exact hnew

/-- A tag that was replaced does not come back. -/
theorem Reached.gone (hr : Reached s jobs h log) {t : Turn ι} (ht : t ∈ log) {tag : String}
    (hrep : t.Replaces s tag) :
    h.issued tag ∧ ∀ o, h.object? s.place = some o → o.tag ≠ tag := by
  induction hr with
  | start => cases ht
  | @turn h h' log k c reply hr hc hs ih =>
    obtain rfl | ht := List.mem_cons.1 ht
    · obtain ⟨old, hold, rfl, hnew⟩ := Serves.replaces hs hrep
      have hissued := hr.issued hold
      exact ⟨hs.issued hissued, fun o ho htag => hnew o ho (htag ▸ hissued)⟩
    · obtain ⟨hissued, hne⟩ := ih ht
      refine ⟨hs.issued hissued, fun o ho => ?_⟩
      -- An object that comes in takes a tag that was not issued before, and this one was.
      obtain ho | ⟨hnew, -⟩ := hs.tag_new ho
      · exact hne o ho
      · exact fun htag => hnew (htag ▸ hissued)

/-- No tag is replaced twice. -/
theorem Reached.once (hr : Reached s jobs h log) :
    log.Pairwise fun t t' => ∀ tag, t.Replaces s tag → ¬t'.Replaces s tag := by
  induction hr with
  | start => exact .nil
  | @turn h h' log k c reply hr hc hs ih =>
    refine List.pairwise_cons.2 ⟨fun t ht tag hrep hrep' => ?_, ih⟩
    -- The object replaced by this turn has the tag still, while a tag replaced earlier is gone.
    obtain ⟨old, hold, htag, -⟩ := Serves.replaces hs hrep
    exact (hr.gone ht hrep').2 old hold htag

theorem Reached.replaces_eq (hr : Reached s jobs h log) {t t' : Turn ι} (ht : t ∈ log)
    (ht' : t' ∈ log) {tag : String} (hrep : t.Replaces s tag) (hrep' : t'.Replaces s tag) :
    t = t' := by
  have : Std.Symm fun t t' : Turn ι => ∀ tag, t.Replaces s tag → ¬t'.Replaces s tag :=
    ⟨fun _ _ h tag hb ha => h tag ha hb⟩
  by_contra hne
  exact hr.once.forall ht ht' hne tag hrep hrep'

/-- What the result of a job comes to, by all that was called. -/
structure Orderly (s : SnapshotStore) (jobs : ι → Job) (h : Holding) (log : List (Turn ι)) :
    Prop where
  /-- A conditional write changes the snapshot's object by its copy only, and only one with the tag
  that it goes by. -/
  replaces : ∀ t ∈ log, ∀ d tag name, jobs t.job = .replace d tag name → t.after ≠ t.before →
    t.call = .copy s.place (s.staging name) tag ∧ ∃ old, t.before = some old ∧ old.tag = tag
  /-- Of all that go by one tag at most one returns. -/
  once : ∀ i j d d' tag name name' told told',
    jobs i = .replace d tag name → jobs j = .replace d' tag name' →
    ((s.replacing d tag name).resume (said i log)).result? = some (.ok told) →
    ((s.replacing d' tag name').resume (said j log)).result? = some (.ok told') → i = j
  /-- One that has come to its copy, and whose cleaning up is answered, returns the tag of the
  object that it has put there, as far as it was told; or it fails as the copy did, which changed
  nothing. -/
  ends : ∀ t ∈ log, ∀ d tag name r, jobs t.job = .replace d tag name →
    t.call = .copy s.place (s.staging name) tag →
    ((s.replacing d tag name).resume (said t.job log)).result? = some r →
    (∀ address, (⟨.delete (s.staging name), .error (.unreachable address)⟩ : Exchange) ∉
      said t.job log) →
    (∃ o told, t.Stores s jobs d o ∧ Tells told o.tag ∧ r = .ok (shownTag told)) ∨
      ∃ f, t.reply = .error f ∧ t.after = t.before ∧
        r = .error (if f.isPrecondition then .changed s.location tag else .failed f)
  /-- A read gives the snapshot that some job has written whose object it found, with the tag of
  that; or nothing, without a tag, where it is told that there is none. -/
  reads : ∀ i r, jobs i = .read → (s.read.resume (said i log)).result? = some r →
    (∃ t ∈ log, ∃ t' ∈ log, ∃ d o, t.job = i ∧ t.before = some o ∧ t'.Stores s jobs d o ∧
      r = .ok (d.snapshot, some o.tag)) ∨
      ∃ f, said i log = [⟨.get s.place, .error f⟩] ∧
        r = if f.isMissing then .ok (Snapshot.empty, none) else .error (.failed f)
  /-- When all writes are at their end and none failed to clean up, there is no other object. -/
  clean : (∀ t ∈ log, jobs t.job ≠ .read → (jobs t.job).next? s (said t.job log) = none) →
    (∀ t ∈ log, ∀ p f, t.call = .delete p → t.reply ≠ .error f) →
    ∀ p o, h.object? p = some o → p = s.place

theorem Reached.ends (hnames : NamedApart jobs) (hr : Reached s jobs h log) {t : Turn ι}
    (ht : t ∈ log) {d : Draft} {tag name : String} {r : Except Error String}
    (hj : jobs t.job = .replace d tag name) (hcall : t.call = .copy s.place (s.staging name) tag)
    (hres : ((s.replacing d tag name).resume (said t.job log)).result? = some r)
    (hclean : ∀ address, (⟨.delete (s.staging name), .error (.unreachable address)⟩ : Exchange) ∉
      said t.job log) :
    (∃ o told, t.Stores s jobs d o ∧ Tells told o.tag ∧ r = .ok (shownTag told)) ∨
      ∃ f, t.reply = .error f ∧ t.after = t.before ∧
        r = .error (if f.isPrecondition then .changed s.location tag else .failed f) := by
  have hf := hr.follows t.job
  rw [hj] at hf
  have hmem : t.toExchange ∈ said t.job log := mem_said.2 ⟨t, ht, rfl, rfl⟩
  obtain ⟨e, -, hes, -⟩ | ⟨token, f, hes, -⟩ | ⟨token, stored, copied, deleted, hes, rfl⟩ :=
    result_replacing hf hres
  · rw [hes] at hmem
    cases hmem
  · rw [hes] at hmem
    cases (congrArg Exchange.call (List.mem_singleton.1 hmem)).symm.trans hcall
  · rw [hes] at hmem hclean
    have hreply : t.reply = copied := by
      simp only [List.mem_cons, List.not_mem_nil, or_false] at hmem
      obtain he | he | he := hmem
      · cases (congrArg Exchange.call he).symm.trans hcall
      · exact congrArg Exchange.reply he
      · cases (congrArg Exchange.call he).symm.trans hcall
    have hdeleted : ∀ address, deleted ≠ .error (.unreachable address) := by
      rintro address rfl
      exact hclean address (by simp)
    rw [settle_of_answered s tag copied hdeleted]
    -- The copy has failed and left the object alone, or it has stored what the job holds.
    obtain hpass | ⟨d', o, hstores⟩ := hr.turns hnames t ht
    · obtain ⟨f, hfail⟩ := hpass.fails (by rw [hcall]; rfl)
      obtain rfl := hreply.symm.trans hfail
      refine .inr ⟨f, hfail, hpass.same, ?_⟩
      dsimp only
      split <;> rfl
    · obtain ⟨told, hok, htold⟩ := hstores.told
      obtain rfl := hreply.symm.trans hok
      obtain ⟨hwrite, -⟩ | ⟨tag', name', old, hreplace, -⟩ := hstores.step
      · cases hwrite.symm.trans hj
      · cases hreplace.symm.trans hj
        exact .inl ⟨o, told, hstores, htold, rfl⟩

theorem Reached.carried_of_returns (hr : Reached s jobs h log) {i : ι} {d : Draft}
    {tag name told : String} (hi : jobs i = .replace d tag name)
    (hres : ((s.replacing d tag name).resume (said i log)).result? = some (.ok told)) :
    ∃ t ∈ log, t.job = i ∧ t.Replaces s tag := by
  have hf := hr.follows i
  rw [hi] at hf
  obtain ⟨e, -, -, hr'⟩ | ⟨token, f, -, hr'⟩ | ⟨token, stored, copied, deleted, hes, hsettle⟩ :=
    result_replacing hf hres
  · cases hr'
  · cases hr'
  · obtain ⟨reply, rfl⟩ := settle_eq_ok hsettle.symm
    have hmem : (⟨.copy s.place (s.staging name) tag, .ok reply⟩ : Exchange) ∈ said i log := by
      rw [hes]
      simp
    obtain ⟨t, ht, hjob, he⟩ := mem_said.1 hmem
    exact ⟨t, ht, hjob, s.staging name, reply, congrArg Exchange.call he,
      congrArg Exchange.reply he⟩

theorem Reached.reads (hnames : NamedApart jobs) (hr : Reached s jobs h log) {i : ι}
    {r : Except Error (Snapshot × Option String)} (hi : jobs i = .read)
    (hres : (s.read.resume (said i log)).result? = some r) :
    (∃ t ∈ log, ∃ t' ∈ log, ∃ d o, t.job = i ∧ t.before = some o ∧ t'.Stores s jobs d o ∧
      r = .ok (d.snapshot, some o.tag)) ∨
      ∃ f, said i log = [⟨.get s.place, .error f⟩] ∧
        r = if f.isMissing then .ok (Snapshot.empty, none) else .error (.failed f) := by
  have hf := hr.follows i
  rw [hi] at hf
  obtain hes | ⟨reply, hes⟩ := follows_read hf
  · rw [hes] at hres
    cases hres
  · rw [hes] at hres
    cases reply with
    | error f =>
      refine .inr ⟨f, hes, ?_⟩
      exact (Option.some.inj hres).symm
    | ok reply =>
      have hmem : (⟨.get s.place, .ok reply⟩ : Exchange) ∈ said i log := by
        rw [hes]
        exact List.mem_singleton.2 rfl
      obtain ⟨t, ht, hjob, he⟩ := mem_said.1 hmem
      obtain ⟨t', ht', d, o, hstores, hbefore, rfl⟩ :=
        hr.shown hnames ht (congrArg Exchange.call he) (congrArg Exchange.reply he)
      refine .inl ⟨t, ht, t', ht', d, o, hjob, hbefore, hstores, ?_⟩
      refine (Option.some.inj hres).symm.trans ?_
      rw [openSnapshot_tokenOf hstores.own]
      rfl

theorem Reached.clean (hnames : NamedApart jobs) (hr : Reached s jobs h log)
    (hdone : ∀ t ∈ log, jobs t.job ≠ .read → (jobs t.job).next? s (said t.job log) = none)
    (hdelete : ∀ t ∈ log, ∀ p f, t.call = .delete p → t.reply ≠ .error f) {p : Place} {o : Object}
    (ho : h.object? p = some o) : p = s.place := by
  obtain hp | ⟨i, d, tag, name, hi, rfl⟩ := hr.places ho
  · exact hp
  · obtain ⟨htoken, ⟨stored, hput⟩, hleft⟩ := hr.staged hnames hi ho
    obtain ⟨t, ht, hjob, -⟩ := mem_said.1 hput
    have hnext := hdone t ht (by rw [hjob, hi]; exact Job.noConfusion)
    have hf := hr.follows i
    rw [hjob, hi] at hnext
    change ((s.sealing d fun token => s.writeIfMatch token tag name).resume
      (said i log)).awaits? = none at hnext
    rw [SnapshotStore.sealing_of_ok htoken] at hnext
    rw [hi] at hf
    obtain hes | ⟨token, -, hes⟩ := follows_replacing hf
    · rw [hes] at hput
      cases hput
    · generalize hsaid : said i log = es at hnext hput hleft hes
      -- A write that is at its end has cleaned up, or has put nothing into its staging place.
      cases hes with
      | staged reply =>
        obtain rfl := congrArg Exchange.reply (List.mem_singleton.1 hput)
        cases hnext
      | copied => cases hnext
      | cleaned stored copied reply =>
        cases reply with
        | ok r => exact absurd (by simp) (hleft r)
        | error f =>
          have hmem : (⟨.delete (s.staging name), .error f⟩ : Exchange) ∈ said i log := by
            rw [hsaid]
            simp
          obtain ⟨t', ht', -, he⟩ := mem_said.1 hmem
          exact absurd (congrArg Exchange.reply he)
            (hdelete t' ht' _ f (congrArg Exchange.call he))

/-- Whatever the jobs are and however their calls follow one another, as long as the names of
staging places are used once. -/
theorem orderly_of_reached (hnames : NamedApart jobs) (hr : Reached s jobs h log) :
    Orderly s jobs h log where
  replaces t ht d tag name hj hne := by
    obtain hpass | ⟨d', o, hstores⟩ := hr.turns hnames t ht
    · exact absurd hpass.same hne
    · obtain ⟨hwrite, -⟩ | ⟨tag', name', old, hreplace, hcall, hbefore, htag⟩ := hstores.step
      · cases hwrite.symm.trans hj
      · cases hreplace.symm.trans hj
        exact ⟨hcall, old, hbefore, htag⟩
  once i j d d' tag name name' told told' hi hj hres hres' := by
    obtain ⟨t, ht, rfl, hrep⟩ := hr.carried_of_returns hi hres
    obtain ⟨t', ht', rfl, hrep'⟩ := hr.carried_of_returns hj hres'
    rw [hr.replaces_eq ht ht' hrep hrep']
  ends t ht d tag name r := hr.ends hnames ht
  reads i r := hr.reads hnames
  clean hdone hdelete p o := hr.clean hnames hdone hdelete

def bin : SnapshotStore := ⟨⟨"b", "k"⟩, Seal.zeroKey⟩

def draft (createdAt : String) : Draft := ⟨⟨none, [], [], createdAt⟩, 0, Seal.zeroBlock⟩

/-- A first write, two that have seen the object of the first, and a read. -/
def rivals : Nat → Job
  | 0 => .write (draft "first")
  | 1 => .replace (draft "second") "\"e1\"" "a"
  | 2 => .replace (draft "third") "\"e1\"" "b"
  | _ => .read

theorem rivals_namedApart : NamedApart rivals := by
  intro i j d d' tag tag' name hi hj
  match i, j, hi, hj with
  | 0, _, hi, _ => cases hi
  | 1, 1, _, _ | 2, 2, _, _ => rfl
  | 1, 0, _, hj => cases hj
  | 1, 2, hi, hj =>
    cases hi
    simp [rivals] at hj
  | 1, _ + 3, _, hj => cases hj
  | 2, 0, _, hj => cases hj
  | 2, 1, hi, hj =>
    cases hi
    simp [rivals] at hj
  | 2, _ + 3, _, hj => cases hj
  | _ + 3, _, hi, _ => cases hi

def rivalry : Bucket × List (Turn Nat) := takeTurns bin rivals [0, 1, 2, 1, 2, 1, 2, 3] Bucket.empty

theorem rivalry_orderly :
    rivalry.2.length = 8 ∧ Orderly bin rivals rivalry.1.holding rivalry.2 :=
  ⟨by decide +kernel, orderly_of_reached rivals_namedApart (reached_takeTurns bin rivals _ rfl)⟩

/-- An empty bucket that cannot be reached for the second call of an operation. -/
def cutOff (op : Operation) : Bucket :=
  { Bucket.empty with faults := [(op, none), (op, some (.unreachable "https://s3.test"))] }

/-- What the second of the rivals comes to. -/
def loser (order : List Nat) (b : Bucket) : Option (Except Error String) :=
  ((bin.replacing (draft "third") "\"e1\"" "b").resume
    (said 2 (takeTurns bin rivals order b).2)).result?

/-- What is not to be relied on: a read of an empty bucket gives what nobody has written, a copy may
fail without an answer, and so may the cleaning up after a copy that was refused. -/
theorem rivals_loose_ends :
    (bin.read.resume (said 3 (takeTurns bin rivals [3] Bucket.empty).2)).result? =
        some (.ok (Snapshot.empty, none)) ∧
      loser [0, 1, 2, 1, 1, 2, 2] (cutOff .copy) =
        some (.error (.failed (.unreachable "https://s3.test"))) ∧
      loser [0, 1, 2, 1, 1, 2, 2] (cutOff .delete) =
        some (.error (.failed (.unreachable "https://s3.test"))) ∧
      loser [0, 1, 2, 1, 1, 2, 2] Bucket.empty =
        some (.error (.changed "s3://b/k" "\"e1\"")) := by
  decide +kernel

end CovertVault.Backup
