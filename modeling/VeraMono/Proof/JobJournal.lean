import VeraMono.Model.JobJournal

/-!
# Integrity of the PC job journal

`Records` and `Moves` say all that a claim and a transition which committed have found
and written, and `JournalStep` that a durable step is one of these. What every step
keeps is `JournalInv`, and what it does to an attempt is `Ages`: each edge leads to a
state of a higher rank, so that no state is met twice and a terminal one is the last.
-/

namespace VeraMono

open Framework Prog JobJournal

variable {rt : PcccRuntime} {identity : AttemptIdentity} {event : EventArgs} {edge : JournalEdge}
  {row next : AttemptProjection} {entry : LocalEntry} {key : String × String} {s s' : JournalStore}

/-! ## One transaction -/

theorem AttemptIdentity.validate_ok (h : identity.validate rt = .ok ()) :
    identity.sideEffectClass = "NONE" := by
  simp only [AttemptIdentity.validate, bind_eq_ok, ite_error_ok, ite_throw_ok, ↓throw_bind] at h
  obtain ⟨_, -, _, -, _, -, _, -, _, -, _, -, _, -, _, -, _, -, _, -, _, -, -, _, -, -, h, -⟩ := h
  exact not_not.1 h

namespace JobJournal

theorem insertEvent_ok (h : insertEvent entry s = .ok s') :
    s.events.get? entry.body.localEventId = none ∧ s' = { s with events := s.events.insert entry } := by
  simp only [insertEvent, ite_error_ok, Except.ok.injEq] at h
  obtain ⟨hfree, -, rfl⟩ := h
  exact ⟨by simpa using hfree, rfl⟩

variable (rt) in
def claimEntry (identity : AttemptIdentity) (event : EventArgs) : LocalEntry :=
  chained rt 1 zeroSha256 (localEvent identity event .claimRecorded none .claimed 1)

variable (rt) in
/-- The event of a transition of a row. -/
def movedEntry (row : AttemptProjection) (event : EventArgs) (edge : JournalEdge) : LocalEntry :=
  chained rt (row.stateVersion + 1) row.lastEventDigest (localEvent row.identity event edge.eventType
    (some row.localState) edge.committedState (row.stateVersion + 1))

variable (rt) in
/-- What a first claim found and wrote. -/
structure Records (identity : AttemptIdentity) (event : EventArgs) (s : JournalStore)
    (row : AttemptProjection) (s' : JournalStore) : Prop where
  fresh : s.attempts.get? identity.key = none
  free : s.events.get? event.localEventId = none
  row_eq : row = .recorded identity event (claimEntry rt identity event).digest
  store : s' = ⟨s.attempts.insert row, s.events.insert (claimEntry rt identity event)⟩

variable (rt) in
/-- What a transition found and wrote. -/
structure Moves (identity : AttemptIdentity) (event : EventArgs) (edge : JournalEdge)
    (row : AttemptProjection) (s : JournalStore) (next : AttemptProjection) (s' : JournalStore) :
    Prop where
  found : s.attempts.get? identity.key = some row
  same : row.identity = identity
  allowed : row.localState ∈ edge.allowedStates
  effectFree : identity.sideEffectClass = "NONE"
  free : s.events.get? event.localEventId = none
  next_eq : next = row.moved edge event (movedEntry rt row event edge).digest
  store : s' = ⟨s.attempts.update next, s.events.insert (movedEntry rt row event edge)⟩

/-- A claim finds its own row or files a new one. -/
theorem recordClaim_ok (h : recordClaim rt identity event s = .ok (row, s')) :
    (s' = s ∧ s.attempts.get? identity.key = some row ∧ row.identity = identity) ∨
      Records rt identity event s row s' := by
  rw [recordClaim] at h
  cases hrow : s.attempts.get? identity.key with
  | some old =>
    simp only [hrow, bind_eq_ok, ite_error_ok, ↓throw_bind, pure_ok, not_not] at h
    obtain ⟨_, -, _, -, _, -, hsame, h⟩ := h
    cases h
    exact .inl ⟨rfl, rfl, hsame⟩
  | none =>
    simp only [hrow, bind_eq_ok, pure_ok] at h
    obtain ⟨_, -, _, -, _, -, s₁, hinsert, h⟩ := h
    cases h
    obtain ⟨hfree, rfl⟩ := insertEvent_ok hinsert
    exact .inr ⟨hrow, hfree, rfl, rfl⟩

theorem transition_ok (h : transition rt identity event edge s = .ok (next, s')) :
    ∃ row, Moves rt identity event (edge.given event) row s next s' := by
  rw [transition] at h
  cases hrow : s.attempts.get? identity.key with
  | none =>
    simp only [hrow, bind_eq_ok] at h
    obtain ⟨_, -, _, -, _, -, h⟩ := h
    cases h
  | some row =>
    simp only [hrow, bind_eq_ok, ite_error_ok, ↓throw_bind, pure_ok, not_not] at h
    obtain ⟨_, -, ⟨⟩, hvalid, _, -, hsame, hallowed, s₁, hinsert, h⟩ := h
    cases h
    obtain ⟨hfree, rfl⟩ := insertEvent_ok hinsert
    subst hsame
    exact ⟨row, hrow, rfl, hallowed, AttemptIdentity.validate_ok hvalid, hfree, rfl, rfl⟩

end JobJournal

/-! ## One step -/

/-- How far an attempt has come. -/
def JournalState.rank : JournalState → Nat
  | .claimed => 0
  | .preparing => 1
  | .effectStarted => 2
  | .resultObserved => 3
  | .completing => 4
  | .recoveryRequired => 5
  | .abandoned => 6
  | .terminalConfirmed => 7

/-- A state after the result was recorded. -/
def JournalState.observed (state : JournalState) : Prop := JournalState.resultObserved.rank ≤ state.rank

/-- No edge leaves a terminal state, and every edge leads further. -/
abbrev Ascends (allowed : List JournalState) (committed : JournalState) : Prop :=
  ∀ state ∈ allowed, state ∉ terminalStates ∧ state.rank < committed.rank

/-- What the edges of effect-free attempts have in common. -/
structure JournalEdge.Legal (edge : JournalEdge) : Prop where
  ascends : Ascends edge.allowedStates edge.committedState
  result : edge.resultDigest = none ∨ ∀ state ∈ edge.allowedStates, ¬ state.observed
  effect : edge.eventType ≠ .effectStartCommitted

variable (rt) in
/-- What a durable step of a call can do. -/
inductive JournalStep (c : JournalCall) : JournalStore → JournalStore → Prop
  | idle (s : JournalStore) : JournalStep c s s
  | recorded {s s' : JournalStore} {row : AttemptProjection} : c.op = .recordClaim →
      Records rt c.identity c.event s row s' → JournalStep c s s'
  | moved {s s' : JournalStore} {edge : JournalEdge} {row next : AttemptProjection} : edge.Legal →
      Moves rt c.identity c.event (edge.given c.event) row s next s' → JournalStep c s s'

variable {c : JournalCall} {h : List (Move Empty JournalStore)}

/-- A transaction commits what it returned, or the step is idle. -/
theorem JournalStep.of_committed {t : JobJournal.Txn}
    (ht : ∀ row s', t s = .ok (row, s') → JournalStep rt c s s') :
    JournalStep rt c s (committed (t s) s) := by
  cases hr : t s with
  | error e => exact .idle s
  | ok r => exact ht r.1 r.2 hr

theorem JournalStep.of_transition (hedge : edge.Legal) :
    JournalStep rt c s (committed (transition rt c.identity c.event edge s) s) := by
  refine .of_committed fun next s' hok => ?_
  obtain ⟨row, hmoves⟩ := transition_ok hok
  exact .moved hedge hmoves

theorem JournalEdge.given_result {d : String} (h : edge.resultDigest = some d) :
    (edge.given event).resultDigest = some d := by
  rw [JournalEdge.given, h]
  rfl

theorem recordResult_ok {d : String} (hok : JobJournal.recordResult rt identity d event s = .ok (next, s')) :
    d ≠ "" ∧ ∃ (edge : JournalEdge) (row : AttemptProjection), edge.Legal ∧ edge.committedState = .resultObserved ∧
      edge.resultDigest = some d ∧ Moves rt identity event (edge.given event) row s next s' := by
  simp only [JobJournal.recordResult, bind_eq_ok] at hok
  obtain ⟨_, hd, hok⟩ := hok
  obtain ⟨row, hmoves⟩ := transition_ok hok
  have hclass := hmoves.effectFree
  simp only [hclass, if_true] at hmoves
  refine ⟨?_, _, row, ⟨?_, .inr ?_, ?_⟩, rfl, rfl, hmoves⟩
  · rintro rfl
    rw [sha256Hex, if_neg (by decide)] at hd
    cases hd
  · exact (by decide : Ascends [.preparing] .resultObserved)
  · simp [JournalState.observed, JournalState.rank]
  · simp

theorem readback_legal {receipt digest : String} : JournalEdge.Legal
    { allowedStates := [.completing]
      eventType := .terminalReadbackConfirmed
      committedState := .terminalConfirmed
      serverReadbackReceiptId := some receipt
      serverReadbackDigest := some digest } :=
  ⟨(by decide : Ascends [.completing] .terminalConfirmed), .inl rfl, by simp⟩

theorem journal_step (hs : ((JobJournal.program rt c).after h).Steps s s') : JournalStep rt c s s' := by
  rw [JobJournal.program] at hs
  split at hs <;> rename_i hop
  · obtain ⟨-, rfl⟩ := steps_txn.1 hs
    refine .of_committed fun row s' hok => ?_
    rcases recordClaim_ok hok with ⟨rfl, -, -⟩ | hrec
    · exact .idle s'
    · exact .recorded hop hrec
  · obtain ⟨-, rfl⟩ := steps_txn.1 hs
    exact .of_transition ⟨by decide, .inl rfl, by decide⟩
  · simp only [commitEffectStart, JobJournal.get, Prog.bind_assoc, steps_check, steps_read] at hs
    obtain ⟨_, -, _, -, ⟨-, rfl⟩ | ⟨h', m, rfl, _, hcheck, hs⟩⟩ := hs
    · exact .idle s'
    · obtain ⟨-, rfl⟩ := steps_txn.1 hs
      refine .of_committed fun next s' hok => ?_
      obtain ⟨row, hmoves⟩ := transition_ok hok
      simp only [checkEffectStart, ite_error_ok, ite_throw_ok, ↓throw_bind] at hcheck
      exact absurd hmoves.effectFree hcheck.2.1
  · obtain ⟨-, rfl⟩ := steps_txn.1 hs
    refine .of_committed fun next s' hok => ?_
    obtain ⟨-, edge, row, hedge, -, -, hmoves⟩ := recordResult_ok hok
    exact .moved hedge hmoves
  · obtain ⟨-, rfl⟩ := steps_txn.1 hs
    exact .of_transition ⟨by decide, .inl rfl, by decide⟩
  · obtain ⟨-, rfl⟩ := steps_txn.1 hs
    refine .of_committed fun next s' hok => ?_
    simp only [submitCompletion, bind_eq_ok] at hok
    obtain ⟨_, -, _, -, _, -, hok⟩ := hok
    obtain ⟨row, hmoves⟩ := transition_ok hok
    exact .moved ⟨(by decide : Ascends [.resultObserved] .completing), .inl rfl, by simp⟩ hmoves
  · simp only [confirmTerminalReadback, JobJournal.get, Prog.bind_assoc, steps_check, steps_read] at hs
    obtain ⟨_, -, _, -, _, -, ⟨-, rfl⟩ | ⟨h', m, rfl, _, -, hs⟩⟩ := hs
    · exact .idle s'
    · obtain ⟨-, rfl⟩ := steps_txn.1 hs
      exact .of_transition readback_legal
  · obtain ⟨-, rfl⟩ := steps_txn.1 hs
    exact .of_transition ⟨by decide, .inl rfl, by decide⟩

/-! ## The chains of the attempts -/

theorem JournalStore.eventsOf_insert (hfree : s.events.get? entry.body.localEventId = none)
    (attempts : Table AttemptProjection.key) :
    (⟨attempts, s.events.insert entry⟩ : JournalStore).eventsOf key =
      if entry.body.attempt = key then s.eventsOf key ++ [entry] else s.eventsOf key := by
  rw [JournalStore.eventsOf, Table.rows_insert hfree, List.filter_append]
  by_cases hk : entry.body.attempt = key <;> simp [hk, JournalStore.eventsOf]

theorem JournalStore.mem_eventsOf :
    entry ∈ s.eventsOf key ↔ entry ∈ s.events.rows ∧ entry.body.attempt = key := by
  rw [JournalStore.eventsOf, List.mem_filter, decide_eq_true_eq]

variable (rt) in
/-- The row of an attempt is what its events say. -/
structure Projected (events : List LocalEntry) (row : AttemptProjection) : Prop where
  linked : (attemptChain rt).Linked 0 zeroSha256 events row.stateVersion row.lastEventDigest
  last : ∃ last, events.getLast? = some last ∧ last.body.committed = row.localState

variable (rt) in
/-- What every step keeps of the database. -/
structure JournalInv (s : JournalStore) : Prop where
  projected : ∀ key row, s.attempts.get? key = some row → Projected rt (s.eventsOf key) row
  owned : ∀ entry ∈ s.events.rows, (s.attempts.get? entry.body.attempt).isSome = true
  effectFree : ∀ entry ∈ s.events.rows, entry.body.eventType ≠ .effectStartCommitted

theorem journalInv_empty : JournalInv rt .empty :=
  ⟨fun _ _ h => (by cases h), fun _ h => (by cases h), fun _ h => (by cases h)⟩

theorem JournalInv.eventsOf_nil (hi : JournalInv rt s) (hrow : s.attempts.get? key = none) :
    s.eventsOf key = [] := by
  rw [List.eq_nil_iff_forall_not_mem]
  intro entry he
  obtain ⟨hmem, rfl⟩ := JournalStore.mem_eventsOf.1 he
  have hsome := hi.owned entry hmem
  rw [hrow] at hsome
  cases hsome

theorem Projected.extend {events : List LocalEntry} (hp : Projected rt events row) :
    Projected rt (events ++ [movedEntry rt row event edge])
      (row.moved edge event (movedEntry rt row event edge).digest) where
  linked := hp.linked.snoc (localEvent row.identity event edge.eventType (some row.localState)
    edge.committedState (row.stateVersion + 1))
  last := ⟨movedEntry rt row event edge, List.getLast?_concat .., rfl⟩

theorem projected_claim : Projected rt [claimEntry rt identity event]
    (.recorded identity event (claimEntry rt identity event).digest) where
  linked := ⟨rfl, rfl, rfl⟩
  last := ⟨claimEntry rt identity event, rfl, rfl⟩

theorem JobJournal.Records.get?_self (hr : Records rt identity event s row s') :
    s'.attempts.get? identity.key = some row := by
  have hk : row.key = identity.key := by rw [hr.row_eq]; rfl
  rw [hr.store, ← hk]
  exact Table.get?_insert_self (hk ▸ hr.fresh)

theorem JobJournal.Records.get?_other (hr : Records rt identity event s row s')
    (hk : key ≠ identity.key) : s'.attempts.get? key = s.attempts.get? key := by
  rw [hr.store]
  refine Table.get?_insert_other ?_
  rw [hr.row_eq]
  exact hk

theorem JobJournal.Records.eventsOf (hr : Records rt identity event s row s') :
    s'.eventsOf key = if identity.key = key then s.eventsOf key ++ [claimEntry rt identity event]
      else s.eventsOf key := by
  rw [hr.store]
  exact JournalStore.eventsOf_insert hr.free _

theorem JobJournal.Moves.key_eq (hm : Moves rt identity event edge row s next s') :
    next.key = identity.key := by
  rw [hm.next_eq]
  exact congrArg AttemptIdentity.key hm.same

theorem JobJournal.Moves.get?_self (hm : Moves rt identity event edge row s next s') :
    s'.attempts.get? identity.key = some next := by
  rw [hm.store, ← hm.key_eq]
  exact Table.get?_update_self (hm.key_eq ▸ hm.found)

theorem JobJournal.Moves.get?_other (hm : Moves rt identity event edge row s next s')
    (hk : key ≠ identity.key) : s'.attempts.get? key = s.attempts.get? key := by
  rw [hm.store]
  exact Table.get?_update_other (hm.key_eq ▸ hk)

theorem JobJournal.Moves.eventsOf (hm : Moves rt identity event edge row s next s') :
    s'.eventsOf key = if identity.key = key then s.eventsOf key ++ [movedEntry rt row event edge]
      else s.eventsOf key := by
  have hkey : (movedEntry rt row event edge).body.attempt = identity.key := by
    rw [← hm.same]
    rfl
  rw [hm.store, ← hkey]
  exact JournalStore.eventsOf_insert hm.free _

theorem JournalInv.recorded (hi : JournalInv rt s) (hr : Records rt identity event s row s') :
    JournalInv rt s' where
  projected := by
    intro key r hrow
    rw [hr.eventsOf]
    by_cases hk : key = identity.key
    · subst hk
      rw [hr.get?_self] at hrow
      cases hrow
      rw [if_pos rfl, hi.eventsOf_nil hr.fresh, hr.row_eq]
      exact projected_claim
    · rw [if_neg (Ne.symm hk)]
      exact hi.projected key r (hr.get?_other hk ▸ hrow)
  owned := by
    intro entry he
    rw [hr.store, Table.rows_insert hr.free, List.mem_append, List.mem_singleton] at he
    by_cases hk : entry.body.attempt = identity.key
    · rw [hk, hr.get?_self]
      rfl
    · rcases he with he | rfl
      · rw [hr.get?_other hk]
        exact hi.owned entry he
      · exact absurd rfl hk
  effectFree := by
    intro entry he
    rw [hr.store, Table.rows_insert hr.free, List.mem_append, List.mem_singleton] at he
    rcases he with he | rfl
    · exact hi.effectFree entry he
    · simp [claimEntry, chained, localEvent]

theorem JournalInv.moved (hi : JournalInv rt s) (hedge : edge.Legal)
    (hm : Moves rt identity event (edge.given event) row s next s') : JournalInv rt s' where
  projected := by
    intro key r hrow
    rw [hm.eventsOf]
    by_cases hk : key = identity.key
    · subst hk
      rw [hm.get?_self] at hrow
      cases hrow
      rw [if_pos rfl, hm.next_eq]
      exact (hi.projected _ row hm.found).extend
    · rw [if_neg (Ne.symm hk)]
      exact hi.projected key r (hm.get?_other hk ▸ hrow)
  owned := by
    intro entry he
    rw [hm.store, Table.rows_insert hm.free, List.mem_append, List.mem_singleton] at he
    by_cases hk : entry.body.attempt = identity.key
    · rw [hk, hm.get?_self]
      rfl
    · rcases he with he | rfl
      · rw [hm.get?_other hk]
        exact hi.owned entry he
      · refine absurd ?_ hk
        rw [← hm.same]
        rfl
  effectFree := by
    intro entry he
    rw [hm.store, Table.rows_insert hm.free, List.mem_append, List.mem_singleton] at he
    rcases he with he | rfl
    · exact hi.effectFree entry he
    · exact hedge.effect

theorem JournalInv.step (hi : JournalInv rt s) (hs : JournalStep rt c s s') : JournalInv rt s' := by
  cases hs with
  | idle => exact hi
  | recorded _ hr => exact hi.recorded hr
  | moved hedge hm => exact hi.moved hedge hm

/-- The verifier accepts a row that is what its events say. -/
theorem Projected.verifyAttempt (hp : Projected rt (s.eventsOf row.key) row) :
    JobJournal.verifyAttempt rt s row = .ok () := by
  obtain ⟨last, hlast, hstate⟩ := hp.last
  have hscan : (attemptChain rt).scan (fun () _ => (.ok () : Except Unit Unit)) 0 zeroSha256 ()
      (s.eventsOf row.key) = .ok (row.stateVersion, row.lastEventDigest, ()) := by
    refine Chaining.scan_eq_ok.2 ⟨hp.linked, ?_⟩
    induction s.eventsOf row.key with
    | nil => rfl
    | cons e es ih => exact ih
  rw [JobJournal.verifyAttempt, (hp.linked.sorted.imp le_of_lt).insertionSort_eq, hscan]
  simp only [hlast, hstate, ne_eq, not_true_eq_false, or_self, if_false]

theorem JournalInv.verifyIntegrity (hi : JournalInv rt s) : verifyIntegrity rt s = .ok () :=
  forM_ok.2 fun row hrow => (hi.projected row.key row (Table.get?_of_mem hrow)).verifyAttempt

/-! ## What becomes of an attempt -/

/-- An attempt as it was and as it is later. -/
structure Ages (row row' : AttemptProjection) : Prop where
  identity : row'.identity = row.identity
  moved : row' = row ∨ row.localState ∉ terminalStates ∧ row.localState.rank < row'.localState.rank

theorem Ages.refl (row : AttemptProjection) : Ages row row := ⟨rfl, .inl rfl⟩

variable {row' : AttemptProjection}

theorem Ages.rank_le (h : Ages row row') : row.localState.rank ≤ row'.localState.rank := by
  rcases h.moved with rfl | ⟨-, hlt⟩
  · exact le_rfl
  · exact hlt.le

theorem Ages.trans {row' row'' : AttemptProjection} (h : Ages row row') (h' : Ages row' row'') :
    Ages row row'' where
  identity := h'.identity.trans h.identity
  moved := by
    rcases h.moved with rfl | ⟨hterm, hlt⟩
    · exact h'.moved
    · exact .inr ⟨hterm, hlt.trans_le h'.rank_le⟩

theorem Ages.eq_of_state (h : Ages row row')
    (hstate : row'.localState = row.localState) : row' = row := by
  rcases h.moved with heq | ⟨-, hlt⟩
  · exact heq
  · rw [hstate] at hlt
    exact absurd hlt (lt_irrefl _)

theorem Ages.terminal (h : Ages row row')
    (hterm : row.localState ∈ terminalStates) : row' = row := by
  rcases h.moved with heq | ⟨hnot, -⟩
  · exact heq
  · exact absurd hterm hnot

theorem JobJournal.Moves.ages (hm : Moves rt identity event (edge.given event) row s next s')
    (hedge : edge.Legal) : Ages row next := by
  obtain ⟨hterm, hlt⟩ := hedge.ascends _ hm.allowed
  rw [hm.next_eq]
  exact ⟨rfl, .inr ⟨hterm, hlt⟩⟩

def AttemptsAge (s s' : JournalStore) : Prop :=
  ∀ key row, s.attempts.get? key = some row → ∃ row', s'.attempts.get? key = some row' ∧
    Ages row row' ∧ (row.localState ∈ terminalStates → s'.eventsOf key = s.eventsOf key)

theorem AttemptsAge.refl (s : JournalStore) : AttemptsAge s s :=
  fun _ row hrow => ⟨row, hrow, .refl row, fun _ => rfl⟩

theorem AttemptsAge.trans {s'' : JournalStore} (h : AttemptsAge s s') (h' : AttemptsAge s' s'') :
    AttemptsAge s s'' := by
  intro key row hrow
  obtain ⟨row', hrow', hages, hev⟩ := h key row hrow
  obtain ⟨row'', hrow'', hages', hev'⟩ := h' key row' hrow'
  refine ⟨row'', hrow'', hages.trans hages', fun hterm => ?_⟩
  rw [hev' (hages.terminal hterm ▸ hterm), hev hterm]

theorem JournalStep.attemptsAge (hs : JournalStep rt c s s') : AttemptsAge s s' := by
  cases hs with
  | idle => exact .refl s
  | recorded _ hr =>
    intro key row hrow
    have hk : key ≠ c.identity.key := by
      rintro rfl
      rw [hr.fresh] at hrow
      cases hrow
    exact ⟨row, (hr.get?_other hk).trans hrow, .refl row, fun _ => by rw [hr.eventsOf, if_neg hk.symm]⟩
  | @moved _ edge old next hedge hm =>
    intro key row hrow
    by_cases hk : key = c.identity.key
    · subst hk
      obtain rfl : old = row := Option.some.inj (hm.found.symm.trans hrow)
      exact ⟨next, hm.get?_self, hm.ages hedge,
        fun hterm => absurd hterm (hedge.ascends _ hm.allowed).1⟩
    · exact ⟨row, (hm.get?_other hk).trans hrow, .refl row,
        fun _ => by rw [hm.eventsOf, if_neg (Ne.symm hk)]⟩

/-! ## Runs -/

abbrev JournalTrace := List (Step Empty JournalStore JournalCall)

variable {trace : JournalTrace} {st : Step Empty JournalStore JournalCall}

theorem journalInv_traced (ht : Traced (JobJournal.program rt) .empty trace s) : JournalInv rt s :=
  ht.invariant journalInv_empty fun _ _ _ _ hs hi => hi.step (journal_step hs)

theorem attemptsAge_traced (ht : Traced (JobJournal.program rt) .empty trace s) (hst : st ∈ trace) :
    AttemptsAge st.move.before s ∧ AttemptsAge st.move.after s :=
  ht.since .refl (fun _ _ _ => .trans) (fun _ _ _ _ hs => (journal_step hs).attemptsAge) hst

structure FirstClaim (key : String × String) (identity : AttemptIdentity)
    (st : Step Empty JournalStore JournalCall) : Prop where
  op : st.call.op = .recordClaim
  identity : st.call.identity = identity
  fresh : st.move.before.attempts.get? key = none
  found : (st.move.after.attempts.get? key).isSome = true

theorem firstClaim_traced (ht : Traced (JobJournal.program rt) .empty trace s)
    (hrow : s.attempts.get? key = some row) : ∃ st ∈ trace, FirstClaim key row.identity st := by
  induction ht generalizing row with
  | init => cases hrow
  | @step trace s s' i c _ _ hs ih =>
    have hstep := journal_step hs
    by_cases hold : s.attempts.get? key = none
    · cases hstep with
      | idle =>
        rw [hold] at hrow
        cases hrow
      | recorded hop hr =>
        obtain rfl : key = c.identity.key := by
          by_contra hk
          rw [hr.get?_other hk, hold] at hrow
          cases hrow
        have hself := hr.get?_self
        rw [hrow] at hself
        cases hself
        refine ⟨_, List.mem_cons_self, hop, ?_, hold, by rw [hrow]; rfl⟩
        rw [hr.row_eq]
        rfl
      | moved hedge hm =>
        by_cases hk : key = c.identity.key
        · rw [hk, hm.found] at hold
          cases hold
        · rw [hm.get?_other hk, hold] at hrow
          cases hrow
    · obtain ⟨old, hold⟩ := Option.ne_none_iff_exists'.1 hold
      obtain ⟨row', hrow', hages, -⟩ := hstep.attemptsAge key old hold
      rw [hrow] at hrow'
      cases hrow'
      obtain ⟨st, hst, hfirst⟩ := ih hold
      exact ⟨st, List.mem_cons_of_mem _ hst, hages.identity ▸ hfirst⟩

theorem program_commitsLast : (JobJournal.program rt c).CommitsLast := by
  have hget (j a : String) : (JobJournal.get rt j a).ReadOnly :=
    All.bind (.ofExcept _) fun _ => All.bind (.ofExcept _) fun _ => ReadOnly.read _
  have hcheck (r : Except Failure Unit) : ReadOnly (Prog.ofExcept r : JournalProg Unit) := .ofExcept r
  rw [JobJournal.program]
  split
  · exact .txn _
  · exact .txn _
  · exact .bind (hget _ _) fun _ => .bind (hcheck _) fun _ => .txn _
  · exact .txn _
  · exact .txn _
  · exact .txn _
  · exact .bind (hcheck _) fun _ => .bind (hget _ _) fun _ => .bind (hcheck _) fun _ => .txn _
  · exact .txn _

theorem recordClaim_conflict (hrow : s.attempts.get? identity.key = some row)
    (hne : row.identity ≠ identity) : ∃ e, recordClaim rt identity event s = .error e ∧
      (event.checkClaim = .ok () → identity.validate rt = .ok () → validateEventInputs rt event = .ok () →
        e = ⟨.journalConflict, "LOCAL_JOURNAL_IDENTITY_CONFLICT"⟩) := by
  rw [recordClaim]
  cases hc : event.checkClaim with
  | error e => exact ⟨e, rfl, fun h => (by cases h)⟩
  | ok =>
  cases hv : identity.validate rt with
  | error e => exact ⟨e, rfl, fun _ h => (by cases h)⟩
  | ok =>
    cases he : validateEventInputs rt event with
    | error e => exact ⟨e, rfl, fun _ _ h => (by cases h)⟩
    | ok =>
      refine ⟨_, ?_, fun _ _ _ => rfl⟩
      simp only [hrow, if_pos hne]
      rfl

variable (rt) in
structure JournalKept (P : Pool Empty JournalStore Failure AttemptProjection JournalCall) : Prop where
  verified : verifyIntegrity rt P.store = .ok ()
  unchanged : ∀ i c e, P.thread i = some ⟨c, some (.raise e)⟩ → ∀ st ∈ P.trace, st.thread = i →
    st.move.after = st.move.before
  claimed : ∀ key row, P.store.attempts.get? key = some row →
    ∃ st ∈ P.trace, FirstClaim key row.identity st
  identity : ∀ st ∈ P.trace, ∀ key row, st.move.after.attempts.get? key = some row →
    ∃ row', P.store.attempts.get? key = some row' ∧ row'.identity = row.identity
  rejected : ∀ identity event row, P.store.attempts.get? identity.key = some row →
    row.identity ≠ identity → ∃ e, recordClaim rt identity event P.store = .error e ∧
      (event.checkClaim = .ok () → identity.validate rt = .ok () → validateEventInputs rt event = .ok () →
        e = ⟨.journalConflict, "LOCAL_JOURNAL_IDENTITY_CONFLICT"⟩)
  effectOnce : ∀ key, (P.store.eventsOf key).countP
    (fun entry => entry.body.eventType = .effectStartCommitted) ≤ 1
  final : ∀ st ∈ P.trace, ∀ key row, st.move.after.attempts.get? key = some row →
    row.localState ∈ terminalStates →
    P.store.attempts.get? key = some row ∧ P.store.eventsOf key = st.move.after.eventsOf key

variable (rt) in
theorem journal_kept (es : List (Event JournalCall)) :
    JournalKept rt ((Pool.init .empty).run (JobJournal.program rt) es) := by
  have hf := Pool.follows (JobJournal.program rt) .empty es
  have hi := journalInv_traced hf.traced
  refine ⟨hi.verifyIntegrity, fun i c e hi st hst hth => hf.raised program_commitsLast hi hst hth,
    fun key row hrow => firstClaim_traced hf.traced hrow, fun st hst key row hrow => ?_,
    fun identity event row hrow hne => recordClaim_conflict hrow hne, fun key => ?_,
    fun st hst key row hrow hterm => ?_⟩
  · obtain ⟨row', hrow', hages, -⟩ := (attemptsAge_traced hf.traced hst).2 key row hrow
    exact ⟨row', hrow', hages.identity⟩
  · -- no edge of an effect-free attempt starts an effect
    rw [List.countP_eq_zero.2 fun entry he => ?_]
    · exact Nat.zero_le 1
    · simpa using hi.effectFree entry (JournalStore.mem_eventsOf.1 he).1
  · obtain ⟨row', hrow', hages, hev⟩ := (attemptsAge_traced hf.traced hst).2 key row hrow
    exact ⟨hages.terminal hterm ▸ hrow', hev hterm⟩

end VeraMono
