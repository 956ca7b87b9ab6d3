import VeraMono.Model.PcSample
import VeraMono.Proof.JobJournal

/-!
# What a confirmed attempt holds

`confirm_terminal_readback` compares the digests it read with those it was given, and
commits later. The row it commits to is the row it read: between the two it can only
have gone further, and the transaction takes it from the state the read found.

The methods forward the columns they are given to `_transition`, so that a caller can set a
digest in any step: `JournalCall.Plain` calls do not.
-/

namespace VeraMono

open Framework Prog JobJournal

variable {rt : PcccRuntime} {identity : AttemptIdentity} {event : EventArgs} {edge : JournalEdge}
  {row next : AttemptProjection} {s s' : JournalStore} {c : JournalCall}
  {h : List (Move Empty JournalStore)} {trace : JournalTrace} {st : Step Empty JournalStore JournalCall}

/-! ## Results -/

theorem orText_some {new old : String} (hnew : new ≠ "") : orText (some new) old = new := if_neg hnew

/-- A forwarded column that leaves the stored one as it is. -/
def Leaves (column : Option String) : Prop := column = none ∨ column = some ""

theorem Leaves.orText_eq {column : Option String} (h : Leaves column) (old : String) :
    orText column old = old := by
  rcases h with rfl | rfl <;> rfl

/-- A call that forwards no result, and, where it confirms, no receipt. -/
structure JobJournal.JournalCall.Plain (c : JournalCall) : Prop where
  result : Leaves c.event.columns.resultDigest
  receipt : ∀ args, c.op = .confirmTerminalReadback args → Leaves c.event.columns.terminalReceiptDigest

theorem JournalStep.result_eq {key : String × String} {row' : AttemptProjection} (hplain : c.Plain)
    (hs : JournalStep rt c s s') (hrow : s.attempts.get? key = some row)
    (hrow' : s'.attempts.get? key = some row') (hobs : row.localState.observed) :
    row'.resultDigest = row.resultDigest := by
  have hsame : s'.attempts.get? key = s.attempts.get? key → row'.resultDigest = row.resultDigest := by
    intro heq
    rw [heq, hrow] at hrow'
    rw [Option.some.inj hrow']
  cases hs with
  | idle => exact hsame rfl
  | recorded _ hr =>
    refine hsame (hr.get?_other ?_)
    rintro rfl
    rw [hr.fresh] at hrow
    cases hrow
  | @moved _ edge old next hedge hm =>
    by_cases hk : key = c.identity.key
    · subst hk
      obtain rfl := Option.some.inj (hm.found.symm.trans hrow)
      obtain rfl := Option.some.inj (hm.get?_self.symm.trans hrow')
      rcases hedge.result with hnone | hnot
      · rw [hm.next_eq, AttemptProjection.moved, JournalEdge.given, hnone]
        exact hplain.result.orText_eq _
      · exact absurd hobs (hnot _ hm.allowed)
    · exact hsame (hm.get?_other hk)

/-- From the step that observed it, an attempt keeps its result. -/
theorem result_traced {key : String × String} (ht : Traced (JobJournal.program rt) .empty trace s)
    (hplain : ∀ st ∈ trace, st.call.Plain) (hst : st ∈ trace)
    (hrow : st.move.after.attempts.get? key = some row) (hobs : row.localState.observed) :
    ∃ row', s.attempts.get? key = some row' ∧ Ages row row' ∧ row'.resultDigest = row.resultDigest := by
  induction ht with
  | init => cases hst
  | step i c _ _ hs ih =>
    rcases List.mem_cons.1 hst with rfl | hst
    · exact ⟨row, hrow, .refl row, rfl⟩
    · obtain ⟨row', hrow', hages, hresult⟩ := ih (fun st hst => hplain st (List.mem_cons_of_mem _ hst)) hst
      have hstep := journal_step hs
      obtain ⟨row'', hrow'', hages', -⟩ := hstep.attemptsAge key row' hrow'
      exact ⟨row'', hrow'', hages.trans hages', (hstep.result_eq (hplain _ List.mem_cons_self) hrow' hrow''
        (hobs.trans hages.rank_le)).trans hresult⟩

/-- A recorded result is the result of its attempt from then on. -/
theorem recorded_traced {d : String} (ht : Traced (JobJournal.program rt) .empty trace s)
    (hplain : ∀ st ∈ trace, st.call.Plain) (hst : st ∈ trace)
    (hop : st.call.op = .recordResult d)
    (hok : JobJournal.recordResult rt st.call.identity d st.call.event st.move.before = .ok (next, s')) :
    ∃ row, s.attempts.get? st.call.identity.key = some row ∧ row.resultDigest = d := by
  obtain ⟨hd, edge, row, hedge, hstate, hresult, hm⟩ := recordResult_ok hok
  obtain ⟨later, earlier, rfl⟩ := List.append_of_mem hst
  obtain ⟨-, -, hs⟩ := ht.split
  have hafter : st.move.after = s' := by
    rw [JobJournal.program, hop] at hs
    obtain ⟨-, hs⟩ := steps_txn.1 hs
    rw [hs, hok]
    rfl
  have hnext : next.localState = .resultObserved ∧ next.resultDigest = d := by
    rw [hm.next_eq]
    refine ⟨hstate, ?_⟩
    rw [AttemptProjection.moved, JournalEdge.given_result hresult]
    exact orText_some hd
  obtain ⟨row', hrow', -, hkept⟩ := result_traced ht hplain hst (hafter ▸ hm.get?_self)
    (by rw [hnext.1]; exact le_rfl)
  exact ⟨row', hrow', hkept.trans hnext.2⟩

/-! ## Readbacks -/

/-- The row the readback accepted. -/
theorem checkSubmitted_ok {args : ReadbackArgs} {current : Option AttemptProjection}
    (hok : checkSubmitted args current = .ok ()) : ∃ row, current = some row ∧
      row.localState = .completing ∧ row.resultDigest = args.expectedResultDigest ∧
      row.terminalReceiptDigest = args.expectedReceiptDigest := by
  cases current with
  | none => cases hok
  | some row =>
    simp only [checkSubmitted, ite_error_ok, ite_throw_ok, ↓throw_bind, not_or, not_not] at hok
    exact ⟨row, rfl, hok.1, hok.2.1.1, hok.2.1.2⟩

variable (rt) in
def readbackEdge (args : ReadbackArgs) : JournalEdge where
  allowedStates := [.completing]
  eventType := .terminalReadbackConfirmed
  committedState := .terminalConfirmed
  serverReadbackReceiptId := some args.serverReadbackReceiptId
  serverReadbackDigest := some args.serverReadbackDigest

/-- The last step of a readback that returns, and the read before it. -/
theorem confirm_ends {args : ReadbackArgs} {reply : AttemptProjection}
    (hs : ((confirmTerminalReadback rt identity args event).after h).Ends s s' reply) :
    ∃ m ∈ h, checkSubmitted args (m.before.attempts.get? identity.key) = .ok () ∧
      transition rt identity event (readbackEdge args) s = .ok (reply, s') := by
  simp only [confirmTerminalReadback, JobJournal.get, Prog.bind_assoc, ends_check] at hs
  obtain ⟨_, -, _, -, _, -, hs⟩ := hs
  rw [ends_read] at hs
  · obtain ⟨h', m, rfl, hs⟩ := hs
    obtain ⟨⟨⟩, hcheck, hs⟩ := ends_check.1 hs
    obtain ⟨-, htxn⟩ := ends_txn.1 hs
    exact ⟨m, List.mem_append_right _ (List.mem_singleton_self m), hcheck, htxn⟩
  · exact fun current => check_ne_ret fun _ => txn_ne_ret

/-- A readback that returned has left the row it confirmed, with the digests it was given. -/
theorem confirmed_follows {P : Pool Empty JournalStore Failure AttemptProjection JournalCall}
    (hf : Follows (JobJournal.program rt) .empty P) {i : Nat} {args : ReadbackArgs} {reply : AttemptProjection}
    (hplain : JournalCall.Plain ⟨identity, .confirmTerminalReadback args, event⟩)
    (hi : P.thread i = some ⟨⟨identity, .confirmTerminalReadback args, event⟩, some (.ret reply)⟩) :
    P.store.attempts.get? identity.key = some reply ∧ reply.localState = .terminalConfirmed ∧
      reply.resultDigest = args.expectedResultDigest ∧
      reply.terminalReceiptDigest = args.expectedReceiptDigest := by
  have hne : JobJournal.program rt ⟨identity, .confirmTerminalReadback args, event⟩ ≠ .ret reply := by
    simp only [JobJournal.program, confirmTerminalReadback, JobJournal.get, Prog.bind_assoc]
    exact check_ne_ret fun _ => check_ne_ret fun _ => check_ne_ret fun _ => read_ne_ret
  obtain ⟨later, st, earlier, htr, rfl, hcall, hends⟩ := hf.returned hne hi
  obtain ⟨m, hm, hcheck, htxn⟩ := confirm_ends hends
  obtain ⟨read, hread, hstate, hresult, hreceipt⟩ := checkSubmitted_ok hcheck
  obtain ⟨row, hmoves⟩ := transition_ok htxn
  have ht := hf.traced
  rw [htr] at ht
  obtain ⟨hearlier, -, -⟩ := ht.split
  -- the row that is written is the row that was read
  obtain ⟨st', hst', -, rfl⟩ := Traced.mem_of_hist hm
  obtain ⟨row', hrow', hages, -⟩ := (attemptsAge_traced hearlier hst').1 _ _ hread
  obtain rfl : row = row' := Option.some.inj (hmoves.found.symm.trans hrow')
  have hcompleting : row.localState = .completing := List.mem_singleton.1 hmoves.allowed
  obtain rfl := hages.eq_of_state (hcompleting.trans hstate.symm)
  -- and what was written is terminal
  have hreply := hmoves.next_eq
  obtain ⟨final, hfinal, hages', -⟩ := (attemptsAge_traced ht (List.mem_append_right _
    List.mem_cons_self)).2 _ _ hmoves.get?_self
  have hterm : reply.localState ∈ terminalStates := by
    rw [hreply]
    exact List.mem_cons_self
  obtain rfl := hages'.terminal hterm
  refine ⟨hfinal, by rw [hreply]; rfl, ?_, ?_⟩
  · rw [hreply]
    exact (hplain.result.orText_eq _).trans hresult
  · rw [hreply]
    exact ((hplain.receipt args rfl).orText_eq _).trans hreceipt

variable (rt) in
structure ResultsKept (P : Pool Empty JournalStore Failure AttemptProjection JournalCall) : Prop where
  /-- A result that was recorded once is the result of its attempt. -/
  recorded : ∀ st ∈ P.trace, ∀ d next s', st.call.op = .recordResult d →
    JobJournal.recordResult rt st.call.identity d st.call.event st.move.before = .ok (next, s') →
    ∃ row, P.store.attempts.get? st.call.identity.key = some row ∧ row.resultDigest = d
  confirmed : ∀ i identity args event reply,
    P.thread i = some ⟨⟨identity, .confirmTerminalReadback args, event⟩, some (.ret reply)⟩ →
    P.store.attempts.get? identity.key = some reply ∧ reply.localState = .terminalConfirmed ∧
      reply.resultDigest = args.expectedResultDigest ∧
      reply.terminalReceiptDigest = args.expectedReceiptDigest

variable (rt) in
theorem results_kept (es : List (Event JournalCall)) (hplain : ∀ i c, .spawn i c ∈ es → c.Plain) :
    ResultsKept rt ((Pool.init .empty).run (JobJournal.program rt) es) := by
  have hf := Pool.follows (JobJournal.program rt) .empty es
  have hspawned {i : Nat} {t} (ht : ((Pool.init .empty).run (JobJournal.program rt) es).thread i = some t) :
      t.call.Plain := by
    rcases Pool.call_run ht with ⟨_, h, -⟩ | h
    · cases h
    · exact hplain _ _ h
  have hcalls : ∀ st ∈ ((Pool.init .empty).run (JobJournal.program rt) es).trace, st.call.Plain :=
    fun st hst => by
      obtain ⟨t, ht, hcall⟩ := hf.calls st hst
      exact hcall ▸ hspawned ht
  exact ⟨fun st hst d next s' hop hok => recorded_traced hf.traced hcalls hst hop hok,
    fun i identity args event reply hi => confirmed_follows hf (hspawned hi) hi⟩

/-! ## A result that is replaced -/

def journalEvent (n : Char) (columns : JournalColumns) : EventArgs :=
  ⟨"01900000-0000-7000-8000-00000000000".push n, zeroSha256, "", 1, "2026-01-01T00:00:00.000000Z", columns⟩

def sampleResult (n : Char) : String := String.ofList (List.replicate 64 n)

/-- An attempt whose result is recorded, and which is sent to recovery with the columns given. -/
def recoveredRun (columns : JournalColumns) : List (Event JournalCall) :=
  let attempt := QualifiedPCExecutionAdapter.attemptIdentity samplePcDispatch sampleLease
  [.spawn 0 ⟨attempt, .recordClaim, journalEvent '1' {}⟩, .step 0,
    .spawn 1 ⟨attempt, .startPreparation, journalEvent '2' {}⟩, .step 1,
    .spawn 2 ⟨attempt, .recordResult (sampleResult 'a'), journalEvent '3' {}⟩, .step 2,
    .spawn 3 ⟨attempt, .requireRecovery, journalEvent '4' columns⟩, .step 3]

/-- What the attempts hold after each step of a run, the last step first. -/
def resultsAlong (es : List (Event JournalCall)) : List (List (JournalState × String)) :=
  ((Pool.init .empty).run (JobJournal.program samplePc.envelopes.pccc) es).trace.map fun st =>
    st.move.after.attempts.rows.map fun row => (row.localState, row.resultDigest)

theorem results_kept_recovered : ResultsKept samplePc.envelopes.pccc
    ((Pool.init .empty).run (JobJournal.program samplePc.envelopes.pccc) (recoveredRun {})) := by
  refine results_kept _ _ fun i c h => ?_
  simp only [recoveredRun, List.mem_cons, Event.spawn.injEq, reduceCtorEq, List.not_mem_nil, false_or,
    or_false] at h
  rcases h with ⟨-, rfl⟩ | ⟨-, rfl⟩ | ⟨-, rfl⟩ | ⟨-, rfl⟩ <;>
    exact ⟨.inl rfl, fun _ _ => .inl rfl⟩

/-- A call that forwards another `result_digest` replaces the recorded one. -/
theorem recorded_result_replaced :
    resultsAlong (recoveredRun { resultDigest := some (sampleResult 'b') }) =
      [[(.recoveryRequired, sampleResult 'b')], [(.resultObserved, sampleResult 'a')],
        [(.preparing, zeroSha256)], [(.claimed, zeroSha256)]] := by
  decide +kernel

end VeraMono
