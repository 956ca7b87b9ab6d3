import VeraMono.Proof.BusSteps
import VeraMono.Proof.Verification

/-!
# Truthful write receipts

A command writes nothing until it appends, and after its append nothing raises but the step
that asks the host for the time of the receipt (`BusCommand.run_conduct`). So a command that
wrote reports it exactly when that step raises nothing, or an exception that it handles
itself.
-/

namespace VeraMono

open Framework Bus

variable {D α : Type}

/-! ## What a call may do -/

section Conduct
variable {R : BusRuntime D} {host : BusHost} {actor : ActorContext}

/-- The call reports a confirmed write. -/
def Confirmed (o : Except BusException TemporalCoordinationResult) : Prop :=
  ∃ r, o = .ok r ∧ r.receipt.base.databaseWriteConfirmed = true

/-- A call appended an event, which is stored. -/
def StoredOne (s s' : BusState D) : Prop :=
  ∃ event, s'.written = s.written ++ [event] ∧ ∃ e ∈ s'.log.entries, e.body = event

/-- What a call that starts in `s` does when `w` is what it writes: nothing, which it does not
report as a write, or an append, which it reports unless the time of the receipt raises. -/
inductive Conducted (R : BusRuntime D) (host : BusHost) (s : BusState D)
    (w : Except BusException CoordinationResult) (o : Except BusException TemporalCoordinationResult × BusState D) :
    Prop
  | refused (hw : ∀ base, w = .ok base → base.receipt.databaseWriteConfirmed = false)
      (hs : o.2.written = s.written) (ho : ¬ Confirmed o.1)
  | appended (base : CoordinationResult) (hw : w = .ok base)
      (hbase : base.receipt.databaseWriteConfirmed = true) (hs : StoredOne s o.2)
      (hraises : ReceiptTimeRaises R host base s → ¬ Confirmed o.1)
      (hreports : ¬ ReceiptTimeRaises R host base s → Confirmed o.1)

def Conduct (R : BusRuntime D) (host : BusHost) (w : Bus D CoordinationResult)
    (x : Bus D TemporalCoordinationResult) : Prop :=
  ∀ s, Conducted R host s (w s).1 (x s)

namespace Conduct

variable {w w' : Bus D CoordinationResult} {x x' : Bus D TemporalCoordinationResult}

/-- A step before the append that both take. -/
theorem bind {p : Bus D α} {w : α → Bus D CoordinationResult} {x : α → Bus D TemporalCoordinationResult}
    (hp : Silent p) (h : ∀ a s s', p s = (.ok a, s') → Conducted R host s' (w a s').1 (x a s')) :
    Conduct R host (p >>= w) (p >>= x) := by
  intro s
  have hk := hp s
  cases hps : p s with
  | mk r s' =>
    rw [hps] at hk
    cases r with
    | error e =>
      rw [bind_of_error hps, bind_of_error hps]
      exact .refused (fun base h => (by cases h)) hk.written fun ⟨r, h, _⟩ => (by cases h)
    | ok a =>
      rw [bind_of_ok hps, bind_of_ok hps]
      cases h a s s' hps with
      | refused hw hs ho => exact .refused hw (hs.trans hk.written) ho
      | appended base hw hbase hs hraises hreports =>
        obtain ⟨event, hs, hstored⟩ := hs
        refine .appended base hw hbase ⟨event, hk.written ▸ hs, hstored⟩ ?_ ?_
        · exact fun hr => hraises ((ReceiptTimeRaises.agrees hk.agrees).2 hr)
        · exact fun hr => hreports fun h' => hr ((ReceiptTimeRaises.agrees hk.agrees).1 h')

theorem step {p : Bus D α} {w : α → Bus D CoordinationResult} {x : α → Bus D TemporalCoordinationResult}
    (hp : Silent p) (h : ∀ a, Conduct R host (w a) (x a)) : Conduct R host (p >>= w) (p >>= x) :=
  bind hp fun a _ s' _ => h a s'

/-- A step that checks evidence: what follows may use that it passed. -/
theorem evidenced {value : Option TemporalEvidence} {role : String} (hrole : role ≠ "record_time")
    {w : TemporalEvidence → Bus D CoordinationResult} {x : TemporalEvidence → Bus D TemporalCoordinationResult}
    (h : ∀ t, t.Valid R → Conduct R host (w t) (x t)) :
    Conduct R host (evidencedTime R value role >>= w) (evidencedTime R value role >>= x) :=
  bind evidencedTime_always fun t _ s' ht => h t (evidencedTime_valid hrole ht) s'

theorem throw {e : BusException} : Conduct R host (MonadExcept.throw e) (MonadExcept.throw e) := fun _ =>
  .refused (fun base h => (by cases h)) rfl fun ⟨r, h, _⟩ => (by cases h)

theorem ite {c : Prop} [Decidable c] (h : Conduct R host w x) (h' : Conduct R host w' x') :
    Conduct R host (if c then w else w') (if c then x else x') := by
  split
  · exact h
  · exact h'

theorem guard {c : Prop} [Decidable c] {e : BusException} {f : Unit → Bus D CoordinationResult}
    {g : Unit → Bus D TemporalCoordinationResult} (h : Conduct R host w x) :
    Conduct R host (if c then MonadExcept.throw e >>= f else w) (if c then MonadExcept.throw e >>= g else x) :=
  ite throw h

theorem receipted {operation : BusOperation} {context : FailureContext} (h : Conduct R host w x) :
    Conduct R host w (VeraMono.receipted R host operation actor context x) := by
  intro s
  have hx := h s
  cases hxs : x s with
  | mk r s' =>
    rw [hxs] at hx
    cases r with
    | ok r =>
      rw [VeraMono.receipted, tryCatch_of_ok hxs]
      exact hx
    | error e =>
      rw [VeraMono.receipted, tryCatch_of_error hxs]
      cases e.kind.resultClass with
      | none => exact hx
      | some resultClass =>
        obtain ⟨hw, hl, hdenies⟩ := failureResult_denies (R := R) s'
        have hdenied : ¬ Confirmed (failureResult R host operation actor context resultClass e s').1 :=
          fun ⟨r, hr, hc⟩ => Bool.false_ne_true ((hdenies r hr).1.symm.trans hc)
        cases hx with
        | refused hw' hs ho => exact .refused hw' (hw.trans hs) hdenied
        | appended base hw' hbase hs hraises hreports =>
          obtain ⟨event, hs, hstored⟩ := hs
          refine .appended base hw' hbase ⟨event, hw.trans hs, hl ▸ hstored⟩ (fun _ => hdenied) fun hr => ?_
          obtain ⟨r, hr, -⟩ := hreports hr
          cases hr

theorem wrap {times : GivenTimes} {paging : Paging} {extra : List String}
    (hw : ∀ s, (w s).2.written = s.written ∧ ∀ base, (w s).1 = .ok base →
      base.receipt.databaseWriteConfirmed = false) (ht : times.Valid R) :
    Conduct R host w (w >>= fun base => wrapResult R host base times paging extra) := by
  intro s
  obtain ⟨hs, hbase⟩ := hw s
  cases hws : w s with
  | mk r s' =>
    rw [hws] at hs hbase
    cases r with
    | error e =>
      rw [bind_of_error hws]
      exact .refused hbase hs fun ⟨r, h, _⟩ => (by cases h)
    | ok base =>
      rw [bind_of_ok hws]
      obtain ⟨s'', hs', -, ⟨-, e, he⟩ | ⟨-, r, hr, hrb, -⟩⟩ := wrapResult_eq host base paging extra ht s'
      · rw [he]
        exact .refused hbase (hs'.trans hs) fun ⟨r, h, _⟩ => (by cases h)
      · rw [hr]
        refine .refused hbase (hs'.trans hs) ?_
        rintro ⟨r', h, hc⟩
        cases h
        rw [hrb, hbase base rfl] at hc
        cases hc

end Conduct

end Conduct

/-! ## The write of a command -/

section Commands
variable [DecidableEq D] (R : BusRuntime D) (host : BusHost) (actor : ActorContext)

/-- A command up to the receipt of its append, which only the caller of the bus is left to
be told of. -/
def BusCommand.write : BusCommand → Bus D CoordinationResult
  | post draft decisionAuthority => do
    actor.validate R
    Bus.lift (draft.validate R.py)
    if draft.eventType = "DECISION" then
      if draft.sourceBranch ≠ actor.workstream then
        throw (busPermissionError "source_branch must equal actor workstream")
      verifyDecisionAuthority R host decisionAuthority actor.workstream draft
      baseAppend R host .post actor draft
    else
      match decisionAuthority with
      | .envelope => throw (busValueError "decision authority may be supplied only for DECISION")
      | .none => do
        authorizeGenericPost R actor draft
        baseAppend R host .post actor draft
  | acknowledge args => do
    actor.require R "coordination:acknowledge"
    let original ← busEvent R args.eventId
    addressedTarget actor original
    let subject ← acknowledgementSubject R args actor.workstream original.event.threadKey
    let acknowledgement ← verifiedClaim R host args.acknowledgementTime "acknowledgement_time" subject
    let consumption ← verifiedClaim R host args.consumptionTime "consumption_time" subject
    actor.require R "coordination:acknowledge"
    let original ← busEvent R args.eventId
    addressedTarget actor original
    let acknowledgement ← evidencedTime R acknowledgement "acknowledgement_time"
    let consumption ← evidencedTime R consumption "consumption_time"
    let payload ← acknowledgementPayload args.payload acknowledgement consumption
    baseAppend R host .acknowledge actor (acknowledgementDraft actor args original payload)
  | publishStatus args => do
    actor.require R "coordination:status"
    baseAppend R host .publishStatus actor
      { threadKey := args.threadKey, sourceBranch := actor.workstream, targetBranch := args.targetBranch
        eventType := "STATUS", status := args.status, objective := args.objective, summary := args.summary
        activeIssue := args.activeIssue, requestedPerspective := none
        supersedesEventId := args.supersedesEventId, acknowledgesEventId := args.acknowledgesEventId
        payload := orEmpty args.payload, referenceData := orEmpty args.referenceData }
  | requestReview args => do
    actor.require R "coordination:review"
    Bus.lift (validateText args.requestedPerspective "requested_perspective")
    baseAppend R host .requestReview actor
      { threadKey := args.threadKey, sourceBranch := actor.workstream, targetBranch := some args.targetBranch
        eventType := "STATUS", status := "READY_FOR_REVIEW", objective := args.objective
        summary := args.summary, activeIssue := none
        requestedPerspective := some args.requestedPerspective, supersedesEventId := none
        acknowledgesEventId := args.acknowledgesEventId, payload := orEmpty args.payload
        referenceData := orEmpty args.referenceData }
  | resolveThread args => do
    actor.require R "coordination:resolve"
    let original ← busEvent R args.acknowledgesEventId
    let target ← resolutionTarget actor original
    baseAppend R host .resolveThread actor
      { threadKey := original.event.threadKey, sourceBranch := actor.workstream, targetBranch := target
        eventType := "RESOLUTION", status := "RESOLVED", objective := original.event.objective
        summary := args.summary, activeIssue := none, requestedPerspective := none
        supersedesEventId := none, acknowledgesEventId := some original.event.eventId
        payload := orEmpty args.payload, referenceData := orEmpty args.referenceData }
  | exitCheckpoint args => do
    actor.validate R
    if args.material then actor.require R "coordination:status"
    let subject ← exitCheckpointSubject R actor args
    let event ← verifiedClaim R host args.eventTime "event_time" subject
    let state ← verifiedClaim R host args.stateTime "state_time" subject
    actor.validate R
    let event ← evidencedTime R event "event_time"
    let state ← evidencedTime R state "state_time"
    if args.material then
      actor.require R "coordination:status"
      baseAppend R host .exitCheckpoint actor (exitDraft actor args event state)
    else
      makeResult R .exitCheckpoint .complete actor [] false (some args.threadKey) args.targetBranch none
        ["No event written because the exit was not material."] none

variable {R host actor}

/-! ## The append -/

theorem append_encodes {K : BusHashing D} {py : Stdlib} {draft : CoordinationEventDraft} {t : ClockText}
    {log log' : SQLiteCoordinationRepository D} {event : CoordinationEvent}
    (h : SQLiteCoordinationRepository.append K py draft t log = .ok (event, log')) :
    K.encodes (.event log.head log'.sequence event) = true ∧ ∃ e ∈ log'.entries, e.body = event := by
  simp only [SQLiteCoordinationRepository.append, SQLiteCoordinationRepository.insertEvent, bind_eq_ok,
    ite_error_ok, ↓throw_bind, pure_ok, Except.ok.injEq, Prod.mk.injEq, not_not] at h
  obtain ⟨_, -, _, -, _, -, c, -, -, henc, _, ⟨-, rfl⟩, rfl, rfl⟩ := h
  exact ⟨henc, _, List.mem_append_right _ (List.mem_singleton_self _), rfl⟩

theorem baseAppend_cases (R : BusRuntime D) (host : BusHost) (actor : ActorContext) (operation : BusOperation)
    (draft : CoordinationEventDraft) (s : BusState D) :
    ∃ s', Keeps s s' ∧ ((∃ e, baseAppend R host operation actor draft s = (.error e, s')) ∨
      ∃ base t, baseAppend R host operation actor draft s = (.ok base, t) ∧
        base.receipt.databaseWriteConfirmed = true ∧ StoredOne s' t ∧ Agrees s' t) := by
  have hcheck : Keeps s (checkAppend R actor draft s).2 := checkAppend_always s
  cases hc : checkAppend R actor draft s with
  | mk r s₁ =>
    rw [hc] at hcheck
    cases r with
    | error e => exact ⟨s₁, hcheck, .inl ⟨e, by rw [baseAppend, bind_of_error hc]⟩⟩
    | ok u =>
      rw [baseAppend, bind_of_ok hc]
      refine ⟨interleave R.hashing R.py s₁, trans_of Keeps hcheck (Looks.interleave s₁), ?_⟩
      cases ha : SQLiteCoordinationRepository.append R.hashing R.py draft host.now
          (interleave R.hashing R.py s₁).log with
      | error e =>
        refine .inl ⟨e.toBus, bind_of_error ?_⟩
        rw [SQLiteCoordinationRepository.appendDraft, ha]
      | ok p =>
        obtain ⟨event, log⟩ := p
        obtain ⟨henc, hstored⟩ := append_encodes ha
        have happend : SQLiteCoordinationRepository.appendDraft R.hashing R.py host.now draft s₁ =
            (.ok ⟨log.sequence, event⟩, { interleave R.hashing R.py s₁ with
              log, written := (interleave R.hashing R.py s₁).written ++ [event] }) := by
          rw [SQLiteCoordinationRepository.appendDraft, ha]
        obtain ⟨base, hmake, hbase⟩ := makeResult_eq (R.encodesResult_event _ _ _ henc)
          { interleave R.hashing R.py s₁ with
            log, written := (interleave R.hashing R.py s₁).written ++ [event] }
        exact .inr ⟨base, _, (bind_of_ok happend).trans hmake, hbase, ⟨event, rfl, hstored⟩, rfl, rfl⟩

theorem Conduct.append {operation : BusOperation} {draft : CoordinationEventDraft} {times : GivenTimes}
    {extra : List String} (ht : times.Valid R) :
    Conduct R host (baseAppend R host operation actor draft)
      (appendWrapped R host operation actor draft times extra) := by
  intro s
  obtain ⟨s', hk, ⟨e, he⟩ | ⟨base, t, hok, hbase, ⟨event, hs, hstored⟩, ha⟩⟩ :=
    baseAppend_cases R host actor operation draft s
  · rw [appendWrapped, bind_of_error he, he]
    exact .refused (fun base h => (by cases h)) hk.written fun ⟨r, h, _⟩ => (by cases h)
  · have hsame : ReceiptTimeRaises R host base t ↔ ReceiptTimeRaises R host base s :=
      (ReceiptTimeRaises.agrees ha).trans (ReceiptTimeRaises.agrees hk.agrees)
    rw [hk.written] at hs
    rw [appendWrapped, bind_of_ok hok, hok]
    obtain ⟨t', hw, hl, ⟨hraises, e, he⟩ | ⟨hquiet, r, hr, hrb, -⟩⟩ :=
      wrapResult_eq host base .none extra ht t
    · rw [he]
      exact .appended base rfl hbase ⟨event, hw.trans hs, hl ▸ hstored⟩ (fun _ ⟨r, h, _⟩ => (by cases h))
        fun h => absurd (hsame.1 hraises) h
    · rw [hr]
      exact .appended base rfl hbase ⟨event, hw.trans hs, hl ▸ hstored⟩ (fun h => absurd (hsame.2 h) hquiet)
        fun _ => ⟨r, rfl, by rw [hrb, hbase]⟩

/-! ## The commands -/

/-- Every command does what it writes, and reports it unless the time of the receipt raises. -/
theorem BusCommand.run_conduct (c : BusCommand) : Conduct R host (c.write R host actor) (c.run R host actor) := by
  cases c with
  | post draft decisionAuthority =>
    refine .receipted (.step validate_always fun _ => .step .lift fun _ => .ite ?_ ?_)
    · exact .guard (.step verifyDecisionAuthority_always fun _ => .append .none)
    · cases decisionAuthority with
      | envelope => exact .throw
      | none => exact .step authorizeGenericPost_always fun _ => .append .none
  | acknowledge args =>
    refine .receipted (.step require_always fun _ => .step busEvent_always fun original =>
      .step addressedTarget_always fun _ => .step acknowledgementSubject_always fun subject =>
      .step (verifiedClaim_always (mayAsk_keeps (by decide))) fun acknowledgement =>
      .step (verifiedClaim_always (mayAsk_keeps (by decide))) fun consumption => .receipted ?_)
    exact .step require_always fun _ => .step busEvent_always fun original =>
      .step addressedTarget_always fun _ => .evidenced (by decide) fun a ha =>
      .evidenced (by decide) fun c hc => .step acknowledgementPayload_always fun payload =>
      .append (.event_state ha hc)
  | publishStatus args => exact .receipted (.step require_always fun _ => .append .none)
  | requestReview args =>
    exact .receipted (.step require_always fun _ => .step .lift fun _ => .append .none)
  | resolveThread args =>
    exact .receipted (.step require_always fun _ => .step busEvent_always fun original =>
      .step resolutionTarget_always fun target => .append .none)
  | exitCheckpoint args =>
    have hinner (event state) : Conduct R host _ (temporalExitCheckpoint R host actor args event state) :=
      .receipted (.step validate_always fun _ => .evidenced (by decide) fun e he =>
        .evidenced (by decide) fun t ht => .ite
          (.step require_always fun _ => .append (.event_state he ht))
          (.wrap makeResult_denies (.event_state he ht)))
    refine .receipted (.step validate_always fun _ => .ite (.step require_always fun _ => ?_) ?_) <;>
    exact .step exitCheckpointSubject_always fun subject => .step (verifiedClaim_always (mayAsk_keeps (by decide))) fun event =>
      .step (verifiedClaim_always (mayAsk_keeps (by decide))) fun state => hinner event state

/-- A command appends at most one event. It reports a confirmed write just when it appended
one, unless it got as far as the append and the time of the receipt raised. -/
theorem truthful_write_receipts (R : BusRuntime D) (host : BusHost) (actor : ActorContext) (c : BusCommand)
    (s : BusState D) :
    ((c.run R host actor s).2.written = s.written ∨ StoredOne s (c.run R host actor s).2) ∧
      ((Confirmed (c.run R host actor s).1 ↔ StoredOne s (c.run R host actor s).2) ↔
        ¬ ∃ base, (c.write R host actor s).1 = .ok base ∧ base.receipt.databaseWriteConfirmed = true ∧
          ReceiptTimeRaises R host base s) := by
  cases c.run_conduct s with
  | refused hw hs ho =>
    have hnot : ¬ StoredOne s (c.run R host actor s).2 := by
      rintro ⟨event, hevent, -⟩
      rw [hs] at hevent
      exact List.cons_ne_nil event [] (List.self_eq_append_right.1 hevent)
    refine ⟨.inl hs, iff_of_true (iff_of_false ho hnot) ?_⟩
    rintro ⟨base, hbase, hc, -⟩
    exact Bool.false_ne_true ((hw base hbase).symm.trans hc)
  | appended base hw hbase hs hraises hreports =>
    refine ⟨.inr hs, ?_⟩
    rw [iff_true_right hs]
    constructor
    · rintro hc ⟨base', hw', -, hr⟩
      rw [hw, Except.ok.injEq] at hw'
      exact hraises (hw' ▸ hr) hc
    · exact fun hnot => hreports fun hr => hnot ⟨base, hw, hbase, hr⟩

end Commands

/-! ## A write that is denied -/

def sampleBusRuntime : BusRuntime Nat where
  hashing := sampleBus
  py := sampleStdlib
  aware _ := .naive
  resultHash _ _ := "result"
  temporalHash _ := "temporal"
  subjectHash _ := "subject"
  encodesObject _ := true
  encodesResult _ := true
  encodesResult_nil := rfl
  encodesResult_event _ _ _ _ := rfl

theorem recordTime_valid : validateText "2026-01-01T00:00:00.000000+00:00" "record_time" = .ok () := by
  decide +kernel

/-- A host whose clock is out of reach when it is asked for the first time. -/
def unsteadyHost : BusHost where
  evidenceVerifier := none
  receiptTimeProvider := some fun _ asked =>
    if asked = 0 then .error ⟨.runtimeError, "time source unavailable"⟩ else .ok .none
  decisionAuthorityVerifier := none
  now := ⟨"2026-01-01T00:00:00.000000+00:00", recordTime_valid⟩

def samplePoster : ActorContext := ⟨"workstream/time", ["coordination:post"]⟩

/-- An empty repository, before anything was asked. -/
def freshBus : BusState Nat := ⟨(repositoryChain sampleBus).empty, [], 0, fun _ => 0, []⟩

/-- The post is stored, and its receipt says that no write was confirmed. -/
theorem stored_write_denied :
    let o := (BusCommand.post sampleDraft .none).run sampleBusRuntime unsteadyHost samplePoster freshBus
    (o.1.toOption.map fun r => (r.receipt.base.outcomeCode, r.receipt.base.databaseWriteConfirmed,
        r.receipt.base.limitations)) =
      some ("COORDINATION_POST_CONFLICT", false, ["No database write was confirmed."]) ∧
    StoredOne freshBus o.2 ∧ ¬ (Confirmed o.1 ↔ StoredOne freshBus o.2) := by
  intro o
  have hreport : (o.1.toOption.map fun r => (r.receipt.base.outcomeCode, r.receipt.base.databaseWriteConfirmed,
      r.receipt.base.limitations)) =
      some ("COORDINATION_POST_CONFLICT", false, ["No database write was confirmed."]) := by
    decide +kernel
  have hwritten : o.2.written ≠ freshBus.written := by
    have hlength : o.2.written.length = 1 := by decide +kernel
    intro h
    rw [h] at hlength
    cases hlength
  have happended : StoredOne freshBus o.2 := by
    cases BusCommand.run_conduct (R := sampleBusRuntime) (.post sampleDraft .none) freshBus with
    | refused _ hs _ => exact absurd hs hwritten
    | appended _ _ _ hs _ _ => exact hs
  refine ⟨hreport, happended, fun h => ?_⟩
  obtain ⟨r, hr, hc⟩ := h.2 happended
  rw [hr] at hreport
  cases hc.symm.trans (congrArg (fun p => p.2.1) (Option.some.inj hreport))

end VeraMono
