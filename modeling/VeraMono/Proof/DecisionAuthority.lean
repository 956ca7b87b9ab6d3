import VeraMono.Model.DecisionAuthority
import VeraMono.Proof.WriteReceipts

/-!
# Decisions and their envelopes

A command appends a DECISION only past `_verify_decision_authority`, which asks about the subject
of that very draft. The authority never accepts a token twice, so the decisions of a process and
the envelopes it verified for them correspond one to one. `run_refused` and `run_asked` invert a
command, `Governed.call` is the step, and `decision_authority` the correspondence over every run.
-/

namespace VeraMono

open Framework Bus

variable {D : Type}

/-! ## What a command appends -/

def Appends (Q : CoordinationEvent → Prop) (s s' : BusState D) : Prop :=
  ∃ events, (∀ e ∈ events, Q e) ∧ s'.written = s.written ++ events ∧
    (s.others = [] → s'.others = [] ∧
      SQLiteCoordinationRepository.bodies s'.log = SQLiteCoordinationRepository.bodies s.log ++ events)

variable {Q : CoordinationEvent → Prop}

theorem appends_of_same {s s' : BusState D} (hw : s'.written = s.written)
    (ho : s.others = [] → s'.others = [] ∧ s'.log = s.log) : Appends Q s s' :=
  ⟨[], fun _ he => absurd he List.not_mem_nil, by rw [hw, List.append_nil],
    fun h => ⟨(ho h).1, by rw [(ho h).2, List.append_nil]⟩⟩

instance : IsPreorder (BusState D) (Appends Q) where
  refl _ := appends_of_same rfl fun h => ⟨h, rfl⟩
  trans s s' s'' := by
    rintro ⟨es, hq, hw, ho⟩ ⟨es', hq', hw', ho'⟩
    refine ⟨es ++ es', fun e he => (List.mem_append.1 he).elim (hq e) (hq' e), ?_, fun h => ?_⟩
    · rw [hw', hw, List.append_assoc]
    · obtain ⟨h', hl⟩ := ho h
      obtain ⟨h'', hl'⟩ := ho' h'
      exact ⟨h'', by rw [hl', hl, List.append_assoc]⟩

instance : Waits (Appends (D := D) Q) :=
  ⟨fun _ _ _ => appends_of_same rfl fun h => ⟨h, rfl⟩, fun _ _ => appends_of_same rfl fun h => ⟨h, rfl⟩⟩

variable [DecidableEq D] {R : BusRuntime D} {host : BusHost} {actor : ActorContext}
  {draft : CoordinationEventDraft} {s : BusState D}

theorem interleave_alone {K : BusHashing D} {py : Stdlib} (h : s.others = []) : interleave K py s = s := by
  obtain ⟨log, others, asked, verified, written⟩ := s
  cases h
  rfl

instance {K : BusHashing D} {py : Stdlib} : Looks K py (Appends (D := D) Q) :=
  ⟨fun _ => appends_of_same rfl fun h => by rw [interleave_alone h]; exact ⟨h, rfl⟩⟩

theorem appendDraft_appends {now : ClockText}
    (h : ∀ event : CoordinationEvent, draft.canonical = .ok event.toCoordinationEventDraft → Q event) :
    Always (Appends Q) (SQLiteCoordinationRepository.appendDraft R.hashing R.py now draft) := by
  intro s
  have hlook : Appends Q s (interleave R.hashing R.py s) := Looks.interleave s
  rw [SQLiteCoordinationRepository.appendDraft]
  cases ha : SQLiteCoordinationRepository.append R.hashing R.py draft now (interleave R.hashing R.py s).log with
  | error e => exact hlook
  | ok r =>
    obtain ⟨event, log⟩ := r
    obtain ⟨c, -, -, -, hc, hevent, -, -, rfl⟩ := SQLiteCoordinationRepository.append_ok ha
    have hq : Q event := h event (by rw [hc, hevent])
    have hwrite : Appends Q (interleave R.hashing R.py s) { interleave R.hashing R.py s with
        log := (repositoryChain R.hashing).extend (interleave R.hashing R.py s).log event
        written := (interleave R.hashing R.py s).written ++ [event] } :=
      ⟨[event], fun e he => List.mem_singleton.1 he ▸ hq, rfl, fun ho => ⟨ho, List.map_append⟩⟩
    exact trans_of (Appends Q) hlook hwrite

theorem appendWrapped_appends {operation : BusOperation} {times : GivenTimes} {extra : List String}
    (h : ∀ event : CoordinationEvent, draft.canonical = .ok event.toCoordinationEventDraft → Q event) :
    Always (Appends Q) (appendWrapped R host operation actor draft times extra) :=
  .bind (.bind checkAppend_always fun _ => .bind (appendDraft_appends h) fun _ => makeResult_always)
    fun _ => wrapResult_always

/-! ## The commands -/

/-- An event is no decision. -/
def Undecided (e : CoordinationEvent) : Prop := e.eventType ≠ "DECISION"

theorem appendWrapped_undecided {operation : BusOperation} {times : GivenTimes} {extra : List String}
    (h : draft.eventType ≠ "DECISION") (hQ : ∀ e, Undecided e → Q e) :
    Always (Appends Q) (appendWrapped R host operation actor draft times extra) := by
  refine appendWrapped_appends fun event hc => hQ event ?_
  obtain ⟨-, -, hd⟩ := CoordinationEventDraft.canonical_ok hc
  rwa [Undecided, hd]

theorem coordinationPost_none (hQ : ∀ e, Undecided e → Q e) :
    Always (Appends Q) (coordinationPost R host actor draft .none) := fun s =>
  receipted_always (Always.bind validate_always (fun _ => .bind .lift fun _ => by
    split
    · refine .guard ?_
      rw [verifyDecisionAuthority, raise_bind]
      exact .throw
    · exact .bind authorizeGenericPost_always fun _ => appendWrapped_undecided ‹_› hQ) s)

theorem acknowledge_undecided {args : AcknowledgeArgs} (hQ : ∀ e, Undecided e → Q e) :
    Always (Appends Q) (coordinationAcknowledge R host actor args) := fun s =>
  receipted_always (Always.bind require_always (fun _ => .bind busEvent_always fun original =>
    .bind addressedTarget_always fun _ => .bind acknowledgementSubject_always fun subject =>
    .bind (verifiedClaim_always (Waits.ask _)) fun acknowledgement =>
    .bind (verifiedClaim_always (Waits.ask _)) fun consumption => fun s =>
    receipted_always (Always.bind require_always (fun _ => .bind busEvent_always fun original =>
      .bind addressedTarget_always fun _ => .bind evidencedTime_always fun a =>
      .bind evidencedTime_always fun c => .bind acknowledgementPayload_always fun payload =>
      appendWrapped_undecided (show "ACKNOWLEDGEMENT" ≠ "DECISION" by decide) hQ) s)) s)

theorem exitCheckpoint_undecided {args : ExitCheckpointArgs} (hQ : ∀ e, Undecided e → Q e) :
    Always (Appends Q) (VeraMono.exitCheckpoint R host actor args) := by
  have hinner (event state) : Always (Appends Q) (temporalExitCheckpoint R host actor args event state) := fun s =>
    receipted_always (Always.bind validate_always (fun _ => .bind evidencedTime_always fun event =>
      .bind evidencedTime_always fun state => .ite
        (.bind require_always fun _ => appendWrapped_undecided (show "STATUS" ≠ "DECISION" by decide) hQ)
        (.bind makeResult_always fun _ => wrapResult_always)) s)
  have hrest (u : Unit) : Always (Appends Q) (do
      let subject ← exitCheckpointSubject R actor args
      let event ← verifiedClaim R host args.eventTime "event_time" subject
      let state ← verifiedClaim R host args.stateTime "state_time" subject
      temporalExitCheckpoint R host actor args event state) :=
    .bind exitCheckpointSubject_always fun subject => .bind (verifiedClaim_always (Waits.ask _)) fun event =>
      .bind (verifiedClaim_always (Waits.ask _)) fun state => hinner event state
  exact fun s => receipted_always (Always.bind validate_always (fun _ =>
    .ite (.bind require_always hrest) (hrest ())) s)

/-- Whatever is not a post with an envelope appends no decision. -/
theorem run_undecided {c : BusCommand} (hc : ∀ draft, c ≠ .post draft .envelope) (hQ : ∀ e, Undecided e → Q e) :
    Always (Appends Q) (c.run R host actor) := by
  cases c with
  | post draft decisionAuthority =>
    cases decisionAuthority with
    | none => exact coordinationPost_none hQ
    | envelope => exact absurd rfl (hc draft)
  | acknowledge args => exact acknowledge_undecided hQ
  | publishStatus args =>
    exact fun s => receipted_always (Always.bind require_always
      (fun _ => appendWrapped_undecided (show "STATUS" ≠ "DECISION" by decide) hQ) s)
  | requestReview args =>
    exact fun s => receipted_always (Always.bind require_always (fun _ => .bind .lift fun _ =>
      appendWrapped_undecided (show "STATUS" ≠ "DECISION" by decide) hQ) s)
  | resolveThread args =>
    exact fun s => receipted_always (Always.bind require_always (fun _ => .bind busEvent_always fun original =>
      .bind resolutionTarget_always fun target =>
      appendWrapped_undecided (show "RESOLUTION" ≠ "DECISION" by decide) hQ) s)
  | exitCheckpoint args => exact exitCheckpoint_undecided hQ

/-! ## A post with an envelope -/

section Post
variable {R : ProcessRuntime D} {subject : String} {s' : BusState D}

omit [DecidableEq D] in
theorem decisionRequest_always {P : BusState D → BusState D → Prop} [IsPreorder (BusState D) P] :
    Always P (decisionRequest R actor draft) :=
  .bind validate_always fun _ => .bind .lift fun _ => .guard (.guard decisionSubject_always)

omit [DecidableEq D] in
theorem decisionRequest_ok (h : decisionRequest R actor draft s = (.ok subject, s')) :
    draft.sourceBranch = actor.workstream ∧ ∃ canonical, draft.canonical = .ok canonical ∧
      subject = R.bus.subjectHash (.decision actor.workstream canonical) := by
  have hlift {α : Type} {r : Except Failure α} {a : α} {t t' : BusState D}
      (h : (Bus.lift r : Bus D α) t = (.ok a, t')) : r = .ok a := by
    cases r with
    | ok b => cases h; rfl
    | error e => cases h
  simp only [decisionRequest, decisionSubject, bind_eq_ok_iff, ite_throw_eq_ok, not_not] at h
  obtain ⟨_, _, -, _, _, -, -, hsource, _, _, -, _, _, -, -, -, canonical, _, hc, -, h⟩ := h
  cases h
  exact ⟨hsource, canonical, hlift hc, rfl⟩

/-- What the verifier of a host says decides whether the draft is appended. -/
def askedAppend (R : ProcessRuntime D) (host : BusHost) (actor : ActorContext) (draft : CoordinationEventDraft)
    (verify : String → Bool) (subject : String) : Bus D TemporalCoordinationResult :=
  if verify subject = true then appendWrapped R.bus host .post actor draft .none []
  else throw (busPermissionError "decision-authority verification failed for actor and draft subject")

theorem coordinationPost_envelope {verify : String → Bool} (host : BusHost) :
    let host := { host with decisionAuthorityVerifier := some fun subject => .ok (verify subject) }
    coordinationPost R.bus host actor draft .envelope =
      receipted R.bus host .post actor ⟨some draft.threadKey, draft.targetBranch, draft.acknowledgesEventId⟩
        (decisionRequest R actor draft >>= askedAppend R host actor draft verify) := by
  intro host
  rw [coordinationPost, decisionRequest, bind_assoc]
  refine congrArg _ (congrArg _ (funext fun _ => ?_))
  rw [bind_assoc]
  refine congrArg _ (funext fun _ => ?_)
  by_cases hd : draft.eventType = "DECISION"
  · rw [if_pos hd, if_neg (not_not.2 hd)]
    by_cases hs : draft.sourceBranch = actor.workstream
    · rw [if_neg (not_not.2 hs), if_neg (not_not.2 hs), verifyDecisionAuthority, bind_assoc]
      refine congrArg _ (funext fun subject => ?_)
      rw [askedAppend]
      dsimp only
      cases verify subject with
      | true => rfl
      | false => rfl
    · rw [if_pos hs, if_pos hs, raise_bind, raise_bind, raise_bind]
  · rw [if_neg hd, if_pos hd, raise_bind, raise_bind]

/-- A post with an envelope appends at most its draft, and that only if the authority was
asked about it and accepted the envelope. -/
theorem coordinationPost_appends {verify : String → Bool} {host : BusHost}
    (hQ : ∀ subject t, decisionRequest R actor draft s = (.ok subject, t) → verify subject = true →
      ∀ event : CoordinationEvent, draft.canonical = .ok event.toCoordinationEventDraft → Q event) :
    Appends Q s (coordinationPost R.bus
      { host with decisionAuthorityVerifier := some fun subject => .ok (verify subject) } actor draft .envelope
      s).2 := by
  rw [coordinationPost_envelope]
  refine receipted_always ?_
  have hrequest : Appends Q s (decisionRequest R actor draft s).2 := decisionRequest_always s
  cases hr : decisionRequest R actor draft s with
  | mk r t =>
    rw [hr] at hrequest
    cases r with
    | error e =>
      rw [bind_of_error hr]
      exact hrequest
    | ok subject =>
      rw [bind_of_ok hr, askedAppend]
      split
      · exact trans_of (Appends Q) hrequest (appendWrapped_appends (hQ subject t hr ‹_›) t)
      · exact hrequest

end Post

/-! ## The authority -/

namespace HmacDecisionAuthority

/-- `verify` accepts the envelope for the actor and the subject, unless its token was used. -/
def Accepts (A : HmacDecisionAuthority) (v : Verification) : Prop :=
  (A.verify v.envelope v.actorWorkstream v.subject []).1 = true

theorem verify_cases (A : HmacDecisionAuthority) (envelope : DecisionAuthorityEnvelope)
    (workstream subject : String) (usedTokens : List String) :
    A.verify envelope workstream subject usedTokens = (false, usedTokens) ∨
      A.verify envelope workstream subject usedTokens = (true, usedTokens ++ [envelope.replayKey]) ∧
        envelope.replayKey ∉ usedTokens ∧ A.Accepts ⟨envelope, workstream, subject⟩ := by
  by_cases hs : envelope.schema = decisionAuthoritySchema <;> by_cases hi : envelope.issuerId = A.issuerId <;>
    by_cases ha : envelope.actorWorkstream = workstream <;> by_cases hb : envelope.subject = subject <;>
    by_cases ht : A.hmac envelope.toAuthorityBody = envelope.verificationToken <;>
    by_cases hu : envelope.replayKey ∈ usedTokens <;> simp [verify, Accepts, hs, hi, ha, hb, ht, hu]

end HmacDecisionAuthority

/-! ## The process -/

namespace BusProcess

variable {R : ProcessRuntime D} {P : BusProcess D} {guard : CoordinationRetryGuard}
  {log₀ : SQLiteCoordinationRepository D}

def decisions (events : List CoordinationEvent) : List CoordinationEvent :=
  events.filter fun e => e.eventType = "DECISION"

/-- The verification was about this event: its content, and its actor. -/
def Authorises (R : ProcessRuntime D) (e : CoordinationEvent) (v : Verification) : Prop :=
  v.actorWorkstream = e.sourceBranch ∧
    v.subject = R.bus.subjectHash (.decision e.sourceBranch e.toCoordinationEventDraft)

/-- The decisions of a process and the envelopes verified for them. -/
structure Governed (R : ProcessRuntime D) (log₀ : SQLiteCoordinationRepository D) (P : BusProcess D) : Prop where
  alone : P.bus.others = []
  log : SQLiteCoordinationRepository.bodies P.bus.log =
    SQLiteCoordinationRepository.bodies log₀ ++ P.bus.written
  tokens : P.usedTokens = P.verifications.map fun v => v.envelope.replayKey
  nodup : P.usedTokens.Nodup
  accepted : ∀ v ∈ P.verifications, R.authority.Accepts v
  authorised : ∃ vs, vs.Sublist P.verifications ∧ List.Forall₂ (Authorises R) (decisions P.bus.written) vs

omit [DecidableEq D] in
theorem Governed.start : Governed R log₀ (BusProcess.start guard log₀) where
  alone := rfl
  log := (List.append_nil _).symm
  tokens := rfl
  nodup := List.nodup_nil
  accepted _ hv := absurd hv List.not_mem_nil
  authorised := ⟨[], List.Sublist.refl _, .nil⟩

omit [DecidableEq D] in
theorem decisions_undecided {events : List CoordinationEvent} (h : ∀ e ∈ events, Undecided e) :
    decisions events = [] :=
  List.filter_eq_nil_iff.2 fun e he => by simpa [Undecided] using h e he

omit [DecidableEq D] in
theorem decisions_of_appends {s s' : BusState D} (h : Appends Undecided s s') :
    decisions s'.written = decisions s.written := by
  obtain ⟨events, hq, hw, -⟩ := h
  rw [decisions, hw, List.filter_append, ← decisions, ← decisions, decisions_undecided hq, List.append_nil]

omit [DecidableEq D] in
theorem Governed.undecided (h : Governed R log₀ P) {bus : BusState D} {guard : CoordinationRetryGuard}
    (hb : Appends Undecided P.bus bus) : Governed R log₀ { P with bus, guard } := by
  have hsame := decisions_of_appends hb
  obtain ⟨events, -, hw, ho⟩ := hb
  obtain ⟨halone, hlog⟩ := ho h.alone
  refine ⟨halone, ?_, h.tokens, h.nodup, h.accepted, hsame ▸ h.authorised⟩
  rw [hlog, h.log, hw, List.append_assoc]

theorem guardedCoordinationPost_undecided {host : BusHost} {actor : ActorContext} {draft : CoordinationEventDraft}
    {nowMs : Int} {s : BusState D} :
    Appends Undecided s (guardedCoordinationPost R host actor draft nowMs guard s).2.2 := by
  have hkey : Always (Appends Undecided) (coordinationRetryKey R actor draft) :=
    .bind validate_always fun _ => .bind .lift fun _ => .guard (.bind .lift fun _ => .guard .pure)
  have hs := hkey s
  rw [guardedCoordinationPost]
  cases hk : coordinationRetryKey R actor draft s with
  | mk r t =>
    rw [hk] at hs
    cases r with
    | error e => exact hs
    | ok key =>
      simp only
      cases ha : guard.accept key nowMs with
      | mk a g =>
        cases a with
        | error e => exact hs
        | ok accepted =>
          cases accepted with
          | false => exact hs
          | true =>
            have hpost : Appends Undecided s (coordinationPost R.bus host actor draft .none t).2 :=
              trans_of (Appends Undecided) hs (coordinationPost_none (fun _ h => h) t)
            simp only
            cases hp : coordinationPost R.bus host actor draft .none t with
            | mk o u =>
              rw [hp] at hpost
              cases o with
              | error e => exact hpost
              | ok result =>
                simp only
                split
                · exact hpost
                · exact hpost

omit [DecidableEq D] in
theorem askedSubject_some {actor : ActorContext} {command : BusCommand} {s : BusState D} {subject : String}
    (h : askedSubject R actor command s = some subject) : ∃ draft, command = .post draft .envelope := by
  cases command with
  | post draft decisionAuthority =>
    cases decisionAuthority with
    | envelope => exact ⟨draft, rfl⟩
    | none => cases h
  | _ => cases h

/-- A command that the authority is not asked about, or refuses, appends no decision. -/
theorem run_refused {host : BusHost} {actor : ActorContext} {command : BusCommand} {verify : String → Bool}
    {s : BusState D} (h : ∀ subject, askedSubject R actor command s = some subject → verify subject = false) :
    Appends Undecided s (command.run R.bus
      { host with decisionAuthorityVerifier := some fun subject => .ok (verify subject) } actor s).2 := by
  by_cases hc : ∃ draft, command = .post draft .envelope
  · obtain ⟨draft, rfl⟩ := hc
    refine coordinationPost_appends fun subject t hr hv => ?_
    have hasked : askedSubject R actor (.post draft .envelope) s = some subject := by
      rw [askedSubject, hr]
    rw [h subject hasked] at hv
    cases hv
  · exact run_undecided (fun draft heq => hc ⟨draft, heq⟩) (fun _ h => h) s

/-- A command that the authority was asked about appends nothing, or one event that the
verification was about. -/
theorem run_asked {host : BusHost} {actor : ActorContext} {command : BusCommand}
    {s : BusState D} {subject : String} (h : askedSubject R actor command s = some subject)
    (verify : String → Bool) (envelope : DecisionAuthorityEnvelope) :
    let s' := (command.run R.bus
      { host with decisionAuthorityVerifier := some fun subject => .ok (verify subject) } actor s).2
    Appends (fun _ => True) s s' ∧ (s'.written = s.written ∨ ∃ event,
      Authorises R event ⟨envelope, actor.workstream, subject⟩ ∧ s'.written = s.written ++ [event]) := by
  obtain ⟨draft, rfl⟩ := askedSubject_some h
  have happends : Appends (fun e => Authorises R e ⟨envelope, actor.workstream, subject⟩) s
      (BusCommand.run R.bus { host with decisionAuthorityVerifier := some fun subject => .ok (verify subject) }
        actor (.post draft .envelope) s).2 := by
    refine coordinationPost_appends fun subject' t hr _ event hc => ?_
    have heq : subject' = subject := by
      rw [askedSubject, hr] at h
      exact Option.some.inj h
    obtain ⟨hsource, canonical, hc', hsubject⟩ := decisionRequest_ok hr
    rw [hc, Except.ok.injEq] at hc'
    obtain ⟨-, -, hcd⟩ := CoordinationEventDraft.canonical_ok hc
    have hes : event.sourceBranch = actor.workstream := by rw [hcd, ← hsource]
    exact ⟨hes.symm, by rw [← heq, hsubject, hes, hc']⟩
  obtain ⟨events, hq, hw, ho⟩ := happends
  refine ⟨⟨events, fun _ _ => trivial, hw, ho⟩, ?_⟩
  obtain ⟨hsame | ⟨event, hone, -⟩, -⟩ := truthful_write_receipts R.bus
    { host with decisionAuthorityVerifier := some fun subject => .ok (verify subject) } actor
    (.post draft .envelope) s
  · exact .inl hsame
  · have hevents : events = [event] := List.append_cancel_left (hw.symm.trans hone)
    exact .inr ⟨event, hq event (hevents ▸ List.mem_singleton_self event), hone⟩

theorem Governed.runCommand (h : Governed R log₀ P) (host : BusHost) (actor : ActorContext)
    (command : BusCommand) (envelope : DecisionAuthorityEnvelope) :
    Governed R log₀ (P.runCommand R host actor command envelope) := by
  rw [BusProcess.runCommand]
  cases hasked : askedSubject R actor command P.bus with
  | none => exact h.undecided (run_refused fun subject hs => by rw [hasked] at hs; cases hs)
  | some subject =>
    rcases R.authority.verify_cases envelope actor.workstream subject P.usedTokens with hv | ⟨hv, hnew, haccepts⟩
    · simp only [hv, Bool.false_eq_true, if_false]
      refine h.undecided (run_refused fun subject' hs => ?_)
      rw [hasked, Option.some.injEq] at hs
      rw [← hs, hv]
    · simp only [hv, if_true]
      obtain ⟨⟨events, -, hw, ho⟩, hone⟩ := @run_asked _ _ R host _ _ _ _ hasked
        (fun subject => (R.authority.verify envelope actor.workstream subject P.usedTokens).1) envelope
      obtain ⟨halone, hlog⟩ := ho h.alone
      obtain ⟨vs, hvs, hpairs⟩ := h.authorised
      refine ⟨halone, by rw [hlog, h.log, hw, List.append_assoc], by rw [h.tokens, List.map_append]; rfl,
        List.concat_eq_append ▸ h.nodup.concat hnew, fun v hv => ?_, ?_⟩
      · rcases List.mem_append.1 hv with hv | hv
        · exact h.accepted v hv
        · exact List.mem_singleton.1 hv ▸ haccepts
      · rcases hone with hsame | ⟨event, hauth, hone⟩
        · exact ⟨vs, hvs.trans (List.sublist_append_left _ _), hsame ▸ hpairs⟩
        · by_cases hd : event.eventType = "DECISION"
          · refine ⟨vs ++ [_], hvs.append_right _, ?_⟩
            rw [hone, decisions, List.filter_append, List.filter_cons_of_pos (by simpa using hd)]
            exact List.rel_append hpairs (.cons hauth .nil)
          · refine ⟨vs, hvs.trans (List.sublist_append_left _ _), ?_⟩
            rw [hone, decisions, List.filter_append, List.filter_cons_of_neg (by simpa using hd), List.filter_nil,
              List.append_nil]
            exact hpairs

/-- Every call keeps the decisions governed, and one without an envelope adds none. -/
theorem Governed.call (h : Governed R log₀ P) (c : ProcessCall) : Governed R log₀ (P.call R c) := by
  obtain ⟨host, actor, request⟩ := c
  cases request with
  | command command envelope => exact h.runCommand host actor command envelope
  | guardedPost draft nowMs => exact h.undecided guardedCoordinationPost_undecided
  | readInbox args => exact h.undecided (coordinationReadInbox_always _)

theorem Governed.run (h : Governed R log₀ P) (calls : List ProcessCall) : Governed R log₀ (P.run R calls) := by
  induction calls generalizing P with
  | nil => exact h
  | cons c calls ih => exact ih (h.call c)

def HandsOver (c : ProcessCall) : Prop :=
  ∃ draft envelope, c.request = .command (.post draft .envelope) envelope

theorem decisions_call {c : ProcessCall} (hc : ¬ HandsOver c) :
    decisions (P.call R c).bus.written = decisions P.bus.written := by
  obtain ⟨host, actor, request⟩ := c
  cases request with
  | guardedPost draft nowMs => exact decisions_of_appends guardedCoordinationPost_undecided
  | readInbox args => exact decisions_of_appends (coordinationReadInbox_always _)
  | command command envelope =>
    have hnone : askedSubject R actor command P.bus = none :=
      Option.eq_none_iff_forall_ne_some.2 fun subject hs => by
        obtain ⟨draft, rfl⟩ := askedSubject_some hs
        exact hc ⟨draft, envelope, rfl⟩
    change decisions (P.runCommand R host actor command envelope).bus.written = _
    rw [BusProcess.runCommand, hnone]
    exact decisions_of_appends (run_refused fun subject hs => by rw [hnone] at hs; cases hs)

/-- In every run of a process's calls, the decisions in the repository that were not there
before are those it wrote. Each has an envelope of its own, which the authority accepted for
the event's content and actor; and only a post that hands an envelope over adds one. -/
theorem decision_authority (R : ProcessRuntime D) (guard : CoordinationRetryGuard)
    (log₀ : SQLiteCoordinationRepository D) (calls : List ProcessCall) :
    let P := (BusProcess.start guard log₀).run R calls
    SQLiteCoordinationRepository.bodies P.bus.log =
        SQLiteCoordinationRepository.bodies log₀ ++ P.bus.written ∧
      (∃ vs, vs.Sublist P.verifications ∧ List.Forall₂ (Authorises R) (decisions P.bus.written) vs) ∧
      (∀ v ∈ P.verifications, R.authority.Accepts v) ∧ (P.verifications.map Verification.envelope).Nodup ∧
      ∀ c, ¬ HandsOver c → decisions (P.call R c).bus.written = decisions P.bus.written := by
  intro P
  have h : Governed R log₀ P := Governed.start.run calls
  refine ⟨h.log, h.authorised, h.accepted, ?_, fun c hc => decisions_call hc⟩
  have hkeys : ((P.verifications.map Verification.envelope).map DecisionAuthorityEnvelope.replayKey).Nodup := by
    rw [List.map_map]
    exact h.tokens ▸ h.nodup
  exact hkeys.of_map _

end BusProcess

end VeraMono
