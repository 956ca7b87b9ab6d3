import VeraMono.Framework.Views
import VeraMono.Proof.Publication

/-!
# Rejected checkpoints

A `checkpoint` call compares three of its arguments with what is stored: the memory head before it
writes anything, the checkpoint head when it stores the candidate, and the generation of the
subject when it publishes. The last comparison comes after the candidate is durable, so a call
rejected by it leaves the candidate behind, unless the recovery store had the id already and
answered a replay. `rejected_cases` lists what a rejected call leaves, and
`rejected_checkpoint_iff` says exactly when `reconstruct` shows none of it.
-/

namespace VeraMono

open Framework

variable {D : Type} {R : Runtime D} {s s' : VeraState D}

/-! ## The accepted state -/

section Accepted
variable [DecidableEq D]

/-- What the verification of the outbound audit looks at. -/
theorem assertOutboundEffectIntegrity_sees :
    (assertOutboundEffectIntegrity R).Sees fun s => (s.fence, s.audit) := by
  have hfence {s s' : VeraState D} (h : (s.fence, s.audit) = (s'.fence, s'.audit)) :
      s.fence = s'.fence := congrArg Prod.fst h
  have haudit {s s' : VeraState D} (h : (s.fence, s.audit) = (s'.fence, s'.audit)) :
      s.audit = s'.audit := congrArg Prod.snd h
  have hchain : (OutboundExecutionAudit.verifyChain R.hash).Sees fun s => (s.fence, s.audit) :=
    .bind (.read fun s s' h => by rw [haudit h]) fun _ => .bind (.read fun s s' h => by rw [haudit h]) fun _ =>
      .bind (.read fun s s' h => by rw [haudit h]) fun _ => .ofExcept _
  have hcheck (receipts : List (EffectReceipt D)) (ids : List String) :
      (OutboundExecutionAudit.checkEffects receipts ids).Sees fun s => (s.fence, s.audit) := by
    induction ids with
    | nil => trivial
    | cons id ids ih =>
      exact .bind (.read fun s s' h => by rw [haudit h]) fun _ => .bind (.ofExcept _) fun _ =>
        .bind ih fun _ => .pure _
  refine .bind (.bind hchain fun _ => .bind (.read fun s s' h => by rw [hfence h]) fun receipts =>
    .bind (.read fun s s' h => by rw [haudit h]) fun ids => .bind (hcheck receipts ids) fun _ => ?_)
    fun _ => .pure _
  split <;> trivial

def Committed (R : Runtime D) (checkpointId : String) (journal : LifecycleJournal D) : Prop :=
  (LifecycleJournal.hasEvent R.hash checkpointId .currentnessCommitted journal ||
    LifecycleJournal.hasEvent R.hash checkpointId .restartReconciledCommitted journal) = true

/-- What `reconstruct` finds of a state that is accepted and current. -/
structure Accepts (R : Runtime D) (s : VeraState D) (accepted : NativeRecoveryCheckpoint D)
    (latest : Option (NativeRecoveryCheckpoint D)) (current : CurrentnessSnapshot D)
    (payload : CandidateValues D) : Prop where
  integrity : ∃ u, (assertOutboundEffectIntegrity R).run s = (.ok u, s)
  verified : ∃ head, LifecycleJournal.verifyChain R.hash s.journal.entries s.journal.sequence
    s.journal.head = .ok head
  latest_eq : NativeRecoveryCheckpointStore.latest R.hash s.checkpoints = .ok latest
  current_eq : (readCurrent R).run s = (.ok (some current), s)
  payload_eq : CurrentnessStore.readPayload R.hash R.config.currentnessSubjectId s.currentness = .ok payload
  project : payload.projectId = R.config.projectId ∧ payload.identityId = R.config.identityId
  accepted_eq : (readAccepted R payload).run s = (.ok accepted, s)
  values : payload = candidateValues R accepted
  committed : Committed R accepted.body.checkpointId s.journal
  newest : ∀ newest, latest = some newest → newest.sequence ≤ accepted.sequence
  control : accepted.body.controlSourceDigest = s.controlSourceDigest
  memory : s.memory.head = accepted.body.memoryHeadDigest

omit [DecidableEq D] in
theorem candidateStatus_ne (event : Option (LifecycleEvent D)) :
    candidateStatus event ≠ .acceptedCurrent := by
  rw [candidateStatus]
  split <;> exact nofun

omit [DecidableEq D] in
theorem reconstruction_run {status : ReconstructionStatus} {memoryHead controlDigest : D}
    {current : Option (CurrentnessSnapshot D)}
    {accepted latest pending resume : Option (NativeRecoveryCheckpoint D)} :
    (reconstruction status memoryHead controlDigest current accepted latest pending resume).run s =
      (.ok ⟨status, memoryHead, controlDigest, current, accepted, latest, pending, resume,
        s.fence.unresolved.map fun r => (r.effectId, r.state), s.journal.head⟩, s) := rfl

omit [DecidableEq D] in
theorem committedInJournal_run {id : String} : (committedInJournal R id).run s =
    (.ok (LifecycleJournal.hasEvent R.hash id .currentnessCommitted s.journal ||
      LifecycleJournal.hasEvent R.hash id .restartReconciledCommitted s.journal), s) := by
  have hread (ty : JournalEventType) :
      (hasEvent R id ty).run s = (.ok (LifecycleJournal.hasEvent R.hash id ty s.journal), s) := rfl
  rw [committedInJournal, Prog.run_bind_ok (hread .currentnessCommitted)]
  cases LifecycleJournal.hasEvent R.hash id .currentnessCommitted s.journal with
  | true => rfl
  | false => exact hread .restartReconciledCommitted

variable {accepted : NativeRecoveryCheckpoint D} {current : CurrentnessSnapshot D}

theorem reconcileJournal_committed (hc : Committed R accepted.body.checkpointId s.journal) :
    (reconcileJournal R true accepted current).run s = (.ok false, s) := by
  have hrun : (committedInJournal R accepted.body.checkpointId).run s = (.ok true, s) := by
    rw [committedInJournal_run, hc]
  rw [reconcileJournal, Prog.run_bind_ok hrun]
  rfl

/-- A restart that does not find the commit writes it, and says so. -/
theorem reconcileJournal_uncommitted (hc : ¬ Committed R accepted.body.checkpointId s.journal)
    {reconciled : Bool} (h : (reconcileJournal R true accepted current).run s = (.ok reconciled, s')) :
    reconciled = true := by
  have hrun : (committedInJournal R accepted.body.checkpointId).run s = (.ok false, s) := by
    rw [committedInJournal_run, Bool.eq_false_iff.2 hc]
  rw [reconcileJournal, Prog.run_bind_ok hrun, if_pos ⟨Bool.false_ne_true, rfl⟩, Prog.run_bind] at h
  split at h
  · cases h
    rfl
  · cases h

theorem verifyJournalChain_run {head : D} (h : LifecycleJournal.verifyChain R.hash s.journal.entries
    s.journal.sequence s.journal.head = .ok head) : (verifyJournalChain R).run s = (.ok head, s) := by
  rw [verifyJournalChain]
  simp only [Prog.run_bind, Prog.run_read, Op.lift, Prog.run_ofExcept, h]

theorem Accepts.reconstruct
    {latest : Option (NativeRecoveryCheckpoint D)}
    {payload : CandidateValues D} (h : Accepts R s accepted latest current payload) :
    ∃ r, (reconstruct R true).run s = (.ok r, s) ∧ r.status = .acceptedCurrent ∧
      r.accepted = some accepted ∧ r.pending = none := by
  obtain ⟨u, hintegrity⟩ := h.integrity
  obtain ⟨head, hverified⟩ := h.verified
  have hverify : (verifyJournalChain R).run s = (.ok head, s) := verifyJournalChain_run hverified
  have hlatest : (Prog.readM fun s : VeraState D =>
      NativeRecoveryCheckpointStore.latest R.hash s.checkpoints : Op D _).run s = (.ok latest, s) := by
    rw [Prog.run_readM, h.latest_eq]
  have hpayload : (Prog.readM fun s : VeraState D =>
      CurrentnessStore.readPayload R.hash R.config.currentnessSubjectId s.currentness : Op D _).run s =
      (.ok payload, s) := by
    rw [Prog.run_readM, h.payload_eq]
  have hstatus : acceptedStatus accepted s.memory.head s.controlSourceDigest false = .acceptedCurrent := by
    rw [acceptedStatus, if_neg (not_not.2 h.control), if_neg (not_not.2 h.memory)]
    rfl
  rw [VeraMono.reconstruct, Prog.run_bind_ok hintegrity, Prog.run_bind_ok hverify,
    Prog.run_bind_ok (Prog.run_read _ s), Prog.run_bind_ok (Prog.run_read _ s), Prog.run_bind_ok hlatest,
    Prog.run_bind_ok h.current_eq]
  dsimp only
  rw [reconstructAccepted, Prog.run_bind_ok hpayload,
    if_neg (not_or.2 ⟨not_not.2 h.project.1, not_not.2 h.project.2⟩), Prog.run_bind_ok h.accepted_eq,
    if_neg (not_not.2 h.values), Prog.run_bind_ok (reconcileJournal_committed h.committed)]
  cases latest with
  | none => exact ⟨_, reconstruction_run, hstatus, rfl, rfl⟩
  | some newest =>
    dsimp only
    rw [if_neg (Nat.not_lt.2 (h.newest newest rfl))]
    exact ⟨_, reconstruction_run, hstatus, rfl, rfl⟩

theorem accepts_of_reconstruct {r : LifecycleReconstruction D}
    (h : (reconstruct R true).run s = (.ok r, s')) (hr : r.status = .acceptedCurrent) :
    ∃ accepted latest current payload, Accepts R s accepted latest current payload := by
  obtain ⟨u, hintegrity, h⟩ := Prog.run_readOnly_bind assertOutboundEffectIntegrity_readOnly h
  obtain ⟨head, hverify, h⟩ := Prog.run_readOnly_bind verifyJournalChain_readOnly h
  obtain ⟨memoryHead, hmemory, h⟩ := Prog.run_readOnly_bind (Prog.ReadOnly.read _) h
  obtain ⟨controlDigest, hcontrol, h⟩ := Prog.run_readOnly_bind (Prog.ReadOnly.read _) h
  obtain ⟨latest, hlatest, h⟩ := Prog.run_readOnly_bind (Prog.ReadOnly.readM _) h
  obtain ⟨current, hcurrent, h⟩ := Prog.run_readOnly_bind (Prog.ReadOnly.readM _) h
  cases hmemory
  cases hcontrol
  have hverified : LifecycleJournal.verifyChain R.hash s.journal.entries s.journal.sequence
      s.journal.head = .ok head := by
    rw [verifyJournalChain] at hverify
    simp only [Prog.run_bind, Prog.run_read, Op.lift, Prog.run_ofExcept] at hverify
    exact (Prod.mk.inj hverify).1
  rw [Prog.run_readM] at hlatest
  cases current with
  | none =>
    cases latest with
    | none =>
      cases h
      cases hr
    | some newest =>
      cases h
      exact absurd hr (candidateStatus_ne _)
  | some current =>
    obtain ⟨payload, hpayload, h⟩ := Prog.run_readOnly_bind (Prog.ReadOnly.readM _) h
    dsimp only at h
    split at h
    · cases h
    rename_i hproject
    obtain ⟨accepted, haccepted, h⟩ := Prog.run_readOnly_bind (Prog.ReadOnly.readM _) h
    split at h
    · cases h
    rename_i hvalues
    have hstored := (Prod.mk.inj hlatest).1
    rw [Prog.run_readM] at hpayload
    rw [not_or, not_not, not_not] at hproject
    by_cases hc : Committed R accepted.body.checkpointId s.journal
    · rw [Prog.run_bind_ok (reconcileJournal_committed hc)] at h
      have hstatus {status : ReconstructionStatus}
          (hs : status = acceptedStatus accepted s.memory.head s.controlSourceDigest false)
          (ha : status = .acceptedCurrent) : accepted.body.controlSourceDigest = s.controlSourceDigest ∧
            s.memory.head = accepted.body.memoryHeadDigest := by
        rw [ha, acceptedStatus] at hs
        split at hs
        · cases hs
        split at hs
        · cases hs
        exact ⟨not_not.1 ‹_›, not_not.1 ‹_›⟩
      have haccepts (hnewest : ∀ newest, latest = some newest → newest.sequence ≤ accepted.sequence)
          (hs : r.status = acceptedStatus accepted s.memory.head s.controlSourceDigest false) :
          Accepts R s accepted latest current payload :=
        ⟨⟨u, hintegrity⟩, ⟨head, hverified⟩, hstored, hcurrent, (Prod.mk.inj hpayload).1, hproject,
          haccepted, not_not.1 hvalues, hc, hnewest, (hstatus hs hr).1, (hstatus hs hr).2⟩
      cases latest with
      | none =>
        cases h
        exact ⟨accepted, _, _, _, haccepts (fun _ hn => nomatch hn) rfl⟩
      | some newest =>
        dsimp only at h
        split at h
        · cases h
          exact absurd hr (candidateStatus_ne _)
        · rename_i hle
          cases h
          refine ⟨accepted, _, _, _, haccepts (fun n hn => ?_) rfl⟩
          cases hn
          exact Nat.not_lt.1 hle
    · rw [Prog.run_bind] at h
      split at h
      · rename_i reconciled s₁ hrun
        obtain rfl := reconcileJournal_uncommitted hc hrun
        have hne : acceptedStatus accepted s.memory.head s.controlSourceDigest true ≠ .acceptedCurrent := by
          rw [acceptedStatus]
          split
          · exact nofun
          split <;> exact nofun
        cases latest with
        | none =>
          cases h
          exact absurd hr hne
        | some newest =>
          dsimp only at h
          split at h
          · cases h
            exact absurd hr (candidateStatus_ne _)
          · cases h
            exact absurd hr hne
      · cases h

end Accepted

/-! ## What a call writes after its candidate is stored -/

section Journal
variable [DecidableEq D] {journal journal' : LifecycleJournal D} {b : JournalBody D}

omit [DecidableEq D] in
theorem verifies_iff [DecidableEq D] : (∃ head, LifecycleJournal.verifyChain R.hash journal.entries journal.sequence
      journal.head = .ok head) ↔
    (journalChain R.hash).Linked 0 (journalChain R.hash).genesis journal.entries journal.sequence
      journal.head := by
  have hall (bodies : List (JournalBody D)) :
      bodies.foldlM (fun (_ : Unit) _ => (.ok () : Except Empty Unit)) () = .ok () := by
    induction bodies with
    | nil => rfl
    | cons b bs ih => exact ih
  rw [LifecycleJournal.verifyChain]
  constructor
  · rintro ⟨head, h⟩
    split at h
    · rename_i hv
      exact (Chaining.verify_eq_ok.1 hv).2.1
    · cases h
  · intro hl
    exact ⟨journal.head, by rw [Chaining.verify_eq_ok.2 ⟨rfl, hl, (), hall _⟩]⟩

/-- Only the journal is written, and nothing that is read of it is lost. -/
structure JournalGrown (R : Runtime D) (s s' : VeraState D) : Prop where
  eq : ∃ journal, s' = { s with journal := journal }
  verifies : (∃ head, LifecycleJournal.verifyChain R.hash s.journal.entries s.journal.sequence
      s.journal.head = .ok head) →
    ∃ head, LifecycleJournal.verifyChain R.hash s'.journal.entries s'.journal.sequence
      s'.journal.head = .ok head
  committed : ∀ id, Committed R id s.journal → Committed R id s'.journal

theorem JournalGrown.refl (s : VeraState D) : JournalGrown R s s := ⟨⟨s.journal, rfl⟩, id, fun _ => id⟩

theorem JournalGrown.trans {s'' : VeraState D} (h : JournalGrown R s s') (h' : JournalGrown R s' s'') :
    JournalGrown R s s'' := by
  obtain ⟨⟨journal, rfl⟩, hv, hc⟩ := h
  obtain ⟨⟨journal', rfl⟩, hv', hc'⟩ := h'
  exact ⟨⟨journal', rfl⟩, hv' ∘ hv, fun id => hc' id ∘ hc id⟩

omit [DecidableEq D] in
theorem hasEvent_extend {id : String} {ty : JournalEventType}
    (h : LifecycleJournal.hasEvent R.hash id ty journal = true) :
    LifecycleJournal.hasEvent R.hash id ty ((journalChain R.hash).extend journal b) = true := by
  rw [LifecycleJournal.hasEvent, Chaining.lookup] at h ⊢
  rw [Chaining.extend, List.find?_append]
  cases hf : journal.entries.find? fun e => (journalChain R.hash).key e.body = (id, ty) with
  | none =>
    rw [hf] at h
    cases h
  | some e => rfl

def journalKinds : List ExceptionClass := [.lifecycleJournalError, .integrityError]

theorem journal_append_run {r : Except Failure (LifecycleEvent D)}
    (h : (Op.onJournal (LifecycleJournal.append R.hash b) : Op D _).run s = (r, s')) :
    JournalGrown R s s' ∧ ∀ e, r = .error e → s' = s ∧ e.kind ∈ journalKinds := by
  rw [Op.onJournal, Prog.run_txn] at h
  cases ha : LifecycleJournal.append R.hash b s.journal with
  | error e =>
    rw [ha] at h
    cases h
    refine ⟨.refl s, fun e' he => ⟨rfl, ?_⟩⟩
    cases he
    rw [LifecycleJournal.append] at ha
    cases ht : requireText .lifecycleJournalError "transition_id" b.transitionId with
    | error e' =>
      rw [ht] at ha
      cases ha
      rw [requireText] at ht
      split at ht
      · cases ht
        exact List.mem_cons_self
      · cases ht
    | ok t =>
      rw [ht] at ha
      dsimp only [bind, Except.bind] at ha
      split at ha <;> cases ha
      · exact List.mem_cons_self
      · exact List.mem_cons_of_mem _ List.mem_cons_self
  | ok result =>
    obtain ⟨e, journal⟩ := result
    rw [ha] at h
    cases h
    refine ⟨?_, fun e' he => by cases he⟩
    rcases Chaining.append_cases (journal_append_ok ha).2 with ⟨rfl, -⟩ | ⟨-, -, rfl⟩
    · exact .refl s
    · refine ⟨⟨_, rfl⟩, fun hv => verifies_iff.2 ((verifies_iff.1 hv).snoc b), fun id hc => ?_⟩
      rw [Committed, Bool.or_eq_true] at hc ⊢
      exact hc.imp hasEvent_extend hasEvent_extend

variable {args : CheckpointArgs D} {recovery : NativeRecoveryCheckpoint D} {report : DriftReport D}
  {e : Failure}

def storedGeneration (R : Runtime D) (s : VeraState D) : Option Int :=
  (s.currentness.get? R.config.currentnessSubjectId).map fun row => (row.generation : Int)

/-- A call that stored its candidate and then failed wrote the journal only, unless it had
published the candidate and the journal refused the commit. -/
structure LeftBehind (R : Runtime D) (args : CheckpointArgs D) (e : Failure) (s s' : VeraState D) : Prop where
  grown : (storedGeneration R s = args.expectedCurrentnessGeneration → e.kind ∉ journalKinds) →
    JournalGrown R s s'

theorem publishCandidate_left (h : (publishCandidate R args recovery report).run s = (.error e, s')) :
    LeftBehind R args e s s' := by
  rw [publishCandidate, Prog.run_bind, Op.onCurrentness, Prog.run_txn] at h
  refine ⟨fun hkind => ?_⟩
  cases hp : CurrentnessStore.publish R.hash R.config.currentnessSubjectId (candidateValues R recovery)
      args.expectedCurrentnessGeneration s.currentness with
  | error e' =>
    rw [hp] at h
    dsimp only [Except.map, Prog.committed] at h
    cases h
    exact .refl _
  | ok result =>
    obtain ⟨current, t⟩ := result
    rw [hp] at h
    dsimp only [Except.map, Prog.committed] at h
    rw [Prog.run_bind] at h
    split at h
    · cases h
    · rename_i hj
      cases h
      exact absurd ((journal_append_run hj).2 _ rfl).2 (hkind (publish_ok hp).1)

theorem assureCandidate_left (h : (assureCandidate R args recovery).run s = (.error e, s')) :
    LeftBehind R args e s s' := by
  rw [assureCandidate, Prog.run_bind, Op.lift, Prog.run_ofExcept] at h
  split at h
  swap
  · rename_i hreport
    cases h
    obtain ⟨-, rfl⟩ := Prod.mk.inj hreport
    exact ⟨fun _ => .refl _⟩
  rename_i report s₁ hreport
  obtain ⟨-, rfl⟩ := Prod.mk.inj hreport
  split at h
  · rw [Prog.run_bind] at h
    split at h
    all_goals
      rename_i hj
      cases h
      exact ⟨fun _ => (journal_append_run hj).1⟩
  · rw [Prog.run_bind] at h
    split at h
    · rename_i s₁ hj
      have hgrown := (journal_append_run hj).1
      obtain ⟨hleft⟩ := publishCandidate_left h
      obtain ⟨⟨journal, rfl⟩, -, -⟩ := id hgrown
      exact ⟨fun hkind => hgrown.trans (hleft hkind)⟩
    · rename_i hj
      cases h
      exact ⟨fun _ => (journal_append_run hj).1⟩

/-- What a call does once its candidate is stored. -/
theorem stored_left (h : (Op.lift (canonicalInteger args.expectedCurrentnessGeneration) >>= fun g =>
      Op.onJournal (LifecycleJournal.append R.hash (preparedEvent R recovery g)) >>= fun _ =>
        assureCandidate R args recovery).run s = (.error e, s')) : LeftBehind R args e s s' := by
  rw [Prog.run_bind, Op.lift, Prog.run_ofExcept] at h
  split at h
  · rename_i g s₁ hg
    obtain ⟨-, rfl⟩ := Prod.mk.inj hg
    rw [Prog.run_bind] at h
    split at h
    · rename_i s₁ hj
      have hgrown := (journal_append_run hj).1
      obtain ⟨hleft⟩ := assureCandidate_left h
      obtain ⟨⟨journal, rfl⟩, -, -⟩ := id hgrown
      exact ⟨fun hkind => hgrown.trans (hleft hkind)⟩
    · rename_i hj
      cases h
      exact ⟨fun _ => (journal_append_run hj).1⟩
  · rename_i hg
    cases h
    obtain ⟨-, rfl⟩ := Prod.mk.inj hg
    exact ⟨fun _ => .refl _⟩

end Journal

/-! ## Rejections -/

section Rejections
variable [DecidableEq D] {args : CheckpointArgs D} {e : Failure}

/-- The checkpoint head a caller expects is the one that is stored. -/
def HeadMatches (args : CheckpointArgs D) (s : VeraState D) : Prop :=
  requireDigest .nativeCheckpointError "expected_head" args.expectedCheckpointHead = .ok s.checkpoints.head

/-- The errors of the three comparisons, each with the argument that does not match. -/
inductive Mismatched (R : Runtime D) (args : CheckpointArgs D) (s : VeraState D) : Failure → Prop
  | memoryHead : args.expectedMemoryHead ≠ .lower s.memory.head →
      Mismatched R args s ⟨.valueError, "memory head changed before lifecycle checkpoint"⟩
  | checkpointHead : ¬ HeadMatches args s →
      Mismatched R args s ⟨.staleCheckpointHead, "stale expected recovery checkpoint head"⟩
  | generation : storedGeneration R s ≠ args.expectedCurrentnessGeneration →
      Mismatched R args s (fenceError "stale currentness generation")

/-- `reconstruct` gives the same status, accepted checkpoint and pending candidate. -/
def SameReconstruction (R : Runtime D) (s s' : VeraState D) : Prop :=
  ∃ r r' t t', (reconstruct R true).run s = (.ok r, t) ∧ (reconstruct R true).run s' = (.ok r', t') ∧
    r'.status = r.status ∧ r'.accepted = r.accepted ∧ r'.pending = r.pending

/-- The recovery store has a checkpoint of this id. -/
def StoredId (R : Runtime D) (args : CheckpointArgs D) (s : VeraState D) : Prop :=
  ((checkpointChain R.hash).lookup s.checkpoints args.checkpointId).isSome = true

variable {accepted : NativeRecoveryCheckpoint D} {latest : Option (NativeRecoveryCheckpoint D)}
  {payload : CandidateValues D} {current : CurrentnessSnapshot D}

/-- An accepted state, of which the journal has grown, is still accepted. -/
theorem Accepts.grown (h : Accepts R s accepted latest current payload)
    (hg : JournalGrown R s s') : Accepts R s' accepted latest current payload := by
  obtain ⟨⟨journal, rfl⟩, hv, hc⟩ := hg
  obtain ⟨u, hintegrity⟩ := h.integrity
  have hsees : (assertOutboundEffectIntegrity R).run { s with journal := journal } =
      (((assertOutboundEffectIntegrity R).run s).1, { s with journal := journal }) :=
    assertOutboundEffectIntegrity_sees.run rfl
  rw [hintegrity] at hsees
  have hcurrent := h.current_eq
  have haccepted := h.accepted_eq
  rw [readCurrent, Prog.run_readM] at hcurrent
  rw [readAccepted, Prog.run_readM] at haccepted
  exact ⟨⟨u, hsees⟩, hv h.verified, h.latest_eq, by rw [readCurrent, Prog.run_readM, (Prod.mk.inj hcurrent).1],
    h.payload_eq, h.project, by rw [readAccepted, Prog.run_readM, (Prod.mk.inj haccepted).1], h.values,
    hc _ h.committed, h.newest, h.control, h.memory⟩

theorem same_of_grown {r : LifecycleReconstruction D} {t : VeraState D}
    (h : (reconstruct R true).run s = (.ok r, t)) (hr : r.status = .acceptedCurrent)
    (hg : JournalGrown R s s') : SameReconstruction R s s' := by
  obtain ⟨accepted, latest, current, payload, ha⟩ := accepts_of_reconstruct h hr
  obtain ⟨r₁, h₁, hs₁, ha₁, hp₁⟩ := ha.reconstruct
  obtain ⟨r₂, h₂, hs₂, ha₂, hp₂⟩ := (ha.grown hg).reconstruct
  exact ⟨r₁, r₂, s, s', h₁, h₂, hs₂.trans hs₁.symm, ha₂.trans ha₁.symm, hp₂.trans hp₁.symm⟩

theorem readAccepted_find (h : (readAccepted R payload).run s = (.ok accepted, s)) :
    s.checkpoints.entries.find? (fun e => e.digest = payload.recoveryCheckpointDigest) = some accepted := by
  rw [readAccepted, Prog.run_readM] at h
  have h := (Prod.mk.inj h).1
  rw [NativeRecoveryCheckpointStore.readDigest] at h
  cases hf : s.checkpoints.entries.find? fun e => e.digest = payload.recoveryCheckpointDigest with
  | none =>
    rw [hf] at h
    cases h
  | some found =>
    rw [hf] at h
    dsimp only [NativeRecoveryCheckpointStore.fromRow] at h
    split at h
    · rename_i heq
      split at heq
      · cases heq
      · cases heq
        cases h
        rfl
    · split at h <;> cases h

/-- A new candidate behind an accepted checkpoint shows. -/
theorem not_same_of_stored {r : LifecycleReconstruction D} {t : VeraState D} {b : CheckpointBody D}
    (hs : Stored R s) (h : (reconstruct R true).run s = (.ok r, t)) (hr : r.status = .acceptedCurrent)
    (hc : s'.checkpoints = (checkpointChain R.hash).extend s.checkpoints b)
    (hp : s'.currentness = s.currentness) : ¬ SameReconstruction R s s' := by
  rintro ⟨r₁, r₂, t₁, t₂, h₁, h₂, hstatus, -, -⟩
  obtain ⟨rfl, -⟩ : r₁ = r ∧ t₁ = t := by simpa using h₁.symm.trans h
  obtain ⟨accepted, latest, current, payload, ha⟩ := accepts_of_reconstruct h hr
  obtain ⟨accepted', latest', current', payload', ha'⟩ := accepts_of_reconstruct h₂ (hstatus.trans hr)
  have hpayload := ha'.payload_eq
  rw [hp, ha.payload_eq] at hpayload
  cases hpayload
  have hfind := readAccepted_find ha.accepted_eq
  have hfind' := readAccepted_find ha'.accepted_eq
  rw [hc, Chaining.extend, List.find?_append, hfind] at hfind'
  cases hfind'
  have hlatest := ha'.latest_eq
  rw [hc, NativeRecoveryCheckpointStore.latest, Chaining.extend, List.getLast?_concat] at hlatest
  have hnew : NativeRecoveryCheckpointStore.fromRow R.hash ((checkpointChain R.hash).next s.checkpoints b) =
      .ok ((checkpointChain R.hash).next s.checkpoints b) := if_neg (not_not.2 rfl)
  dsimp only at hlatest
  rw [hnew] at hlatest
  cases hlatest
  have hle := ha'.newest _ rfl
  have hmem := (hs.chain.linked.mem (List.mem_of_find?_eq_some hfind)).2.2
  exact absurd (hle.trans hmem) (Nat.not_succ_le_self _)

/-- What the checks before the candidate can raise. -/
theorem checkpointGuards_error
    (ha : Accepts R s accepted latest current payload)
    (h : (checkpointGuards R args).run s = (.error e, s')) :
    args.expectedMemoryHead ≠ .lower s.memory.head ∨ ∃ summary, e =
      fenceError ("unresolved external effect barrier is active: " ++ summary) := by
  obtain ⟨u, hintegrity⟩ := ha.integrity
  obtain ⟨head, hverified⟩ := ha.verified
  have hverify : (verifyJournalChain R).run s = (.ok head, s) := verifyJournalChain_run hverified
  rw [checkpointGuards, Prog.run_bind, Prog.run_readM] at h
  cases hclear : s.fence.assertClear with
  | error e' =>
    rw [hclear] at h
    cases h
    rw [EffectFence.assertClear] at hclear
    split at hclear
    · cases hclear
    · cases hclear
      exact .inr ⟨_, rfl⟩
  | ok v =>
    rw [hclear] at h
    dsimp only at h
    rw [Prog.run_bind_ok hintegrity, Prog.run_bind_ok hverify, Prog.run_bind_ok (Prog.run_read _ s)] at h
    split at h
    · rename_i hne
      exact .inl hne
    · rw [Prog.run_bind_ok (Prog.run_read _ s)] at h
      cases h

theorem checkpointGuards_readOnly : (checkpointGuards R args).ReadOnly := by
  refine (Prog.ReadOnly.readM _).bind fun _ => assertOutboundEffectIntegrity_readOnly.bind fun _ =>
    verifyJournalChain_readOnly.bind fun _ => (Prog.ReadOnly.read _).bind fun _ => ?_
  split
  · trivial
  · exact (Prog.ReadOnly.read _).bind fun _ => trivial

/-- The call goes on from its checks only with the memory head it expects. -/
theorem checkpointGuards_ok {m : D × D} (h : (checkpointGuards R args).run s = (.ok m, s')) :
    args.expectedMemoryHead = .lower s.memory.head := by
  obtain ⟨_, -, h⟩ := Prog.run_readOnly_bind (Prog.ReadOnly.readM _) h
  obtain ⟨_, -, h⟩ := Prog.run_readOnly_bind assertOutboundEffectIntegrity_readOnly h
  obtain ⟨_, -, h⟩ := Prog.run_readOnly_bind verifyJournalChain_readOnly h
  obtain ⟨head, hhead, h⟩ := Prog.run_readOnly_bind (Prog.ReadOnly.read _) h
  cases hhead
  split at h
  · cases h
  · exact not_not.1 ‹_›

omit [DecidableEq D] in
theorem bind_eq_error {α β : Type} {x : Except Failure α} {f : α → Except Failure β} :
    x >>= f = .error e ↔ x = .error e ∨ ∃ a, x = .ok a ∧ f a = .error e := by
  cases x with
  | error e' =>
    refine ⟨fun h => .inl ?_, ?_⟩
    · cases h
      rfl
    · rintro (h | ⟨a, h, -⟩) <;> cases h
      rfl
  | ok a =>
    refine ⟨fun h => .inr ⟨a, rfl, h⟩, ?_⟩
    rintro (h | ⟨a', h, he⟩)
    · cases h
    · cases h
      exact he

/-- An error of the recovery store's `append` is not the fence's. -/
theorem checkpoint_append_error {b : CheckpointBody D} {expectedHead : DigestText D}
    {log : NativeRecoveryCheckpointStore D}
    (h : NativeRecoveryCheckpointStore.append R.hash b expectedHead log = .error e) :
    e.kind ≠ .effectFenceError := by
  have htext {label value : String} {e : Failure} (he : requireText .nativeCheckpointError label value = .error e) :
      e.kind ≠ .effectFenceError := by
    rw [requireText] at he
    split at he <;> cases he
    intro hk
    cases hk
  have hdigest {label : String} {value : DigestText D} {e : Failure}
      (he : requireDigest .nativeCheckpointError label value = .error e) : e.kind ≠ .effectFenceError := by
    cases value <;> cases he
    intro hk
    cases hk
  have htuple {label : String} {value : List String} {e : Failure}
      (he : NativeRecoveryCheckpointStore.requireStringTuple label value = .error e) :
      e.kind ≠ .effectFenceError := by
    rw [NativeRecoveryCheckpointStore.requireStringTuple] at he
    split at he <;> cases he
    intro hk
    cases hk
  simp only [NativeRecoveryCheckpointStore.append, bind_eq_error] at h
  rcases h with h | ⟨_, -, h | ⟨_, -, h | ⟨head, -, h | ⟨_, -, h | ⟨_, -, h | ⟨_, -, h⟩⟩⟩⟩⟩⟩
  · exact htext h
  · exact htext h
  · exact hdigest h
  · exact htuple h
  · exact htuple h
  · exact htext h
  split at h
  · split at h
    · rename_i old _ _ _
      cases hrow : NativeRecoveryCheckpointStore.fromRow R.hash _ with
      | ok r =>
        rw [hrow] at h
        cases h
      | error e' =>
        rw [hrow] at h
        cases h
        rw [NativeRecoveryCheckpointStore.fromRow] at hrow
        split at hrow <;> cases hrow
        intro hk
        cases hk
    · cases h
      intro hk
      cases hk
  · split at h
    · cases h
      intro hk
      cases hk
    split at h <;> cases h
    intro hk
    cases hk

theorem fenceError_ne {summary : String} : fenceError "stale currentness generation" ≠
    fenceError ("unresolved external effect barrier is active: " ++ summary) := by
  intro h
  have hlist := congrArg (fun e : Failure => e.message.toList.head?) h
  simp [fenceError] at hlist

/-- What a rejected call leaves, by how far it came: nothing, or the journal of a candidate
that was stored before, or a new candidate. -/
theorem rejected_cases
    (ha : Accepts R s accepted latest current payload)
    (hm : Mismatched R args s e) (h : (checkpoint R args).run s = (.error e, s')) :
    JournalGrown R s s' ∧ (args.expectedMemoryHead ≠ .lower s.memory.head ∨ ¬ HeadMatches args s ∨
        StoredId R args s) ∨
      ¬ StoredId R args s ∧ args.expectedMemoryHead = .lower s.memory.head ∧ HeadMatches args s ∧
        (∃ b, s'.checkpoints = (checkpointChain R.hash).extend s.checkpoints b) ∧
        s'.currentness = s.currentness := by
  rw [checkpoint, Op.withLock, Prog.run_withLock, checkpointUnlocked, Prog.run_bind] at h
  have hguarded : (checkpointGuards R args).ReadOnly := checkpointGuards_readOnly
  have hread := hguarded.run_snd s
  cases hguards : (checkpointGuards R args).run s with
  | mk g s₀ =>
  rw [hguards] at h hread
  obtain rfl : s = s₀ := hread.symm
  cases g with
  | error e' =>
    cases h
    refine .inl ⟨.refl _, ?_⟩
    rcases checkpointGuards_error ha hguards with hne | ⟨summary, rfl⟩
    · exact .inl hne
    · generalize he : fenceError _ = e' at hm
      cases hm with
      | memoryHead hne => exact .inl hne
      | checkpointHead hne => exact .inr (.inl hne)
      | generation => exact absurd he.symm fenceError_ne
  | ok m =>
    have hmemory := checkpointGuards_ok hguards
    have hkind : storedGeneration R s = args.expectedCurrentnessGeneration → e.kind ∉ journalKinds := by
      intro hgeneration
      cases hm with
      | memoryHead hne => exact absurd hmemory hne
      | checkpointHead => exact (by decide)
      | generation hne => exact absurd hgeneration hne
    dsimp only at h
    rw [Prog.run_bind, Op.onCheckpoints, Prog.run_txn] at h
    cases happend : NativeRecoveryCheckpointStore.append R.hash (checkpointBody R args m.1 m.2)
        args.expectedCheckpointHead s.checkpoints with
    | error e' =>
      rw [happend] at h
      cases h
      refine .inl ⟨.refl _, ?_⟩
      cases hm with
      | memoryHead hne => exact .inl hne
      | checkpointHead hne => exact .inr (.inl hne)
      | generation => exact absurd rfl (checkpoint_append_error happend)
    | ok result =>
      obtain ⟨recovery, log⟩ := result
      rw [happend] at h
      obtain ⟨hleft⟩ := stored_left h
      rcases checkpoint_append_ok happend with ⟨rfl, hstored, -⟩ | ⟨hnone, hhead, -, rfl⟩
      · exact .inl ⟨hleft hkind, .inr (.inr (Option.isSome_iff_exists.2 ⟨_, hstored⟩))⟩
      · obtain ⟨journal, rfl⟩ := (hleft hkind).eq
        refine .inr ⟨fun hs => ?_, hmemory, hhead, ⟨_, rfl⟩, rfl⟩
        have hnone : (checkpointChain R.hash).lookup s.checkpoints args.checkpointId = none := hnone
        rw [StoredId, hnone] at hs
        cases hs

def reports (R : Runtime D) (s : VeraState D) : Option ReconstructionStatus :=
  ((reconstruct R true).run s).1.toOption.map fun r => r.status

/-- The error of a call. -/
def rejection {α : Type} (o : Except Failure α × VeraState D) : Option Failure :=
  match o.1 with
  | .ok _ => none
  | .error e => some e

/-- In every reachable state that is accepted and current, a call that is rejected for one of
the arguments it compares leaves `reconstruct` as it was exactly when it was rejected for a
head, before its candidate was stored, or the recovery store had its id already. -/
theorem rejected_checkpoint_iff (R : Runtime D) (d : D) (es : List (Event (Call D)))
    (args : CheckpointArgs D) (e : Failure)
    (hcurrent : reports R (VeraPool.run R d es).store = some .acceptedCurrent)
    (hmismatch : Mismatched R args (VeraPool.run R d es).store e)
    (hrejected : rejection ((checkpoint R args).run (VeraPool.run R d es).store) = some e) :
    SameReconstruction R (VeraPool.run R d es).store
        ((checkpoint R args).run (VeraPool.run R d es).store).2 ↔
      (args.expectedMemoryHead ≠ .lower (VeraPool.run R d es).store.memory.head ∨
        ¬ HeadMatches args (VeraPool.run R d es).store ∨ StoredId R args (VeraPool.run R d es).store) := by
  have hstored : Stored R (VeraPool.run R d es).store :=
    (Protocol.sound (V := publication R) program_publication d
      ⟨Chaining.wellFormed_empty, fun g hg => (by cases hg)⟩ es).inv
  generalize (VeraPool.run R d es).store = s at *
  obtain ⟨r, t, hr, hstatus⟩ : ∃ r t, (reconstruct R true).run s = (.ok r, t) ∧
      r.status = .acceptedCurrent := by
    rw [reports] at hcurrent
    rcases hrun : (reconstruct R true).run s with ⟨_ | r, t⟩ <;> rw [hrun] at hcurrent
    · cases hcurrent
    · exact ⟨r, t, rfl, Option.some.inj hcurrent⟩
  obtain ⟨accepted, latest, current, payload, ha⟩ := accepts_of_reconstruct hr hstatus
  cases hrun : (checkpoint R args).run s with
  | mk o s' =>
  rw [hrun] at hrejected
  obtain rfl : o = .error e := by
    cases o <;> cases hrejected
    rfl
  rcases rejected_cases ha hmismatch hrun with ⟨hgrown, hcond⟩ | ⟨hnew, hmemory, hhead, ⟨b, hc⟩, hp⟩
  · exact ⟨fun _ => hcond, fun _ => same_of_grown hr hstatus hgrown⟩
  · refine ⟨fun hsame => absurd hsame (not_same_of_stored hstored hr hstatus hc hp), ?_⟩
    rintro (h | h | h)
    · exact absurd hmemory h
    · exact absurd hhead h
    · exact absurd h hnew

theorem SameReconstruction.reports (h : SameReconstruction R s s') : reports R s' = reports R s := by
  obtain ⟨r, r', t, t', hr, hr', hstatus, -⟩ := h
  rw [VeraMono.reports, VeraMono.reports, hr, hr']
  exact congrArg some hstatus

end Rejections

/-! ## A stale head and a stale generation -/

/-- A second checkpoint, of a caller that expects another memory head. -/
def movedMemory : CheckpointArgs Nat :=
  sampleCheckpoint "c2" 0 (VeraPool.run sample 0 acceptedRun).store.checkpoints.head (some 0)

/-- A second checkpoint, of a caller that has not seen the first. -/
def staleGeneration : CheckpointArgs Nat :=
  sampleCheckpoint "c2" (sampleSha256 .memoryGenesis)
    (VeraPool.run sample 0 acceptedRun).store.checkpoints.head none

/-- The two calls after the sample run. -/
theorem secondCheckpoint_facts :
    reports sample (VeraPool.run sample 0 acceptedRun).store = some .acceptedCurrent ∧
    (movedMemory.expectedMemoryHead ≠ .lower (VeraPool.run sample 0 acceptedRun).store.memory.head ∧
      rejection ((checkpoint sample movedMemory).run (VeraPool.run sample 0 acceptedRun).store) =
        some ⟨.valueError, "memory head changed before lifecycle checkpoint"⟩) ∧
    (storedGeneration sample (VeraPool.run sample 0 acceptedRun).store ≠ staleGeneration.expectedCurrentnessGeneration ∧
      rejection ((checkpoint sample staleGeneration).run (VeraPool.run sample 0 acceptedRun).store) =
        some (fenceError "stale currentness generation")) ∧
    reports sample ((checkpoint sample staleGeneration).run (VeraPool.run sample 0 acceptedRun).store).2 ≠
      reports sample (VeraPool.run sample 0 acceptedRun).store := by
  decide +kernel

/-- A call that is rejected for the memory head leaves no trace. -/
theorem moved_memory_rejected : SameReconstruction sample (VeraPool.run sample 0 acceptedRun).store
    ((checkpoint sample movedMemory).run (VeraPool.run sample 0 acceptedRun).store).2 := by
  obtain ⟨hcurrent, ⟨hmoved, hrejected⟩, -, -⟩ := secondCheckpoint_facts
  exact (rejected_checkpoint_iff sample 0 acceptedRun movedMemory
    ⟨.valueError, "memory head changed before lifecycle checkpoint"⟩ hcurrent (.memoryHead hmoved)
    hrejected).2 (.inl hmoved)

/-- A call that is rejected for the generation leaves its candidate behind. -/
theorem stale_generation_traced :
    reports sample (VeraPool.run sample 0 acceptedRun).store = some .acceptedCurrent ∧
      ¬ ∀ args e, Mismatched sample args (VeraPool.run sample 0 acceptedRun).store e →
        rejection ((checkpoint sample args).run (VeraPool.run sample 0 acceptedRun).store) = some e →
        SameReconstruction sample (VeraPool.run sample 0 acceptedRun).store
          ((checkpoint sample args).run (VeraPool.run sample 0 acceptedRun).store).2 := by
  obtain ⟨hcurrent, -, ⟨hstale, hrejected⟩, hreports⟩ := secondCheckpoint_facts
  refine ⟨hcurrent, fun h => ?_⟩
  have hsame := h staleGeneration (fenceError "stale currentness generation") (.generation hstale) hrejected
  exact hreports hsame.reports

end VeraMono
