import VeraMono.Model.PcExecutionBinding

/-!
# Qualified PC execution

`qualified_pc.py` joins the journal of local attempts to the outbound gateway: `execute` records
an attempt, dispatches its job as a fenced effect and records the result, `assess` says what may
be done with an attempt that was interrupted, and `cancel_reserved_attempt` abandons one whose
effect was only reserved. The three stores are written one after the other.
-/

namespace VeraMono

open Framework

/-- The state directory, the journal of the host and the bindings. -/
structure PCState (D : Type) where
  vera : VeraState D
  journal : JournalStore
  bindings : PCExecutionBindingStore D

abbrev PCProg (D α : Type) := Prog Lock (PCState D) Failure α

variable {D : Type} [DecidableEq D] (R : PcRuntime D)

/-- New stores. -/
def PCState.initial (controlSourceDigest : D) : PCState D :=
  ⟨VeraState.initial R.vera.hash controlSourceDigest, .empty, .empty⟩

omit [DecidableEq D] in
/-- The state directory among the stores. -/
def veraComponent : Component (PCState D) (VeraState D) :=
  ⟨PCState.vera, fun s vera => { s with vera }, fun _ _ => rfl⟩

namespace PCProg

variable {α : Type}

/-- A routine of the state directory. -/
def onVera (p : Op D α) : PCProg D α := p.on veraComponent

def onJournal (t : JobJournal.Txn) : PCProg D AttemptProjection :=
  .txn fun s => (t s.journal).map fun r => (r.1, { s with journal := r.2 })

def onBindings (t : PCExecutionBindingStore D → Except Failure (α × PCExecutionBindingStore D)) :
    PCProg D α := .txn fun s => (t s.bindings).map fun r => (r.1, { s with bindings := r.2 })

/-- An error of pure code. -/
def lift (r : Except Failure α) : PCProg D α := .ofExcept r

end PCProg

/-! ## Attempts -/

structure PCJournalEventEvidence where
  localEventId : String
  serverTimeAnchor : String
  localMonotonicNs : Int
  recordTime : String

/-- What the host says of the event of a stage. -/
abbrev EventSource := String → Except Failure PCJournalEventEvidence

structure PCExecutionRecoveryAssessment where
  projection : AttemptProjection
  effectId : String
  effectState : Option EffectState
  replayAllowed : Bool
  recoveryRequired : Bool
  preDispatchCancelAllowed : Bool
  reason : String

namespace QualifiedPCExecutionAdapter

/-- `_event`: the payload is a dictionary with the schema, the stage and the rest. -/
def event (source : EventSource) (stage : String) (payload : List (String × PyValue)) :
    Except Failure EventArgs := do
  let evidence ← source stage
  let payloadDigest ← R.digestOf
    (("schema", textValue "VERA_MONO_PC_EXECUTION_EVENT_V1") :: ("stage", textValue stage) :: payload)
  return ⟨evidence.localEventId, payloadDigest, evidence.serverTimeAnchor, evidence.localMonotonicNs,
    evidence.recordTime, {}⟩

def attemptIdentity (prepared : PreparedPCDispatch D) (lease : PCExecutionLease) : AttemptIdentity where
  jobId := lease.jobId
  attemptId := lease.attemptId
  hostId := prepared.job.hostId
  claimGeneration := lease.claimGeneration
  leaseId := lease.leaseId
  leaseFence := lease.leaseFence
  jobDigest := prepared.jobDigest
  authorizationId := prepared.job.authorizationId
  authorizationRevision := prepared.job.authorizationRevision
  issuerRevocationEpoch := prepared.authorization.issuerRevocationEpoch
  hostRevocationEpoch := prepared.authorization.hostRevocationEpoch
  operationId := prepared.job.operationId
  operationVersion := prepared.job.operationVersion
  retryClass := prepared.job.retryClass
  sideEffectClass := "NONE"

def identity (prepared : PreparedPCDispatch D) (lease : PCExecutionLease) :
    Except Failure AttemptIdentity := do
  let identity := attemptIdentity prepared lease
  identity.validate R.envelopes.pccc
  return identity

/-- `JobJournal.get`. -/
def journalGet (identity : AttemptIdentity) : PCProg D (Option AttemptProjection) := do
  PCProg.lift (uuidV7 R.envelopes.pccc identity.jobId "job_id")
  PCProg.lift (uuidV7 R.envelopes.pccc identity.attemptId "attempt_id")
  .read fun s => s.journal.attempts.get? identity.key

def readEffect (effectId : String) : PCProg D (Option (EffectReceipt D)) :=
  .read fun s => s.vera.fence.get? effectId

/-- What `assess` says of the row of an attempt and the receipt of its effect. -/
def assessment (projection : AttemptProjection) (effectId : String)
    (effect : Option (EffectReceipt D)) : PCExecutionRecoveryAssessment :=
  let effectState := effect.map EffectReceipt.state
  let found (replayAllowed recoveryRequired preDispatchCancelAllowed : Bool) (reason : String) :
      PCExecutionRecoveryAssessment :=
    ⟨projection, effectId, effectState, replayAllowed, recoveryRequired, preDispatchCancelAllowed,
      reason⟩
  let state := projection.localState
  if state ∈ terminalStates then
    found false false false "local journal attempt is terminal"
  else if state = .claimed ∧ effectState = none then
    found true false false "claim exists but preparation/external dispatch has not begun"
  else if state = .preparing ∧ effectState = none then
    found true false false "preparation is durable and no external effect record exists"
  else if state = .resultObserved ∧
      (effectState = some .committed ∨ effectState = some .reconciledCommitted) then
    found false false false "local result and committed external effect evidence agree"
  else if effectState = some .reserved then
    found false false true
      "effect is durably RESERVED and has not crossed the single-use dispatch claim"
  else
    found false true false ("journal/effect evidence indicates dispatch may have occurred; " ++
      "exact reconciliation is required before replay")

def assess (prepared : PreparedPCDispatch D) (lease : PCExecutionLease) :
    PCProg D (Option PCExecutionRecoveryAssessment) := do
  let identity ← PCProg.lift (identity R prepared lease)
  match ← journalGet R identity with
  | none => return none
  | some projection =>
    let effect ← readEffect prepared.effectId
    return some (assessment projection prepared.effectId effect)

/-! ## The dispatch -/

/-- The arguments of `execute`, with the outcomes of what it calls: `dependency` is the
answer of the task ledger, `verifier` says whether the gateway has a verifier for PC jobs,
and `proofSubject` is the subject of the authority proof. -/
structure ExecuteArgs (D : Type) where
  prepared : PreparedPCDispatch D
  lease : PCExecutionLease
  eventSource : EventSource
  dependency : Except Failure Unit
  verifier : Bool
  proofSubject : String
  verifyAuthority : Except Failure (VerifiedAuthorityEvidence D)
  execute : Except Failure PyValue

/-- What `dispatch_pc_job` of the runtime and of the gateway ask before they dispatch: the
digests of the job and of its authorization. -/
def checkPrepared (args : ExecuteArgs D) : Except Failure (String × String) := do
  let prepared := args.prepared
  let jobDigest ← prepared.job.digest R.envelopes
  if jobDigest ≠ prepared.jobDigest then
    throw ⟨.valueError, "prepared PC job changed after preparation"⟩
  let authorizationDigest ← prepared.authorization.digest R.envelopes
  if authorizationDigest ≠ prepared.authorizationDigest then
    throw ⟨.valueError, "prepared PC authorization changed after preparation"⟩
  if prepared.taskDependency.isSome then
    args.dependency
  if ¬ args.verifier then
    throw ⟨.outboundAuthorityError, "PC effect requires a trusted gateway-injected authority verifier"⟩
  if prepared.job.projectId ≠ R.vera.config.projectId then
    throw ⟨.lifecycleActionDenied, "PC job project does not match accepted lifecycle project"⟩
  if prepared.taskDependency.any fun ref => ref.kind ≠ "EFFECT" ∨ ref.targetId ≠ prepared.effectId then
    throw (actionError "PC task dependency does not bind this exact effect")
  return (jobDigest, authorizationDigest)

def envelopeValue (fields : List (String × Scalar)) : PyValue :=
  .dataclass true (fields.map fun f => (f.1, f.2.toPy))

def dispatchArgs (args : ExecuteArgs D) (jobDigest authorizationDigest : String) : DispatchArgs D where
  permit := args.prepared.permit
  effectId := args.prepared.effectId
  effectKind := "PC/" ++ args.prepared.job.operationId
  requestPayload := StoredLedger.dictOf
    [("job_digest", textValue jobDigest), ("authorization_digest", textValue authorizationDigest),
      ("job", envelopeValue args.prepared.job.fields),
      ("authorization", envelopeValue args.prepared.authorization.fields),
      ("authority_subject", textValue args.proofSubject)]
  verifyAuthority := args.verifyAuthority
  execute := args.execute

def dispatchPcJob (args : ExecuteArgs D) : PCProg D (OutboundEffectResult D) := do
  let digests ← PCProg.lift (checkPrepared R args)
  PCProg.onVera (dispatchVerified R.vera true (dispatchArgs args digests.1 digests.2))

/-! ## Execution -/

omit [DecidableEq D] in
def permitText (prepared : PreparedPCDispatch D) : PyValue :=
  textValue (R.vera.hash.hex prepared.permit.permitDigest)

/-- `record_claim`, with its event. -/
def recordClaim (args : ExecuteArgs D) (identity : AttemptIdentity) : PCProg D AttemptProjection := do
  let prepared := args.prepared
  let event ← PCProg.lift (event R args.eventSource "CLAIM_RECORDED"
    [("job_digest", textValue prepared.jobDigest),
      ("authorization_digest", textValue prepared.authorizationDigest),
      ("lifecycle_permit_digest", permitText R prepared),
      ("authority_subject", textValue prepared.authoritySubject),
      ("claim_generation", .int args.lease.claimGeneration),
      ("lease_fence", .int args.lease.leaseFence)])
  PCProg.onJournal (JobJournal.recordClaim R.envelopes.pccc identity event)

/-- `require_recovery`, with its event. -/
def requireRecovery (args : ExecuteArgs D) (identity : AttemptIdentity)
    (payload : List (String × PyValue)) : PCProg D AttemptProjection := do
  let event ← PCProg.lift (event R args.eventSource "RECOVERY_REQUIRED" (payload ++
    [("job_digest", textValue args.prepared.jobDigest),
      ("lifecycle_permit_digest", permitText R args.prepared)]))
  PCProg.onJournal (JobJournal.requireRecovery R.envelopes.pccc identity event)

/-- The row that an attempt goes on from: a new one, or that of an attempt which may be
replayed. -/
def claimed (args : ExecuteArgs D) (identity : AttemptIdentity) :
    Option PCExecutionRecoveryAssessment → PCProg D AttemptProjection
  | none => recordClaim R args identity
  | some found => do
    if found.preDispatchCancelAllowed then
      throw (fenceError ("PC attempt has a pre-dispatch reservation; cancel and abandon " ++
        "that attempt before creating a new effect identity"))
    if found.recoveryRequired then
      if found.projection.localState ≠ .recoveryRequired then
        let _ ← requireRecovery R args identity [("reason", textValue found.reason),
          ("effect_state", match found.effectState with
            | none => .none
            | some state => textValue state.value)]
      throw (fenceError "PC attempt requires reconciliation before external replay")
    if ¬ found.replayAllowed then
      throw (fenceError "PC attempt cannot be externally replayed from its current state")
    return found.projection

/-- `start_preparation`, unless the attempt is past it. -/
def startPreparation (args : ExecuteArgs D) (identity : AttemptIdentity)
    (projection : AttemptProjection) : PCProg D AttemptProjection := do
  if projection.localState ≠ .claimed then
    return projection
  let event ← PCProg.lift (event R args.eventSource "PREPARATION_STARTED"
    [("job_digest", textValue args.prepared.jobDigest),
      ("authorization_digest", textValue args.prepared.authorizationDigest),
      ("lifecycle_permit_digest", permitText R args.prepared)])
  PCProg.onJournal (JobJournal.startPreparation R.envelopes.pccc identity event)

def dispatchedStates : List EffectState :=
  [.executing, .attemptedUnknown, .committed, .reconciledCommitted]

/-- What is done of a dispatch that raised `e`: an effect that may have happened puts its
attempt up for recovery. -/
def afterFailure (args : ExecuteArgs D) (identity : AttemptIdentity) (e : Failure) :
    PCProg D (OutboundEffectResult D) := do
  match ← readEffect args.prepared.effectId with
  | none => throw e
  | some effect =>
    if effect.state ∈ dispatchedStates then
      let current ← journalGet R identity
      if current.any fun row => row.localState ≠ .recoveryRequired then
        let _ ← requireRecovery R args identity [("effect_state", textValue effect.state.value),
          ("effect_request_digest", textValue (R.vera.hash.hex effect.requestDigest))]
    throw e

/-- `record_result`, with its event. -/
def recordResult (args : ExecuteArgs D) (identity : AttemptIdentity)
    (outbound : OutboundEffectResult D) : PCProg D AttemptProjection := do
  let hex := R.vera.hash.hex
  let event ← PCProg.lift (event R args.eventSource "RESULT_RECORDED"
    [("effect_request_digest", textValue (hex outbound.requestDigest)),
      ("effect_result_digest", textValue (hex outbound.resultDigest)),
      ("lifecycle_permit_digest", textValue (hex outbound.lifecyclePermitDigest))])
  PCProg.onJournal (JobJournal.recordResult R.envelopes.pccc identity (hex outbound.resultDigest) event)

def execute (args : ExecuteArgs D) : PCProg D (AttemptProjection × OutboundEffectResult D) := do
  let identity ← PCProg.lift (identity R args.prepared args.lease)
  let _ ← PCProg.onBindings (PCExecutionBindingStore.bind R args.prepared args.lease)
  let found ← assess R args.prepared args.lease
  let projection ← claimed R args identity found
  let _ ← startPreparation R args identity projection
  let outbound ← tryCatch (dispatchPcJob R args) (afterFailure R args identity)
  let projection ← recordResult R args identity outbound
  return (projection, outbound)

/-! ## Cancellation -/

structure CancelArgs (D : Type) where
  prepared : PreparedPCDispatch D
  lease : PCExecutionLease
  eventSource : EventSource

def CancelArgs.attempt {D : Type} (args : CancelArgs D) : String × String :=
  (attemptIdentity args.prepared args.lease).key

def cancelReservedAttempt (args : CancelArgs D) : PCProg D AttemptProjection := do
  let identity ← PCProg.lift (identity R args.prepared args.lease)
  match ← assess R args.prepared args.lease with
  | none => throw (fenceError "PC attempt has no proven pre-dispatch reservation to cancel")
  | some found =>
    if ¬ found.preDispatchCancelAllowed ∨ found.effectState ≠ some .reserved then
      throw (fenceError "PC attempt has no proven pre-dispatch reservation to cancel")
    let cancelled ← PCProg.onVera (cancelReservedEffect R.vera found.effectId)
    if cancelled.state ≠ .cancelledPreDispatch then
      throw (fenceError "pre-dispatch effect cancellation did not reach terminal state")
    let current ← journalGet R identity
    if current.isNone then
      throw (fenceError "PC journal attempt disappeared during pre-dispatch cancellation")
    let event ← PCProg.lift (event R args.eventSource "ATTEMPT_ABANDONED"
      [("reason", textValue "CANCELLED_PRE_DISPATCH"), ("effect_id", textValue found.effectId),
        ("effect_request_digest", textValue (R.vera.hash.hex cancelled.requestDigest)),
        ("lifecycle_permit_digest", permitText R args.prepared)])
    PCProg.onJournal (JobJournal.abandon R.envelopes.pccc identity event)

end QualifiedPCExecutionAdapter

open QualifiedPCExecutionAdapter in
/-- A restart, which repairs the audit, and the call again. -/
def cancelAfterRestart (args : CancelArgs D) : PCProg D AttemptProjection := do
  let _ ← PCProg.onVera (openState R.vera)
  cancelReservedAttempt R args

/-! ## The system -/

open QualifiedPCExecutionAdapter in
/-- A call of the adapter, or one of the state directory. -/
inductive PCCall (D : Type)
  | execute (args : ExecuteArgs D)
  | cancelReservedAttempt (args : CancelArgs D)
  | vera (call : Call D)

/-- What a call returns. -/
inductive PCReply (D : Type)
  | result (projection : AttemptProjection) (outbound : OutboundEffectResult D)
  | projection (projection : AttemptProjection)
  | vera (reply : Reply D)

def pcProgram : PCCall D → PCProg D (PCReply D)
  | .execute args => (QualifiedPCExecutionAdapter.execute R args).map fun r => .result r.1 r.2
  | .cancelReservedAttempt args =>
    (QualifiedPCExecutionAdapter.cancelReservedAttempt R args).map .projection
  | .vera call => (PCProg.onVera (program R.vera call)).map .vera

/-- The pool of such calls after a list of events, from new stores. -/
def PCPool.run (controlSourceDigest : D) (es : List (Event (PCCall D))) :
    Pool Lock (PCState D) Failure (PCReply D) (PCCall D) :=
  Pool.run (pcProgram R) (Pool.init (PCState.initial R controlSourceDigest)) es

end VeraMono
