import VeraMono.Model.Checkpoint

/-!
# Outbound effects

The effect gateway of `action_gate.py`, the pre-dispatch cancellation of
`qualified_runtime.py` and the ambiguity recovery of `effect_recovery.py`. What a
caller injects (the authority verifier, the effect itself, the reconciliation
verifier, the trust registry's answer) is an argument: its outcome when it is
called.
-/

namespace VeraMono

open Framework

variable {D : Type} [DecidableEq D] (R : Runtime D)

def actionError (message : String) : Failure := ⟨.outboundActionError, message⟩

structure VerifiedAuthorityEvidence (D : Type) where
  evidenceDigest : DigestText D
  details : PyValue

structure OutboundEffectResult (D : Type) where
  effectId : String
  effectKind : String
  requestDigest : D
  lifecyclePermitDigest : D
  resultDigest : D
  fenceReceipt : EffectReceipt D
  value : PyValue

/-- The arguments of `_dispatch_verified`, with the outcomes of its callbacks. -/
structure DispatchArgs (D : Type) where
  permit : AcceptedLifecyclePermit D
  effectId : String
  effectKind : String
  requestPayload : PyValue
  verifyAuthority : Except Failure (VerifiedAuthorityEvidence D)
  execute : Except Failure PyValue

def effectRequestDigest (args : DispatchArgs D) : Except Failure D := do
  let payload ← actionValue R.py args.requestPayload
  return R.hash.sha256 (.effectRequest args.effectId args.effectKind payload args.permit.permitDigest)

def mechanicalPermitDigest (args : DispatchArgs D) (requestDigest : D) : D :=
  R.hash.sha256 (.mechanicalPermit args.effectId requestDigest args.permit.permitDigest)

def resultDigest (args : DispatchArgs D) (value : PyValue) : Except Failure D := do
  let json ← actionValue R.py value
  return R.hash.sha256 (.effectResult args.effectId args.effectKind json)

/-- Calls the effect: it may be cut off before it is known to have finished. -/
def execute (args : DispatchArgs D) : Op D PyValue := do
  Op.emit (.executeStarted args.effectId)
  match args.execute with
  | .ok value =>
    Op.emit (.executeReturned args.effectId)
    return value
  | .error e =>
    Op.emit (.executeRaised args.effectId)
    throw e

/-- The payload that most stages record of a receipt. -/
def stagePayload (receipt : EffectReceipt D) (mechanicalPermit : Bool)
    (resultDigest : Option (Option D)) : AuditPayload D where
  requestDigest := receipt.requestDigest
  authorityEvidenceDigest := receipt.authorityEvidenceDigest
  mechanicalPermitDigest := if mechanicalPermit then some receipt.mechanicalPermitDigest else none
  currentnessEvidenceDigest := some receipt.currentnessEvidenceDigest
  lifecyclePermit := none
  authorityDetails := none
  resultDigest := resultDigest
  reconciliationEvidenceDigest := none
  reconciliationAuthorityCurrentness := none
  restartReconstructedFromEffectFence := false

/-- `audit.append`. -/
def auditAppend (effectId effectKind : String) (eventType : AuditEventType)
    (payload : AuditPayload D) : Op D (OutboundAuditEvent D) :=
  Op.onAudit (OutboundExecutionAudit.append R.hash ⟨effectId, effectKind, eventType, payload⟩)

/-- The payload of `AUTHORITY_VERIFIED`. -/
def authorityPayload (args : DispatchArgs D) (requestDigest authorityEvidenceDigest : D)
    (details : Json) : AuditPayload D where
  requestDigest := requestDigest
  authorityEvidenceDigest := authorityEvidenceDigest
  mechanicalPermitDigest := some (mechanicalPermitDigest R args requestDigest)
  currentnessEvidenceDigest := none
  lifecyclePermit := some args.permit
  authorityDetails := some details
  resultDigest := none
  reconciliationEvidenceDigest := none
  reconciliationAuthorityCurrentness := none
  restartReconstructedFromEffectFence := false

/-- The evidence an effect is reserved under. -/
def evidenceCut (args : DispatchArgs D) (requestDigest authorityEvidenceDigest : D) :
    EffectFence.EvidenceCut D where
  requestDigest := .lower requestDigest
  mechanicalPermitDigest := .lower (mechanicalPermitDigest R args requestDigest)
  authorityEvidenceDigest := .lower authorityEvidenceDigest
  currentnessEvidenceDigest := .lower args.permit.permitDigest

/-- The authority check and the reservation, with their audit events. -/
def reserveEffect (args : DispatchArgs D) (requestDigest : D) :
    Op D (EffectFence.EvidenceCut D) := do
  .readM fun s => s.fence.assertClear
  let _ ← validateActionPermit R args.permit
  let evidence ← Op.lift args.verifyAuthority
  let authorityEvidenceDigest ← Op.lift
    (requireDigest .outboundActionError "authority_evidence_digest" evidence.evidenceDigest)
  let details ← Op.lift (actionValue R.py evidence.details)
  let _ ← auditAppend R args.effectId args.effectKind .authorityVerified
    (authorityPayload R args requestDigest authorityEvidenceDigest details)
  let cut := evidenceCut R args requestDigest authorityEvidenceDigest
  let reserved ← Op.onFence (EffectFence.reserve args.effectId cut)
  let _ ← auditAppend R args.effectId args.effectKind .reserved (stagePayload reserved true none)
  return cut

/-- `claim_dispatch`: the reservation again, and the claim. -/
def claimDispatch (effectId : String) (cut : EffectFence.EvidenceCut D) :
    Op D (EffectReceipt D) := do
  let requested ← Op.onFence (EffectFence.reserve effectId cut)
  Op.onFence (EffectFence.claim requested)

/-- The effect and the digest of its result; whatever goes wrong in either leaves
the outcome unknown. -/
def runEffect (args : DispatchArgs D) : Op D (PyValue × D) :=
  tryCatch
    (do
      let value ← execute args
      let digest ← Op.lift (resultDigest R args value)
      return (value, digest))
    (fun e => do
      let unknown ← Op.onFence (EffectFence.settle args.effectId none false)
      let _ ← auditAppend R args.effectId args.effectKind .attemptedUnknown
        (stagePayload unknown false none)
      throw e)

/-- The claim of a reserved effect, the effect and its settlement, with their audit
events. -/
def dispatchReserved (args : DispatchArgs D) (requestDigest : D) (cut : EffectFence.EvidenceCut D) :
    Op D (OutboundEffectResult D) := do
  let _ ← validateActionPermit R args.permit
  let executing ← claimDispatch args.effectId cut
  let _ ← auditAppend R args.effectId args.effectKind .executing (stagePayload executing true none)
  let (value, digest) ← runEffect R args
  let committed ← Op.onFence (EffectFence.settle args.effectId (some (.lower digest)) true)
  let _ ← auditAppend R args.effectId args.effectKind .committed
    (stagePayload committed false (some committed.resultDigest))
  return ⟨args.effectId, args.effectKind, requestDigest, args.permit.permitDigest, digest,
    committed, value⟩

/-- The body of `_dispatch_verified`, under its locks. -/
def dispatchLocked (args : DispatchArgs D) (requestDigest : D) :
    Op D (OutboundEffectResult D) := do
  let cut ← reserveEffect R args requestDigest
  dispatchReserved R args requestDigest cut

/-- `_dispatch_verified`; `trust` says whether the gateway was built with the
outbound trust registry. -/
def dispatchVerified (trust : Bool) (args : DispatchArgs D) : Op D (OutboundEffectResult D) := do
  if args.effectId = "" then throw (actionError "effect_id must be a non-empty exact string")
  if args.effectKind = "" then throw (actionError "effect_kind must be a non-empty exact string")
  let requestDigest ← Op.lift (effectRequestDigest R args)
  Op.withLock .lifecycle
    (if trust then Op.withLock .trust (dispatchLocked R args requestDigest)
      else dispatchLocked R args requestDigest)

/-! ## Cancellation -/

/-- The cancellation of a reservation and its audit event; `missing` is raised when
the effect has no audit evidence. -/
def cancelReservation (missing : Failure) (effectId : String) : Op D (EffectReceipt D) := do
  let cancelled ← Op.onFence (EffectFence.cancelBeforeDispatch effectId)
  let previous ← .read fun s => OutboundExecutionAudit.latest effectId s.audit
  match previous with
  | none => throw missing
  | some previous =>
    let _ ← auditAppend R effectId previous.body.effectKind .cancelledPreDispatch
      (stagePayload cancelled true none)
    return cancelled

def cancelReservedEffect (effectId : String) : Op D (EffectReceipt D) :=
  Op.withLock .lifecycle do
    let receipt ← .readM fun s => EffectFence.read effectId s.fence
    if receipt.state ≠ .reserved then
      throw ⟨.valueError,
        "only a mechanically RESERVED pre-dispatch effect may be cancelled"⟩
    cancelReservation R
      ⟨.valueError, "qualified reserved effect is missing outbound audit evidence"⟩ effectId

/-! ## Reconciliation -/

def recoveryError (message : String) : Failure := ⟨.effectRecoveryAuthorityError, message⟩

structure EffectReconciliationProof where
  schema : String
  issuerId : String
  subject : String
  verificationToken : String

/-- The arguments of `reconcile`, with the outcomes of the injected verifier and of
the trust registry's `assert_current`. -/
structure ReconcileArgs (D : Type) where
  effectId : String
  proof : EffectReconciliationProof
  effectOccurred : Bool
  resultDigest : Option (DigestText D)
  authorityId : String
  trustReceipt : Except Failure (AuthorityCurrentnessReceipt D)
  verify : D → Bool

def reconciliationSubject (receipt : EffectReceipt D) (effectOccurred : Bool)
    (resultDigest : Option (DigestText D)) : Except Failure D :=
  if ¬ receipt.state.ambiguous then
    .error (recoveryError "reconciliation subject requires ambiguous dispatched effect")
  else
    let subject := R.hash.sha256 (.reconciliationSubject receipt.effectId receipt.requestDigest
      receipt.state receipt.mechanicalPermitDigest receipt.authorityEvidenceDigest
      receipt.currentnessEvidenceDigest effectOccurred resultDigest)
    match effectOccurred, resultDigest with
    | true, some (.lower _) | true, some (.upper _) | false, none => .ok subject
    | true, _ =>
      .error (recoveryError "occurred effect reconciliation requires SHA-256 result digest")
    | false, some _ =>
      .error (recoveryError "no-effect reconciliation must not carry result_digest")

def reconciliationEvidence (args : ReconcileArgs D) (trust : AuthorityCurrentnessReceipt D) : D :=
  R.hash.sha256 (.reconciliationEvidence args.proof.schema args.proof.issuerId args.proof.subject
    args.proof.verificationToken trust)

def reconciledStage (effectOccurred : Bool) : AuditEventType :=
  if effectOccurred then .reconciledCommitted else .reconciledNoEffect

def reconciledPayload (reconciled : EffectReceipt D) (trust : AuthorityCurrentnessReceipt D) :
    AuditPayload D where
  requestDigest := reconciled.requestDigest
  authorityEvidenceDigest := reconciled.authorityEvidenceDigest
  mechanicalPermitDigest := none
  currentnessEvidenceDigest := some reconciled.currentnessEvidenceDigest
  lifecyclePermit := none
  authorityDetails := none
  resultDigest := some reconciled.resultDigest
  reconciliationEvidenceDigest := some reconciled.reconciliationEvidenceDigest
  reconciliationAuthorityCurrentness := some
    { authorityId := trust.authorityId
      authorityGeneration := trust.authorityGeneration
      revocationEpoch := trust.revocationEpoch
      keyId := trust.keyId
      keyDigest := trust.keyDigest
      registryGeneration := trust.registryGeneration
      registryHeadDigest := trust.registryHeadDigest
      receiptDigest := trust.receiptDigest }
  restartReconstructedFromEffectFence := false

/-- The checks of `reconcile` before it touches the fence. -/
def reconcileEvidence (args : ReconcileArgs D) : Op D (AuthorityCurrentnessReceipt D) := do
  let receipt ← .readM fun s => EffectFence.read args.effectId s.fence
  let subject ← Op.lift (reconciliationSubject R receipt args.effectOccurred args.resultDigest)
  if args.proof.issuerId ≠ args.authorityId then
    throw (recoveryError "reconciliation proof issuer does not match trusted verifier")
  let trust ← Op.lift args.trustReceipt
  if ¬ args.verify subject then
    throw (recoveryError "effect reconciliation proof verification failed")
  return trust

def reconcileLocked (args : ReconcileArgs D) : Op D (EffectReceipt D) := do
  let trust ← reconcileEvidence R args
  let reconciled ← Op.onFence (EffectFence.reconcileUnknown args.effectId args.effectOccurred
    args.resultDigest (.lower (reconciliationEvidence R args trust)))
  let previous ← .read fun s => OutboundExecutionAudit.latest args.effectId s.audit
  match previous with
  | none => throw (recoveryError "qualified effect recovery is missing outbound audit evidence")
  | some previous =>
    let _ ← auditAppend R args.effectId previous.body.effectKind
      (reconciledStage args.effectOccurred) (reconciledPayload reconciled trust)
    return reconciled

def reconcile (args : ReconcileArgs D) : Op D (EffectReceipt D) :=
  Op.withLock .trust (reconcileLocked R args)

end VeraMono
