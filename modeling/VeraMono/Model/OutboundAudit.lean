import VeraMono.Model.State

/-!
# The outbound execution audit

The routines of `outbound_audit.py` that work on more than one query: the chain
verifier, the comparison of the audit with the effect fence, and the repair of
the audit from the fence that a restart runs.
-/

namespace VeraMono

open Framework

variable {D : Type} [DecidableEq D] (H : Hashing D)

/-- `_target_event_type`: the stage that a fence state is the outcome of. -/
def EffectState.eventType : EffectState → AuditEventType
  | .reserved => .reserved
  | .executing => .executing
  | .committed => .committed
  | .attemptedUnknown => .attemptedUnknown
  | .reconciledCommitted => .reconciledCommitted
  | .reconciledNoEffect => .reconciledNoEffect
  | .cancelledPreDispatch => .cancelledPreDispatch

namespace AuditEventType

/-- `terminal_types`. -/
def terminal : AuditEventType → Bool
  | .committed | .cancelledPreDispatch | .reconciledCommitted | .reconciledNoEffect => true
  | _ => false

/-- `allowed_next`. -/
def follows : Option AuditEventType → AuditEventType → Bool
  | none, .authorityVerified => true
  | some .authorityVerified, .reserved => true
  | some .reserved, .executing => true
  | some .reserved, .cancelledPreDispatch => true
  | some .executing, .committed => true
  | some .executing, .attemptedUnknown => true
  | some .executing, .reconciledCommitted => true
  | some .executing, .reconciledNoEffect => true
  | some .attemptedUnknown, .reconciledCommitted => true
  | some .attemptedUnknown, .reconciledNoEffect => true
  | _, _ => false

end AuditEventType

namespace OutboundExecutionAudit

/-- The last event before `b` of the same effect; `seen` has the newest first. -/
def prior (seen : List (AuditBody D)) (b : AuditBody D) : Option (AuditBody D) :=
  seen.find? fun a => a.effectId = b.effectId

/-- The stage checks that `verify_chain` makes of one event. -/
def checkStage (seen : List (AuditBody D)) (b : AuditBody D) :
    Except Failure (List (AuditBody D)) :=
  if (prior seen b).any fun a => a.effectKind ≠ b.effectKind then
    .error (auditError "outbound audit effect kind changed within one effect identity")
  else if (prior seen b).any fun a => a.eventType.terminal then
    .error (auditError "outbound audit terminal effect has later events")
  else if ¬ AuditEventType.follows ((prior seen b).map AuditBody.eventType) b.eventType then
    .error (auditError "outbound audit effect stage ordering is invalid")
  else .ok (b :: seen)

/-- The message of each fault `verify_chain` finds. -/
def verifyFailure : VerifyFault Failure → Failure
  | .gap => auditError "outbound audit sequence gap"
  | .predecessor => auditError "outbound audit predecessor digest mismatch"
  | .extra e => e
  | .digest => auditError "outbound audit event digest mismatch"
  | .metaSequence => auditError "outbound audit meta sequence mismatch"
  | .metaHead => auditError "outbound audit meta head mismatch"

/-- What `verify_chain` finds in the rows and counters it read. -/
def verifyRows (entries : List (OutboundAuditEvent D)) (sequence : Nat) (head : D) :
    Except Failure D :=
  match (auditChain H).verify checkStage [] entries sequence head with
  | .ok head => .ok head
  | .error f => .error (verifyFailure f)

def verifyChain : Op D D := do
  let entries ← .read fun s => s.audit.entries
  let sequence ← .read fun s => s.audit.sequence
  let head ← .read fun s => s.audit.head
  Op.lift (verifyRows H entries sequence head)

def receiptPayload (receipt : EffectReceipt D) (eventType : AuditEventType)
    (restartReconstructed : Bool) : AuditPayload D where
  requestDigest := receipt.requestDigest
  authorityEvidenceDigest := receipt.authorityEvidenceDigest
  mechanicalPermitDigest := some receipt.mechanicalPermitDigest
  currentnessEvidenceDigest := some receipt.currentnessEvidenceDigest
  lifecyclePermit := none
  authorityDetails := none
  resultDigest :=
    match eventType with
    | .committed | .reconciledCommitted | .reconciledNoEffect => some receipt.resultDigest
    | _ => none
  reconciliationEvidenceDigest :=
    match eventType with
    | .reconciledCommitted | .reconciledNoEffect => some receipt.reconciliationEvidenceDigest
    | _ => none
  reconciliationAuthorityCurrentness := none
  restartReconstructedFromEffectFence := restartReconstructed

/-- The stage `_append_missing_mechanical_stages` appends after `current`, when the
fence is at `target`. -/
def nextStage (current target : AuditEventType) : Except Failure AuditEventType :=
  match current with
  | .authorityVerified => .ok .reserved
  | .reserved =>
    if target = .cancelledPreDispatch then .ok .cancelledPreDispatch else .ok .executing
  | .executing =>
    if target = .committed ∨ target = .attemptedUnknown ∨ target = .reconciledCommitted ∨
        target = .reconciledNoEffect then .ok target
    else .error (auditError "outbound audit is ahead of or incompatible with effect fence")
  | .attemptedUnknown =>
    if target = .reconciledCommitted ∨ target = .reconciledNoEffect then .ok target
    else .error (auditError "outbound audit ambiguity state conflicts with effect fence")
  | _ => .error (auditError "terminal outbound audit state conflicts with effect fence")

/-- The loop of `_append_missing_mechanical_stages`; `repaired` says whether it has
appended. A pass appends one of the eight stages, so `passes` bounds the loop. -/
def appendMissing (receipt : EffectReceipt D) :
    Nat → OutboundAuditEvent D → Bool → Op D Bool
  | 0, _, _ => throw (auditError "outbound audit repair did not reach the effect fence state")
  | passes + 1, current, repaired =>
    if current.body.eventType = receipt.state.eventType then pure repaired
    else do
      let nextType ← Op.lift (nextStage current.body.eventType receipt.state.eventType)
      let _ ← Op.onAudit (append H
        { effectId := receipt.effectId, effectKind := current.body.effectKind,
          eventType := nextType, payload := receiptPayload receipt nextType true })
      let current ← .read fun s => latest receipt.effectId s.audit
      match current with
      | some current => appendMissing receipt passes current true
      | none => throw ⟨.assertionError, "current is not None"⟩

/-- The number of stages an effect may pass through. -/
def stageCount : Nat := 8

def appendMissingMechanicalStages (receipt : EffectReceipt D) : Op D Bool := do
  let current ← .read fun s => latest receipt.effectId s.audit
  match current with
  | none =>
    throw (auditError "effect fence contains effect with no qualified outbound audit evidence")
  | some current => appendMissing H receipt (stageCount + 1) current false

structure Consistency (D : Type) where
  auditHeadDigest : D
  fenceEffectCount : Nat
  auditedEffectCount : Nat
  authorityOnlyEffectIds : List String
  repairedEffectIds : List String

/-- The comparison of one effect's events with its receipt, if it has one; the
answer is whether the effect is known to the audit only. -/
def checkEffect (receipt : Option (EffectReceipt D)) (events : List (OutboundAuditEvent D)) :
    Except Failure Bool :=
  match events.head?, events.getLast? with
  | some first, some latest =>
    if first.body.eventType ≠ .authorityVerified then
      .error (auditError "qualified outbound audit does not begin with authority verification")
    else match receipt with
    | none =>
      if events.length = 1 then .ok true
      else .error (auditError
        "outbound audit records mechanical progress absent from effect fence")
    | some receipt =>
      let authority := first.body.payload
      let final := latest.body.payload
      if latest.body.eventType ≠ receipt.state.eventType then
        .error (auditError "outbound audit latest state does not match effect fence state")
      else if authority.requestDigest ≠ receipt.requestDigest then
        .error (auditError "outbound audit request_digest does not match effect fence")
      else if authority.mechanicalPermitDigest ≠ some receipt.mechanicalPermitDigest then
        .error (auditError "outbound audit mechanical_permit_digest does not match effect fence")
      else if authority.authorityEvidenceDigest ≠ receipt.authorityEvidenceDigest then
        .error (auditError "outbound audit authority_evidence_digest does not match effect fence")
      else if authority.lifecyclePermit.map AcceptedLifecyclePermit.permitDigest ≠
          some receipt.currentnessEvidenceDigest then
        .error (auditError "outbound audit lifecycle permit does not match effect fence")
      else if final.requestDigest ≠ receipt.requestDigest then
        .error (auditError "outbound audit final request_digest does not match effect fence")
      else if final.authorityEvidenceDigest ≠ receipt.authorityEvidenceDigest then
        .error (auditError
          "outbound audit final authority_evidence_digest does not match effect fence")
      else if final.currentnessEvidenceDigest ≠ some receipt.currentnessEvidenceDigest then
        .error (auditError
          "outbound audit final currentness_evidence_digest does not match effect fence")
      else if final.mechanicalPermitDigest.isSome ∧
          final.mechanicalPermitDigest ≠ some receipt.mechanicalPermitDigest then
        .error (auditError
          "outbound audit final mechanical_permit_digest does not match effect fence")
      else if (receipt.state = .committed ∨ receipt.state = .reconciledCommitted ∨
          receipt.state = .reconciledNoEffect) ∧ final.resultDigest.join ≠ receipt.resultDigest then
        .error (auditError "outbound audit result digest does not match effect fence")
      else if (receipt.state = .reconciledCommitted ∨ receipt.state = .reconciledNoEffect) ∧
          final.reconciliationEvidenceDigest.join ≠ receipt.reconciliationEvidenceDigest then
        .error (auditError "outbound audit reconciliation evidence does not match effect fence")
      else .ok false
  | _, _ => .error ⟨.valueError, "tuple index out of range"⟩

/-- The loop of `verify_fence_consistency` over the audited effects. -/
def checkEffects (receipts : List (EffectReceipt D)) : List String → Op D (List String)
  | [] => pure []
  | effectId :: rest => do
    let events ← .read fun s => events effectId s.audit
    let receipt := receipts.find? fun r => r.effectId = effectId
    let authorityOnly ← Op.lift (checkEffect receipt events)
    let others ← checkEffects receipts rest
    return if authorityOnly then effectId :: others else others

def auditedEffectIds (entries : List (OutboundAuditEvent D)) : List String :=
  (entries.map fun e => e.body.effectId).dedup.insertionSort (· ≤ ·)

def verifyFenceConsistency (repairedEffectIds : List String) : Op D (Consistency D) := do
  let auditHead ← verifyChain H
  let receipts ← .read fun s => s.fence.all
  let auditEffectIds ← .read fun s => auditedEffectIds s.audit.entries
  let authorityOnly ← checkEffects receipts auditEffectIds
  match (receipts.map EffectReceipt.effectId).filter fun id => id ∉ auditEffectIds with
  | [] => pure ()
  | missing =>
    throw (auditError ("effect fence contains unaudited effects: " ++ ", ".intercalate missing))
  return ⟨auditHead, receipts.length, auditEffectIds.length, authorityOnly, repairedEffectIds⟩

/-- The loop of `repair_from_fence`. -/
def repairEffects : List (EffectReceipt D) → Op D (List String)
  | [] => pure []
  | receipt :: rest => do
    let repaired ← appendMissingMechanicalStages H receipt
    let others ← repairEffects rest
    return if repaired then receipt.effectId :: others else others

def repairFromFence : Op D (Consistency D) := do
  let _ ← verifyChain H
  let receipts ← .read fun s => s.fence.all
  let repaired ← repairEffects H receipts
  verifyFenceConsistency H repaired

end OutboundExecutionAudit

end VeraMono
