import VeraMono.Model.Drift
import VeraMono.Model.OutboundAudit

/-!
# The native lifecycle

`NativeVeraLifecycle`: checkpoints that are prepared, assured, published and
journalled in that order, the reconstruction of the accepted state at a restart,
and the permits that name an accepted state exactly.
-/

namespace VeraMono

open Framework

variable {D : Type} [DecidableEq D] (R : Runtime D)

def actionDenied (message : String) : Failure := ⟨.lifecycleActionDenied, message⟩

def reconstructionError (message : String) : Failure := ⟨.lifecycleReconstructionError, message⟩

def assertOutboundEffectIntegrity : Op D Unit := do
  let _ ← OutboundExecutionAudit.verifyFenceConsistency R.hash []

/-- `LifecycleJournal.verify_chain`. -/
def verifyJournalChain : Op D D := do
  let entries ← .read fun s => s.journal.entries
  let sequence ← .read fun s => s.journal.sequence
  let head ← .read fun s => s.journal.head
  Op.lift (LifecycleJournal.verifyChain R.hash entries sequence head)

def candidateValues (recovery : NativeRecoveryCheckpoint D) : CandidateValues D where
  projectId := R.config.projectId
  identityId := R.config.identityId
  runtimeId := recovery.body.runtimeId
  memoryHeadDigest := recovery.body.memoryHeadDigest
  recoveryCheckpointDigest := recovery.digest
  recoveryCheckpointGeneration := recovery.sequence
  controlSourceDigest := recovery.body.controlSourceDigest

/-! ## Reconstruction -/

inductive ReconstructionStatus
  | empty | blockedCandidate | interruptedCandidate | controlSourceDrift
  | memoryAheadOfCurrentness | acceptedReconciled | acceptedCurrent
  deriving DecidableEq, Repr

namespace ReconstructionStatus

def name : ReconstructionStatus → String
  | .empty => "EMPTY"
  | .blockedCandidate => "BLOCKED_CANDIDATE"
  | .interruptedCandidate => "INTERRUPTED_CANDIDATE"
  | .controlSourceDrift => "CONTROL_SOURCE_DRIFT"
  | .memoryAheadOfCurrentness => "MEMORY_AHEAD_OF_CURRENTNESS"
  | .acceptedReconciled => "ACCEPTED_RECONCILED"
  | .acceptedCurrent => "ACCEPTED_CURRENT"

end ReconstructionStatus

structure LifecycleReconstruction (D : Type) where
  status : ReconstructionStatus
  liveMemoryHead : D
  currentControlSourceDigest : D
  current : Option (CurrentnessSnapshot D)
  accepted : Option (NativeRecoveryCheckpoint D)
  latest : Option (NativeRecoveryCheckpoint D)
  pending : Option (NativeRecoveryCheckpoint D)
  resume : Option (NativeRecoveryCheckpoint D)
  unresolvedEffects : List (String × EffectState)
  lifecycleJournalHead : D

def reconstruction (status : ReconstructionStatus) (liveMemoryHead controlDigest : D)
    (current : Option (CurrentnessSnapshot D))
    (accepted latest pending resume : Option (NativeRecoveryCheckpoint D)) :
    Op D (LifecycleReconstruction D) := do
  let unresolvedEffects ← .read fun s => s.fence.unresolved.map fun r => (r.effectId, r.state)
  let lifecycleJournalHead ← .read fun s => s.journal.head
  return ⟨status, liveMemoryHead, controlDigest, current, accepted, latest, pending, resume,
    unresolvedEffects, lifecycleJournalHead⟩

/-- The status of a checkpoint that is durable but not accepted. -/
def candidateStatus (event : Option (LifecycleEvent D)) : ReconstructionStatus :=
  if event.any fun e => e.body.eventType = .assuranceBlocked then .blockedCandidate
  else .interruptedCandidate

def readCurrent : Op D (Option (CurrentnessSnapshot D)) :=
  .readM fun s =>
    match CurrentnessStore.read R.hash R.config.currentnessSubjectId s.currentness with
    | .ok c => .ok (some c)
    | .error e => if e.kind = .keyError then .ok none else .error e

/-- The checkpoint that a currentness payload names. -/
def readAccepted (payload : CandidateValues D) : Op D (NativeRecoveryCheckpoint D) :=
  .readM fun s =>
    match NativeRecoveryCheckpointStore.readDigest R.hash payload.recoveryCheckpointDigest
      s.checkpoints with
    | .ok e => .ok e
    | .error e =>
      if e.kind = .keyError then
        .error (reconstructionError "accepted currentness references a missing recovery checkpoint")
      else .error e

/-- The commit event that a restart writes for a published checkpoint. -/
def reconciledEvent (accepted : NativeRecoveryCheckpoint D) (current : CurrentnessSnapshot D) :
    JournalBody D where
  transitionId := accepted.body.checkpointId
  eventType := .restartReconciledCommitted
  payload := .committed (candidateDigest R (candidateValues R accepted)) current.generation
    current.snapshotDigest current.payloadDigest

/-- `has_event` of the journal. -/
def hasEvent (checkpointId : String) (eventType : JournalEventType) : Op D Bool :=
  .read fun s => LifecycleJournal.hasEvent R.hash checkpointId eventType s.journal

def committedInJournal (checkpointId : String) : Op D Bool := do
  let committed ← hasEvent R checkpointId .currentnessCommitted
  if committed then return true
  else hasEvent R checkpointId .restartReconciledCommitted

/-- The journal check of `reconstruct`: whether it had to write the commit event. -/
def reconcileJournal (reconcile : Bool) (accepted : NativeRecoveryCheckpoint D)
    (current : CurrentnessSnapshot D) : Op D Bool := do
  let committed ← committedInJournal R accepted.body.checkpointId
  if ¬ committed ∧ reconcile then
    let _ ← Op.onJournal (LifecycleJournal.append R.hash (reconciledEvent R accepted current))
    return true
  else return false

def acceptedStatus (accepted : NativeRecoveryCheckpoint D) (liveMemoryHead controlDigest : D)
    (reconciled : Bool) : ReconstructionStatus :=
  if accepted.body.controlSourceDigest ≠ controlDigest then .controlSourceDrift
  else if liveMemoryHead ≠ accepted.body.memoryHeadDigest then .memoryAheadOfCurrentness
  else if reconciled then .acceptedReconciled
  else .acceptedCurrent

/-- `reconstruct` from the point where it has read the current snapshot. -/
def reconstructAccepted (reconcile : Bool) (liveMemoryHead controlDigest : D)
    (latest : Option (NativeRecoveryCheckpoint D)) (current : CurrentnessSnapshot D) :
    Op D (LifecycleReconstruction D) := do
  let payload ← .readM fun s =>
    CurrentnessStore.readPayload R.hash R.config.currentnessSubjectId s.currentness
  if payload.projectId ≠ R.config.projectId ∨ payload.identityId ≠ R.config.identityId then
    throw (reconstructionError "accepted currentness project or identity mismatch")
  let accepted ← readAccepted R payload
  if payload ≠ candidateValues R accepted then
    throw (reconstructionError "accepted currentness does not match its recovery checkpoint")
  let reconciled ← reconcileJournal R reconcile accepted current
  match latest with
  | some newest =>
    if accepted.sequence < newest.sequence then
      let event ← .read fun s => LifecycleJournal.latest newest.body.checkpointId s.journal
      reconstruction (candidateStatus event) liveMemoryHead controlDigest current accepted latest
        latest latest
    else
      reconstruction (acceptedStatus accepted liveMemoryHead controlDigest reconciled)
        liveMemoryHead controlDigest current accepted latest none accepted
  | none =>
    reconstruction (acceptedStatus accepted liveMemoryHead controlDigest reconciled)
      liveMemoryHead controlDigest current accepted latest none accepted

def reconstruct (reconcile : Bool) : Op D (LifecycleReconstruction D) := do
  assertOutboundEffectIntegrity R
  let _ ← verifyJournalChain R
  let liveMemoryHead ← .read fun s => s.memory.head
  let controlDigest ← .read fun s => s.controlSourceDigest
  let latest ← .readM fun s => NativeRecoveryCheckpointStore.latest R.hash s.checkpoints
  let current ← readCurrent R
  match current with
  | some current => reconstructAccepted R reconcile liveMemoryHead controlDigest latest current
  | none =>
    match latest with
    | none => reconstruction .empty liveMemoryHead controlDigest none none none none none
    | some newest =>
      let event ← .read fun s => LifecycleJournal.latest newest.body.checkpointId s.journal
      reconstruction (candidateStatus event) liveMemoryHead controlDigest none none latest latest
        latest

/-! ## Permits -/

/-- The permit that `accepted_action_permit` mints from what it read. -/
def permitFor (accepted : NativeRecoveryCheckpoint D) (controlDigest : D)
    (current : CurrentnessSnapshot D) (journalHead : D) : AcceptedLifecyclePermit D :=
  let body : PermitBody D :=
    { schema := .acceptedLifecyclePermitV1
      projectId := R.config.projectId
      identityId := R.config.identityId
      runtimeId := accepted.body.runtimeId
      memoryHeadDigest := accepted.body.memoryHeadDigest
      recoveryCheckpointId := accepted.body.checkpointId
      recoveryCheckpointDigest := accepted.digest
      recoveryCheckpointGeneration := accepted.sequence
      controlSourceDigest := controlDigest
      currentnessSubjectId := R.config.currentnessSubjectId
      currentnessGeneration := current.generation
      currentnessSnapshotDigest := current.snapshotDigest
      currentnessPayloadDigest := current.payloadDigest
      lifecycleJournalHead := journalHead }
  ⟨body, R.hash.sha256 (.lifecyclePermit body)⟩

/-- `currentness.read`. -/
def readCurrentness : Op D (CurrentnessSnapshot D) :=
  .readM fun s => CurrentnessStore.read R.hash R.config.currentnessSubjectId s.currentness

/-- The generation a permit records: that of the latest checkpoint when it is the
accepted one, else as the store has it. -/
def acceptedGeneration (accepted : NativeRecoveryCheckpoint D)
    (latest : Option (NativeRecoveryCheckpoint D)) : Op D Nat :=
  match latest with
  | some newest =>
    if newest.body.checkpointId = accepted.body.checkpointId then pure newest.sequence
    else storedGeneration
  | none => storedGeneration
where
  storedGeneration : Op D Nat := do
    let e ← .readM fun s =>
      NativeRecoveryCheckpointStore.read R.hash accepted.body.checkpointId s.checkpoints
    return e.sequence

/-- The body of `accepted_action_permit`, under the lifecycle lock. -/
def mintPermit : Op D (AcceptedLifecyclePermit D) := do
  .readM fun s => s.fence.assertClear
  assertOutboundEffectIntegrity R
  let state ← reconstruct R true
  if state.status ≠ .acceptedCurrent ∧ state.status ≠ .acceptedReconciled then
    throw (actionDenied s!"outbound action denied from lifecycle state {state.status.name}")
  match state.accepted with
  | none => throw (actionDenied "accepted lifecycle state is incomplete")
  | some accepted =>
    let current ← readCurrentness R
    let generation ← acceptedGeneration R accepted state.latest
    let journalHead ← .read fun s => s.journal.head
    let permit := permitFor R { accepted with sequence := generation }
      state.currentControlSourceDigest current journalHead
    Op.emit (.permitMinted permit)
    return permit

def acceptedActionPermit : Op D (AcceptedLifecyclePermit D) := Op.withLock .lifecycle (mintPermit R)

/-- The name of the first field, in the order they are compared, in which a permit
is stale. -/
def staleField (permit expected : PermitBody D) : Option String :=
  if permit.projectId ≠ expected.projectId then some "project_id"
  else if permit.identityId ≠ expected.identityId then some "identity_id"
  else if permit.runtimeId ≠ expected.runtimeId then some "runtime_id"
  else if permit.memoryHeadDigest ≠ expected.memoryHeadDigest then some "memory_head_digest"
  else if permit.recoveryCheckpointId ≠ expected.recoveryCheckpointId then
    some "recovery_checkpoint_id"
  else if permit.recoveryCheckpointDigest ≠ expected.recoveryCheckpointDigest then
    some "recovery_checkpoint_digest"
  else if permit.recoveryCheckpointGeneration ≠ expected.recoveryCheckpointGeneration then
    some "recovery_checkpoint_generation"
  else if permit.controlSourceDigest ≠ expected.controlSourceDigest then
    some "control_source_digest"
  else if permit.currentnessSubjectId ≠ expected.currentnessSubjectId then
    some "currentness_subject_id"
  else if permit.currentnessGeneration ≠ expected.currentnessGeneration then
    some "currentness_generation"
  else if permit.currentnessSnapshotDigest ≠ expected.currentnessSnapshotDigest then
    some "currentness_snapshot_digest"
  else if permit.currentnessPayloadDigest ≠ expected.currentnessPayloadDigest then
    some "currentness_payload_digest"
  else if permit.lifecycleJournalHead ≠ expected.lifecycleJournalHead then
    some "lifecycle_journal_head"
  else none

def validateActionPermit (permit : AcceptedLifecyclePermit D) :
    Op D (AcceptedLifecyclePermit D) := do
  if permit.canonicalBody.schema ≠ .acceptedLifecyclePermitV1 then
    throw (actionDenied "unsupported lifecycle permit schema")
  if R.hash.sha256 (.lifecyclePermit permit.canonicalBody) ≠ permit.permitDigest then
    throw (actionDenied "lifecycle permit digest mismatch")
  assertOutboundEffectIntegrity R
  let state ← reconstruct R false
  if state.status ≠ .acceptedCurrent then
    throw (actionDenied s!"outbound action denied from lifecycle state {state.status.name}")
  let current ← readCurrentness R
  let acceptedId := (state.accepted.map fun e => e.body.checkpointId).getD ""
  let accepted ← .readM fun s => NativeRecoveryCheckpointStore.read R.hash acceptedId s.checkpoints
  let journalHead ← .read fun s => s.journal.head
  let expected := permitFor R accepted state.currentControlSourceDigest current journalHead
  match staleField permit.canonicalBody expected.canonicalBody with
  | some key => throw (actionDenied s!"stale lifecycle permit field: {key}")
  | none => return permit

end VeraMono
