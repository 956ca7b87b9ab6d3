import VeraMono.Model.Lifecycle

/-!
# Checkpoints

`NativeVeraLifecycle.checkpoint`: four stores written in sequence under the
lifecycle lock, with the journal recording how far the candidate came.
-/

namespace VeraMono

open Framework

variable {D : Type} [DecidableEq D] (R : Runtime D)

/-- The arguments of `checkpoint`; `now` is the clock that `created_at` defaults to. -/
structure CheckpointArgs (D : Type) where
  checkpointId : String
  runtimeId : String
  expectedMemoryHead : DigestText D
  expectedCheckpointHead : DigestText D
  expectedCurrentnessGeneration : Option Int
  commitments : List String
  unfinishedWork : List String
  assuranceBaseline : Option (List (String × PyValue))
  assurancePolicy : Option DriftPolicy
  createdAt : Option String
  now : String

structure NativeLifecycleReceipt (D : Type) where
  checkpoint : NativeRecoveryCheckpoint D
  current : CurrentnessSnapshot D
  assuranceStatus : DriftStatus
  assuranceBaselineDigest : D
  assuranceCandidateDigest : D
  lifecycleJournalHead : D
  receiptDigest : D

def canonicalInteger : Option Int → Except Failure (Option Int)
  | none => .ok none
  | some i =>
    if maxSafeInteger < i.natAbs then
      .error (canonicalizationError "Integers must fit the interoperable IEEE-754 safe range")
    else .ok (some i)

/-- The checkpoint that `_checkpoint_unlocked` asks the recovery store to append. -/
def checkpointBody (args : CheckpointArgs D) (memoryHead controlDigest : D) :
    CheckpointBody D where
  checkpointId := args.checkpointId
  projectId := R.config.projectId
  identityId := R.config.identityId
  runtimeId := args.runtimeId
  memoryHeadDigest := memoryHead
  controlSourceDigest := controlDigest
  createdAt := args.createdAt.getD args.now
  commitments := args.commitments
  unfinishedWork := args.unfinishedWork

/-- `CANDIDATE_PREPARED`. -/
def preparedEvent (recovery : NativeRecoveryCheckpoint D) (expectedGeneration : Option Int) :
    JournalBody D where
  transitionId := recovery.body.checkpointId
  eventType := .candidatePrepared
  payload := .prepared recovery.digest recovery.sequence
    (candidateDigest R (candidateValues R recovery)) expectedGeneration
    recovery.body.memoryHeadDigest recovery.body.controlSourceDigest

/-- `ASSURANCE_BLOCKED`. -/
def blockedEvent (recovery : NativeRecoveryCheckpoint D) (report : DriftReport D) :
    JournalBody D where
  transitionId := recovery.body.checkpointId
  eventType := .assuranceBlocked
  payload := .blocked (candidateDigest R (candidateValues R recovery)) report.baselineDigest
    report.candidateDigest report.findings

/-- `ASSURANCE_PASSED`. -/
def passedEvent (recovery : NativeRecoveryCheckpoint D) (report : DriftReport D) :
    JournalBody D where
  transitionId := recovery.body.checkpointId
  eventType := .assurancePassed
  payload := .passed (candidateDigest R (candidateValues R recovery)) report.baselineDigest
    report.candidateDigest report.status

/-- `CURRENTNESS_COMMITTED`. -/
def committedEvent (recovery : NativeRecoveryCheckpoint D) (current : CurrentnessSnapshot D) :
    JournalBody D where
  transitionId := recovery.body.checkpointId
  eventType := .currentnessCommitted
  payload := .committed (candidateDigest R (candidateValues R recovery)) current.generation
    current.snapshotDigest current.payloadDigest

def DriftStatus.name : DriftStatus → String
  | .pass => "PASS"
  | .warn => "WARN"
  | .block => "BLOCK"

/-- The checks `_checkpoint_unlocked` makes before it writes, and the memory head
and control digest it goes on with. -/
def checkpointGuards (args : CheckpointArgs D) : Op D (D × D) := do
  .readM fun s => s.fence.assertClear
  assertOutboundEffectIntegrity R
  let _ ← verifyJournalChain R
  let memoryHead ← .read fun s => s.memory.head
  if args.expectedMemoryHead ≠ .lower memoryHead then
    throw ⟨.valueError, "memory head changed before lifecycle checkpoint"⟩
  let controlDigest ← .read fun s => s.controlSourceDigest
  return (memoryHead, controlDigest)

def publishCandidate (args : CheckpointArgs D) (recovery : NativeRecoveryCheckpoint D)
    (report : DriftReport D) : Op D (NativeLifecycleReceipt D) := do
  let current ← Op.onCurrentness (CurrentnessStore.publish R.hash R.config.currentnessSubjectId
    (candidateValues R recovery) args.expectedCurrentnessGeneration)
  let event ← Op.onJournal (LifecycleJournal.append R.hash (committedEvent R recovery current))
  return ⟨recovery, current, report.status, report.baselineDigest, report.candidateDigest,
    event.digest, R.hash.sha256 (.lifecycleReceipt
      { candidateValues R recovery with runtimeId := args.runtimeId } recovery.body.checkpointId
      R.config.currentnessSubjectId current.generation current.snapshotDigest report.status
      report.baselineDigest report.candidateDigest event.digest)⟩

def assureCandidate (args : CheckpointArgs D) (recovery : NativeRecoveryCheckpoint D) :
    Op D (NativeLifecycleReceipt D) := do
  let report ← Op.lift (compareSnapshots R args.assuranceBaseline (candidateValues R recovery)
    (args.assurancePolicy.getD defaultPolicy))
  if report.status = .block then
    let _ ← Op.onJournal (LifecycleJournal.append R.hash (blockedEvent R recovery report))
    throw ⟨.lifecycleAssuranceError,
      s!"native lifecycle assurance blocked currentness publication: {report.status.name}"⟩
  else
    let _ ← Op.onJournal (LifecycleJournal.append R.hash (passedEvent R recovery report))
    publishCandidate R args recovery report

def checkpointUnlocked (args : CheckpointArgs D) : Op D (NativeLifecycleReceipt D) := do
  let (memoryHead, controlDigest) ← checkpointGuards R args
  let recovery ← Op.onCheckpoints (NativeRecoveryCheckpointStore.append R.hash
    (checkpointBody R args memoryHead controlDigest) args.expectedCheckpointHead)
  let expectedGeneration ← Op.lift (canonicalInteger args.expectedCurrentnessGeneration)
  let _ ← Op.onJournal (LifecycleJournal.append R.hash
    (preparedEvent R recovery expectedGeneration))
  assureCandidate R args recovery

def checkpoint (args : CheckpointArgs D) : Op D (NativeLifecycleReceipt D) :=
  Op.withLock .lifecycle (checkpointUnlocked R args)

end VeraMono
