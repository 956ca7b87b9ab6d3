import Mathlib.Data.List.Basic
import VeraMono.Framework.Prog
import VeraMono.Model.CoordinationRepository

/-!
# Recovery of a runtime

`recovery_core.py`, `recovery_evidence.py`, `recovery_runtime.py` and `lifecycle.py` of R8A0:
`recover` verifies the checkpoint, the checkpoint receipt, the termination intent and the exit
attestation of a predecessor, and consumes the termination in the lifecycle registry. What a call
reads (documents, files, the clock, live processes, the trust registry, the orientation) is part
of the call; the registry file is shared.
-/

namespace VeraMono

open Framework

inductive RecoveryErrorClass
  | recoveryError | lifecycleRegistryError | staleLifecycleHead | trustRegistryError | valueError
  | overflowError | osError
  deriving DecidableEq

structure RecoveryFailure where
  kind : RecoveryErrorClass
  message : String
  deriving DecidableEq

def recoverFailure (message : String) : RecoveryFailure := ⟨.recoveryError, message⟩

/-! ## Documents -/

/-- Who signed a document. -/
structure Signer where
  issuer : String
  keyId : String
  signature : String
  deriving DecidableEq

/-- The fields of `CP_FIELDS`. -/
structure CheckpointReceipt extends Signer where
  schema : String
  result : String
  checkpointPath : String
  checkpointDigest : String
  payloadDigest : String
  stateAttestationsDigest : String
  projectId : String
  identityId : String
  runtimeId : String
  runtimeInstanceNonce : String
  checkpointObservedAt : String

/-- The fields of `TI_FIELDS`. -/
structure TerminationIntent extends Signer where
  schema : String
  result : String
  runtimeId : String
  runtimeInstanceNonce : String
  processId : Int
  checkpointDigest : String
  checkpointReceiptSignature : String
  intentEmittedAt : String

/-- The fields of `EXIT_FIELDS`. -/
structure ExitAttestation extends Signer where
  schema : String
  result : String
  runtimeId : String
  runtimeInstanceNonce : String
  processId : Int
  exitCode : Int
  checkpointReceiptSignature : String
  terminationIntentSignature : String
  observedAt : String

structure StateAttestation extends Signer where
  schema : String
  kind : String
  projectId : String
  identityId : String
  digest : String
  generation : Int
  observedAt : String

structure CheckpointState where
  projectId : String
  identityId : String
  runtimeId : String
  runtimeInstanceNonce : String
  memoryHeadDigest : String
  selfModelHeadDigest : String
  authorityStateDigest : String
  activeCommitments : List String
  unfinishedWork : List String
  createdAt : String
  predecessorCheckpointDigest : String

structure CheckpointEnvelope where
  schema : String
  payload : CheckpointState
  payloadDigest : String
  stateAttestations : List (String × StateAttestation)
  stateAttestationsDigest : String
  complete : Bool

inductive SignedDocument
  | checkpointReceipt (receipt : CheckpointReceipt)
  | terminationIntent (intent : TerminationIntent)
  | exitAttestation (attestation : ExitAttestation)
  | stateAttestation (attestation : StateAttestation)

/-- What is found where a document is looked for. -/
inductive ReadFile (α : Type)
  | missing
  /-- `strict_loads` raised. -/
  | unreadable (e : RecoveryFailure)
  /-- An object with other fields. -/
  | otherFields
  | document (a : α)

/-! ## The registry -/

/-- An entry of `events`. -/
structure ConsumedTermination where
  terminationSignature : String
  checkpointSignature : String
  predecessorRuntimeId : String
  successorRuntimeId : String
  resumptionClaimDigest : String
  state : String

structure RegistryBody where
  schema : String
  generation : Nat
  predecessorHead : String
  events : List (String × ConsumedTermination)

structure RegistryFile extends RegistryBody where
  headDigest : String
  headMac : String

abbrev LifecycleRegistry := Option RegistryFile

/-! ## What a recovery says -/

structure ResumptionClaim where
  projectId : String
  identityId : String
  priorRuntimeId : String
  successorRuntimeId : String
  checkpointReceiptSignature : String
  terminationIntentSignature : String
  exitAttestationSignature : String
  lifecycleRegistryPreHead : String
  trustBinding : List (String × String)

/-- The receipt without its digest. -/
structure ResumptionBody where
  projectId : String
  identityId : String
  priorRuntimeId : String
  priorRuntimeInstanceNonce : String
  successorRuntimeId : String
  priorProcessId : Int
  successorProcessId : Int
  memoryHeadDigest : String
  selfModelHeadDigest : String
  authorityStateDigest : String
  predecessorCheckpointDigest : String
  activeCommitments : List String
  unfinishedWork : List String
  checkpointCreatedAt : Int
  checkpointObservedAt : Int
  terminationIntentAt : Int
  exitObservedAt : Int
  recoveryEvaluatedAt : Int
  checkpointReceiptSignature : String
  terminationIntentSignature : String
  exitAttestationSignature : String
  resumptionClaimDigest : String
  lifecycleRegistryPreHead : String
  lifecycleRegistryPostHead : String
  orientationReceipt : String
  trustBinding : List (String × String)

structure ResumptionReceipt extends ResumptionBody where
  receiptDigest : String

/-- `datetime.fromisoformat`. -/
inductive IsoParse
  | invalid (message : String)
  | naive
  | instant (time : Int)

/-- Hashes, signatures and the clock format. -/
structure RecoveryRuntime (Key : Type) where
  fromIsoFormat : String → IsoParse
  publicKeyId : Key → String
  verifySignature : SignedDocument → Key → Bool
  payloadDigest : CheckpointState → String
  attestationsDigest : List StateAttestation → String
  claimDigest : ResumptionClaim → String
  receiptDigest : ResumptionBody → String
  registryDigest : RegistryBody → String
  registryMac : RegistryBody → String → String

variable {Key : Type} (R : RecoveryRuntime Key)

/-! ## `LifecycleRegistry` -/

namespace LifecycleRegistry

/-- `_seal`. -/
def sealed (body : RegistryBody) : RegistryFile :=
  let head := R.registryDigest body
  { body with headDigest := head, headMac := R.registryMac body head }

def genesis : RegistryFile :=
  sealed R ⟨"VERA_R8A0_LIFECYCLE_REGISTRY_V1", 0, String.ofList (List.replicate 64 '0'), []⟩

/-- `_read`. -/
def readFile (registry : LifecycleRegistry) : Except RecoveryFailure RegistryFile := do
  let data := registry.getD (genesis R)
  if data.schema ≠ "VERA_R8A0_LIFECYCLE_REGISTRY_V1" then
    throw ⟨.lifecycleRegistryError, "invalid lifecycle registry"⟩
  if data.headMac ≠ R.registryMac data.toRegistryBody data.headDigest ∨
      data.headDigest ≠ R.registryDigest data.toRegistryBody then
    throw ⟨.lifecycleRegistryError, "lifecycle registry authentication mismatch"⟩
  return data

def currentHead (registry : LifecycleRegistry) : Except RecoveryFailure String := do
  let data ← readFile R registry
  return data.headDigest

def consume (event : ConsumedTermination) (expectedHead : String) (registry : LifecycleRegistry) :
    Except RecoveryFailure (String × LifecycleRegistry) := do
  let data ← readFile R registry
  if data.headDigest ≠ expectedHead then
    throw ⟨.staleLifecycleHead, "stale lifecycle registry head"⟩
  if (data.events.lookup event.terminationSignature).isSome then
    throw ⟨.lifecycleRegistryError, "termination event already consumed"⟩
  let new := sealed R
    { schema := data.schema, generation := data.generation + 1, predecessorHead := data.headDigest
      events := data.events ++ [(event.terminationSignature, event)] }
  let readback ← readFile R (some new)
  if readback.headDigest ≠ new.headDigest then
    throw ⟨.lifecycleRegistryError, "lifecycle registry write readback mismatch"⟩
  return (new.headDigest, some new)

end LifecycleRegistry

/-! ## Evidence -/

def maxClockSkew : Int := 300000000

def maxLifecycleAge : Int := 3600000000

/-- `datetime.max`. -/
def datetimeMax : Int := 253402300799999999

/-- `time + MAX_CLOCK_SKEW`. -/
def plusSkew (time : Int) : Except RecoveryFailure Int :=
  if datetimeMax < time + maxClockSkew then .error ⟨.overflowError, "date value out of range"⟩
  else .ok (time + maxClockSkew)

def parseTime (value : String) : Except RecoveryFailure Int :=
  match R.fromIsoFormat (String.ofList (value.toList.flatMap fun c =>
    if c = 'Z' then ['+', '0', '0', ':', '0', '0'] else [c])) with
  | .invalid message => .error ⟨.valueError, message⟩
  | .naive => .error ⟨.valueError, "timestamps must include a timezone"⟩
  | .instant time => .ok time

def ReadFile.fields {α : Type} (missing otherFields : RecoveryFailure) : ReadFile α → Except RecoveryFailure α
  | .missing => .error missing
  | .unreadable e => .error e
  | .otherFields => .error otherFields
  | .document a => .ok a

def fieldsMismatch : RecoveryFailure := recoverFailure "signed evidence fields are missing or unknown"

/-- `_verify`, of a document with its fields. -/
def verifySigned (keys : List (String × Key)) (document : SignedDocument) (signer : Signer)
    (documentSchema schema : String) : Except RecoveryFailure Unit :=
  match keys.lookup signer.issuer with
  | none => .error (recoverFailure "signed evidence verification failed")
  | some key =>
    if R.publicKeyId key ≠ signer.keyId ∨ ¬ R.verifySignature document key then
      .error (recoverFailure "signed evidence verification failed")
    else if documentSchema ≠ schema then .error (recoverFailure "unsupported signed evidence schema")
    else .ok ()

/-- `_sha`. -/
def isSha (value : String) : Bool := value.length == 64 && value.toList.all fun c => c ∈ hexDigits

def nonemptyString (value name : String) : Except RecoveryFailure Unit :=
  if nonblank value then .ok () else .error (recoverFailure s!"{name} must be a nonempty string")

def stringTuple (value : List String) (name : String) : Except RecoveryFailure Unit :=
  if value.all nonblank then .ok () else .error (recoverFailure s!"{name} entries must be nonempty strings")

def CheckpointState.validate (state : CheckpointState) : Except RecoveryFailure Unit := do
  nonemptyString state.projectId "project_id"
  nonemptyString state.identityId "identity_id"
  nonemptyString state.runtimeId "runtime_id"
  nonemptyString state.runtimeInstanceNonce "runtime_instance_nonce"
  nonemptyString state.createdAt "created_at"
  let _ ← parseTime R state.createdAt
  stringTuple state.activeCommitments "active_commitments"
  stringTuple state.unfinishedWork "unfinished_work"
  if ¬ ([state.memoryHeadDigest, state.selfModelHeadDigest, state.authorityStateDigest,
      state.predecessorCheckpointDigest].all isSha) then
    throw (recoverFailure "checkpoint roots must be lowercase SHA-256 values")

def checkpointStateFromMapping (value : CheckpointState) : Except RecoveryFailure CheckpointState := do
  nonemptyString value.projectId "project_id"
  nonemptyString value.identityId "identity_id"
  nonemptyString value.runtimeId "runtime_id"
  nonemptyString value.runtimeInstanceNonce "runtime_instance_nonce"
  stringTuple value.activeCommitments "active_commitments"
  stringTuple value.unfinishedWork "unfinished_work"
  nonemptyString value.createdAt "created_at"
  value.validate R
  return value

/-- `ROOT_KINDS`, with the digests that a state names. -/
def CheckpointState.roots (state : CheckpointState) : List (String × String) :=
  [("predecessor_checkpoint", state.predecessorCheckpointDigest), ("memory_head", state.memoryHeadDigest),
    ("self_model_head", state.selfModelHeadDigest), ("authority_state", state.authorityStateDigest)]

/-- The loop body of `verify_state_attestations`. -/
def verifyStateAttestation (keys : List (String × Key)) (state : CheckpointState)
    (attestations : List (String × StateAttestation)) (root : String × String) :
    Except RecoveryFailure StateAttestation := do
  match attestations.lookup root.1 with
  | none => throw (recoverFailure "state-root attestations are incomplete")
  | some attestation => do
    verifySigned R keys (.stateAttestation attestation) attestation.toSigner attestation.schema
      "VERA_R8A0_STATE_ROOT_ATTESTATION_V1"
    if attestation.kind ≠ root.1 ∨ attestation.projectId ≠ state.projectId ∨
        attestation.identityId ≠ state.identityId ∨ attestation.digest ≠ root.2 then
      throw (recoverFailure "state-root attestation scope or digest mismatch")
    if ¬ isSha attestation.digest ∨ attestation.generation < 0 then
      throw (recoverFailure "invalid state-root attestation")
    let _ ← parseTime R attestation.observedAt
    return attestation

def verifyStateAttestations (keys : List (String × Key)) (state : CheckpointState)
    (attestations : List (String × StateAttestation)) : Except RecoveryFailure String := do
  state.validate R
  if ¬ (attestations.all (fun a => state.roots.any fun r => r.1 = a.1) ∧
      state.roots.all fun r => attestations.any fun a => a.1 = r.1) then
    throw (recoverFailure "state-root attestations are incomplete")
  let normalized ← state.roots.mapM (verifyStateAttestation R keys state attestations)
  return R.attestationsDigest normalized

/-! ## `recover` -/

inductive OrientationState
  | complete | completeFromFreshSnapshot | degradedBounded | stale | conflicted | unknown | recoveryRequired
  deriving DecidableEq

structure Orientation where
  state : OrientationState
  receipt : String

/-- The keys of the trust registry that the call loaded. -/
structure TrustAnchors (Key : Type) where
  lifecycleKeys : List (String × Key)
  supervisorKeys : List (String × Key)
  stateKeys : List (String × Key)
  binding : List (String × String)

/-- The arguments of a call, and what it finds when it looks. -/
structure RecoverCall (Key : Type) where
  checkpointPath : String
  expectedCheckpointReceiptSignature : String
  expectedTerminationIntentSignature : String
  expectedExitAttestationSignature : String
  expectedProjectId : String
  expectedIdentityId : String
  expectedPredecessorCheckpointDigest : String
  expectedMemoryHeadDigest : String
  expectedSelfModelHeadDigest : String
  expectedAuthorityStateDigest : String
  successorRuntimeId : String
  trust : Except RecoveryFailure (TrustAnchors Key)
  now : Int
  orientation : Except RecoveryFailure Orientation
  checkpointReceipt : ReadFile CheckpointReceipt
  terminationIntent : ReadFile TerminationIntent
  exitAttestation : ReadFile ExitAttestation
  /-- The digest of the file at a path, when the checkpoint receipt is read. -/
  digestAt : String → Option String
  alive : Int → Bool
  /-- The digest of the checkpoint, when its path is compared. -/
  checkpointDigest : Option String
  /-- The checkpoint as it is parsed. -/
  checkpoint : ReadFile CheckpointEnvelope
  processId : Int

def processIsAlive (alive : Int → Bool) (processId : Int) : Bool := 0 < processId ∧ alive processId

variable (call : RecoverCall Key) (trust : TrustAnchors Key)

def readCheckpointReceipt : Except RecoveryFailure CheckpointReceipt := do
  let receipt ← call.checkpointReceipt.fields (recoverFailure "checkpoint receipt is missing") fieldsMismatch
  verifySigned R trust.lifecycleKeys (.checkpointReceipt receipt) receipt.toSigner receipt.schema
    "VERA_R8A0_CHECKPOINT_WRITE_RECEIPT_V5"
  if receipt.result ≠ "CHECKPOINT_COMMITTED" then
    throw (recoverFailure "checkpoint receipt is not committed")
  let _ ← parseTime R receipt.checkpointObservedAt
  if call.digestAt receipt.checkpointPath ≠ some receipt.checkpointDigest then
    throw (recoverFailure "checkpoint receipt target mismatch")
  return receipt

def readTerminationIntent : Except RecoveryFailure TerminationIntent := do
  let intent ← call.terminationIntent.fields (recoverFailure "termination intent is missing") fieldsMismatch
  verifySigned R trust.lifecycleKeys (.terminationIntent intent) intent.toSigner intent.schema
    "VERA_R8A0_TERMINATION_INTENT_RECEIPT_V2"
  if intent.result ≠ "TERMINATION_INTENT_EMITTED" ∨ intent.processId ≤ 0 then
    throw (recoverFailure "invalid termination intent")
  let _ ← parseTime R intent.intentEmittedAt
  return intent

def readExitAttestation : Except RecoveryFailure ExitAttestation := do
  let attestation ← call.exitAttestation.fields (recoverFailure "process exit attestation is missing")
    fieldsMismatch
  verifySigned R trust.supervisorKeys (.exitAttestation attestation) attestation.toSigner attestation.schema
    "VERA_R8A0_PROCESS_EXIT_ATTESTATION_V2"
  if attestation.result ≠ "EXIT_OBSERVED" ∨ attestation.exitCode ≠ 0 then
    throw (recoverFailure "predecessor exit was not successfully observed")
  let _ ← parseTime R attestation.observedAt
  return attestation

/-- The comparisons of the three documents with each other, and of the process that exited. -/
def checkChain (receipt : CheckpointReceipt) (intent : TerminationIntent) (attestation : ExitAttestation) :
    Except RecoveryFailure Unit := do
  if receipt.signature ≠ call.expectedCheckpointReceiptSignature ∨
      intent.signature ≠ call.expectedTerminationIntentSignature ∨
      attestation.signature ≠ call.expectedExitAttestationSignature then
    throw (recoverFailure "lifecycle evidence does not match independently observed signatures")
  if intent.checkpointReceiptSignature ≠ receipt.signature ∨
      attestation.checkpointReceiptSignature ≠ receipt.signature ∨
      attestation.terminationIntentSignature ≠ intent.signature then
    throw (recoverFailure "lifecycle evidence chain mismatch")
  if receipt.runtimeId ≠ intent.runtimeId ∨ intent.runtimeId ≠ attestation.runtimeId then
    throw (recoverFailure "runtime instance chain mismatch")
  if receipt.runtimeInstanceNonce ≠ intent.runtimeInstanceNonce ∨
      intent.runtimeInstanceNonce ≠ attestation.runtimeInstanceNonce then
    throw (recoverFailure "runtime instance chain mismatch")
  if processIsAlive call.alive attestation.processId then
    throw (recoverFailure "predecessor process remains alive")

/-- The checkpoint that a receipt is about, with its state. -/
def readCheckpoint (receipt : CheckpointReceipt) : Except RecoveryFailure CheckpointState := do
  match call.checkpointDigest with
  | none => throw ⟨.osError, "No such file or directory"⟩
  | some digest => do
    if call.checkpointPath ≠ receipt.checkpointPath ∨ digest ≠ receipt.checkpointDigest then
      throw (recoverFailure "checkpoint receipt target mismatch")
    let data ← call.checkpoint.fields ⟨.osError, "No such file or directory"⟩
      (recoverFailure "checkpoint is partial or unsupported")
    if data.schema ≠ "VERA_R8A0_CHECKPOINT_V4" ∨ ¬ data.complete then
      throw (recoverFailure "checkpoint is partial or unsupported")
    if R.payloadDigest data.payload ≠ data.payloadDigest ∨ data.payloadDigest ≠ receipt.payloadDigest then
      throw (recoverFailure "checkpoint payload mismatch")
    let state ← checkpointStateFromMapping R data.payload
    let digest ← verifyStateAttestations R trust.stateKeys state data.stateAttestations
    if digest ≠ data.stateAttestationsDigest ∨ digest ≠ receipt.stateAttestationsDigest then
      throw (recoverFailure "state attestation bundle mismatch")
    return state

/-- The checks of the state against what the caller expects. -/
def checkScope (state : CheckpointState) : Except RecoveryFailure Unit := do
  if state.projectId ≠ call.expectedProjectId ∨ state.identityId ≠ call.expectedIdentityId ∨
      state.predecessorCheckpointDigest ≠ call.expectedPredecessorCheckpointDigest ∨
      state.memoryHeadDigest ≠ call.expectedMemoryHeadDigest ∨
      state.selfModelHeadDigest ≠ call.expectedSelfModelHeadDigest ∨
      state.authorityStateDigest ≠ call.expectedAuthorityStateDigest then
    throw (recoverFailure "checkpoint scope or state-root mismatch")
  if call.successorRuntimeId = state.runtimeId then
    throw (recoverFailure "successor runtime must differ")

structure LifecycleTimes where
  created : Int
  checkpoint : Int
  intent : Int
  exit : Int

def validateLifecycleOrder (state : CheckpointState) (receipt : CheckpointReceipt) (intent : TerminationIntent)
    (attestation : ExitAttestation) (recoveryTime : Int) : Except RecoveryFailure LifecycleTimes := do
  let created ← parseTime R state.createdAt
  let checkpointTime ← parseTime R receipt.checkpointObservedAt
  let intentTime ← parseTime R intent.intentEmittedAt
  let exitTime ← parseTime R attestation.observedAt
  let checkpointLimit ← plusSkew checkpointTime
  if checkpointLimit < created then throw (recoverFailure "checkpoint creation follows observation")
  if intentTime < checkpointTime then throw (recoverFailure "termination intent predates checkpoint")
  let exitLimit ← plusSkew exitTime
  if exitLimit < intentTime then throw (recoverFailure "exit observation predates termination intent")
  let recoveryLimit ← plusSkew recoveryTime
  if recoveryLimit < exitTime then throw (recoverFailure "recovery predates observed exit")
  if maxLifecycleAge < recoveryTime - created then throw (recoverFailure "checkpoint lifecycle is stale")
  if maxLifecycleAge < recoveryTime - exitTime then throw (recoverFailure "exit observation is stale")
  return ⟨created, checkpointTime, intentTime, exitTime⟩

/-- What a call has verified before it turns to the registry. -/
structure VerifiedRecovery where
  receipt : CheckpointReceipt
  intent : TerminationIntent
  exit : ExitAttestation
  state : CheckpointState
  times : LifecycleTimes
  orientation : Orientation
  binding : List (String × String)

def verifyRecovery : Except RecoveryFailure VerifiedRecovery := do
  if call.expectedProjectId = "" ∨ call.expectedIdentityId = "" ∨ ¬ nonblank call.successorRuntimeId then
    throw (recoverFailure "expected scope and successor runtime are required")
  let trust ← call.trust
  let orientation ← call.orientation
  if orientation.state ∉ [OrientationState.complete, .completeFromFreshSnapshot] then
    throw (recoverFailure "fresh temporal authority is required")
  let receipt ← readCheckpointReceipt R call trust
  let intent ← readTerminationIntent R call trust
  let attestation ← readExitAttestation R call trust
  checkChain call receipt intent attestation
  let state ← readCheckpoint R call trust receipt
  checkScope call state
  let times ← validateLifecycleOrder R state receipt intent attestation call.now
  return ⟨receipt, intent, attestation, state, times, orientation, trust.binding⟩

def VerifiedRecovery.claim (v : VerifiedRecovery) (preHead : String) : ResumptionClaim where
  projectId := v.state.projectId
  identityId := v.state.identityId
  priorRuntimeId := v.state.runtimeId
  successorRuntimeId := call.successorRuntimeId
  checkpointReceiptSignature := v.receipt.signature
  terminationIntentSignature := v.intent.signature
  exitAttestationSignature := v.exit.signature
  lifecycleRegistryPreHead := preHead
  trustBinding := v.binding

def VerifiedRecovery.event (v : VerifiedRecovery) (preHead : String) : ConsumedTermination where
  terminationSignature := v.intent.signature
  checkpointSignature := v.receipt.signature
  predecessorRuntimeId := v.state.runtimeId
  successorRuntimeId := call.successorRuntimeId
  resumptionClaimDigest := R.claimDigest (v.claim call preHead)
  state := "CONSUMED"

/-- The receipt of a recovery. -/
def VerifiedRecovery.resumption (v : VerifiedRecovery) (preHead postHead : String) : ResumptionReceipt :=
  let body : ResumptionBody :=
    { projectId := v.state.projectId, identityId := v.state.identityId, priorRuntimeId := v.state.runtimeId
      priorRuntimeInstanceNonce := v.state.runtimeInstanceNonce, successorRuntimeId := call.successorRuntimeId
      priorProcessId := v.exit.processId, successorProcessId := call.processId
      memoryHeadDigest := v.state.memoryHeadDigest, selfModelHeadDigest := v.state.selfModelHeadDigest
      authorityStateDigest := v.state.authorityStateDigest
      predecessorCheckpointDigest := v.state.predecessorCheckpointDigest
      activeCommitments := v.state.activeCommitments, unfinishedWork := v.state.unfinishedWork
      checkpointCreatedAt := v.times.created, checkpointObservedAt := v.times.checkpoint
      terminationIntentAt := v.times.intent, exitObservedAt := v.times.exit, recoveryEvaluatedAt := call.now
      checkpointReceiptSignature := v.receipt.signature, terminationIntentSignature := v.intent.signature
      exitAttestationSignature := v.exit.signature
      resumptionClaimDigest := R.claimDigest (v.claim call preHead), lifecycleRegistryPreHead := preHead
      lifecycleRegistryPostHead := postHead, orientationReceipt := v.orientation.receipt
      trustBinding := v.binding }
  { body with receiptDigest := R.receiptDigest body }

def recover : Prog Empty LifecycleRegistry RecoveryFailure ResumptionReceipt := do
  let v ← Prog.ofExcept (verifyRecovery R call)
  let head ← Prog.read (LifecycleRegistry.currentHead R)
  let preHead ← Prog.ofExcept head
  .txn fun registry => (LifecycleRegistry.consume R (v.event R call preHead) preHead registry).map
    fun r => (v.resumption R call preHead r.1, r.2)

end VeraMono
