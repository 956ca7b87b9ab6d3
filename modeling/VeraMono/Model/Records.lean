import VeraMono.Framework.Checks
import VeraMono.Model.Canonical

/-!
# Records

The rows and receipts of the stores, and the documents they hash. Digests are an abstract type
`D`. `Body` lists every JSON object the code hashes, one constructor for each schema with the
fields of the source's dictionary, so that `sha256_hex(canonical_json_bytes(body))` is
`Hashing.sha256 body`.
-/

namespace VeraMono

/-- A string argument where a digest is expected, as `_require_digest` sees it: 64
lower-case hex digits, the same digits with upper-case letters, or anything else. -/
inductive DigestText (D : Type)
  | lower (d : D)
  | upper (d : D)
  | malformed (s : String)
  deriving DecidableEq

/-! ## Effects -/

inductive EffectState
  | reserved | executing | committed | attemptedUnknown
  | reconciledCommitted | reconciledNoEffect | cancelledPreDispatch
  deriving DecidableEq, Repr

structure EffectReceipt (D : Type) where
  effectId : String
  requestDigest : D
  state : EffectState
  mechanicalPermitDigest : D
  authorityEvidenceDigest : D
  currentnessEvidenceDigest : D
  resultDigest : Option D
  reconciliationEvidenceDigest : Option D
  deriving DecidableEq

/-! ## Lifecycle permits -/

inductive PermitSchema
  | acceptedLifecyclePermitV1
  | other (name : String)
  deriving DecidableEq

/-- `AcceptedLifecyclePermit.canonical_body`. -/
structure PermitBody (D : Type) where
  schema : PermitSchema
  projectId : String
  identityId : String
  runtimeId : String
  memoryHeadDigest : D
  recoveryCheckpointId : String
  recoveryCheckpointDigest : D
  recoveryCheckpointGeneration : Nat
  controlSourceDigest : D
  currentnessSubjectId : String
  currentnessGeneration : Nat
  currentnessSnapshotDigest : D
  currentnessPayloadDigest : D
  lifecycleJournalHead : D
  deriving DecidableEq

structure AcceptedLifecyclePermit (D : Type) where
  canonicalBody : PermitBody D
  permitDigest : D
  deriving DecidableEq

/-! ## Outbound audit -/

inductive AuditEventType
  | authorityVerified | reserved | executing | committed | attemptedUnknown
  | cancelledPreDispatch | reconciledCommitted | reconciledNoEffect
  deriving DecidableEq, Repr

structure AuthorityCurrentnessReceipt (D : Type) where
  schema : String
  authorityId : String
  role : String
  providerId : Option String
  authorityGeneration : Nat
  revocationEpoch : Nat
  keyId : String
  keyDigest : D
  registryGeneration : Nat
  registryHeadDigest : D
  receiptDigest : D
  deriving DecidableEq

/-- The part of a currentness receipt that a reconciliation event records. -/
structure ReconciliationAuthority (D : Type) where
  authorityId : String
  authorityGeneration : Nat
  revocationEpoch : Nat
  keyId : String
  keyDigest : D
  registryGeneration : Nat
  registryHeadDigest : D
  receiptDigest : D
  deriving DecidableEq

/-- The payload of an audit event: a key the event does not have is `none`, and a
result digest that is there may be null. -/
structure AuditPayload (D : Type) where
  requestDigest : D
  authorityEvidenceDigest : D
  mechanicalPermitDigest : Option D
  currentnessEvidenceDigest : Option D
  lifecyclePermit : Option (AcceptedLifecyclePermit D)
  authorityDetails : Option Json
  resultDigest : Option (Option D)
  reconciliationEvidenceDigest : Option (Option D)
  reconciliationAuthorityCurrentness : Option (ReconciliationAuthority D)
  restartReconstructedFromEffectFence : Bool
  deriving DecidableEq

structure AuditBody (D : Type) where
  effectId : String
  effectKind : String
  eventType : AuditEventType
  payload : AuditPayload D
  deriving DecidableEq

/-! ## Lifecycle journal -/

inductive JournalEventType
  | candidatePrepared | assuranceBlocked | assurancePassed
  | currentnessCommitted | restartReconciledCommitted
  deriving DecidableEq, Repr

inductive DriftStatus
  | pass | warn | block
  deriving DecidableEq, Repr

inductive FindingCode
  | requiredFieldMissing | criticalDrift | undeclaredDrift
  deriving DecidableEq, Repr

inductive JournalPayload (D : Type)
  | prepared (checkpointDigest : D) (checkpointGeneration : Nat) (candidateDigest : D)
      (expectedCurrentnessGeneration : Option Int) (memoryHeadDigest controlSourceDigest : D)
  | blocked (candidateDigest baselineDigest candidateAssuranceDigest : D)
      (findingCodes : List FindingCode)
  | passed (candidateDigest baselineDigest candidateAssuranceDigest : D)
      (assuranceStatus : DriftStatus)
  | committed (candidateDigest : D) (currentnessGeneration : Nat)
      (currentnessSnapshotDigest currentnessPayloadDigest : D)
  deriving DecidableEq

structure JournalBody (D : Type) where
  transitionId : String
  eventType : JournalEventType
  payload : JournalPayload D
  deriving DecidableEq

/-! ## Recovery checkpoints and currentness -/

/-- A recovery checkpoint without its generation, predecessor and digest. -/
structure CheckpointBody (D : Type) where
  checkpointId : String
  projectId : String
  identityId : String
  runtimeId : String
  memoryHeadDigest : D
  controlSourceDigest : D
  createdAt : String
  commitments : List String
  unfinishedWork : List String
  deriving DecidableEq

/-- `_candidate_values`, the payload that is published as currentness. -/
structure CandidateValues (D : Type) where
  projectId : String
  identityId : String
  runtimeId : String
  memoryHeadDigest : D
  recoveryCheckpointDigest : D
  recoveryCheckpointGeneration : Nat
  controlSourceDigest : D
  deriving DecidableEq

structure CurrentnessRow (D : Type) where
  subjectId : String
  generation : Nat
  snapshotDigest : D
  payloadDigest : D
  payload : CandidateValues D
  deriving DecidableEq

/-! ## Memory -/

inductive MemoryClass
  | autobiographical | workingProject | historicalAudit
  deriving DecidableEq, Repr

structure AdmissionRequest where
  recordId : String
  text : String
  memoryClass : MemoryClass
  sourceActor : String
  authorityRef : String
  privacyRef : String
  provenanceRefs : List String
  operationId : String
  projectId : String
  governedIdentityId : String
  supersedes : Option String
  deriving DecidableEq

structure MemoryRow (D : Type) where
  request : AdmissionRequest
  requestDigest : D
  superseded : Bool
  supersededBy : Option String
  recordDigest : D

structure AdmissionReceipt (D : Type) where
  request : AdmissionRequest
  requestDigest : D
  recordDigest : D
  storeHead : D
  generation : Nat

/-! ## Coordination commands -/

structure CommandBinding (D : Type) where
  commandId : String
  effectId : String
  command : String
  actorWorkstream : String
  lifecyclePermitDigest : D
  invocationDigest : D
  requestDigest : D
  bindingDigest : D
  deriving DecidableEq

structure CommandResult (D : Type) where
  commandId : String
  resultDigest : D
  resultClass : String
  databaseWriteConfirmed : Bool
  eventId : Option String
  eventSequence : Option Nat
  resultRecordDigest : D
  deriving DecidableEq

/-! ## What is hashed -/

/-- The JSON objects whose canonical bytes the code hashes. -/
inductive Body (D : Type)
  | effectRequest (effectId effectKind : String) (requestPayload : Json)
      (lifecyclePermitDigest : D)
  | mechanicalPermit (effectId : String) (requestDigest lifecyclePermitDigest : D)
  | effectResult (effectId effectKind : String) (value : Json)
  | lifecyclePermit (body : PermitBody D)
  | auditGenesis
  | auditEvent (sequence : Nat) (predecessorDigest : D) (event : AuditBody D)
  | journalGenesis
  | journalEvent (sequence : Nat) (predecessorEventDigest : D) (event : JournalBody D)
  | checkpointGenesis
  | checkpoint (generation : Nat) (predecessorHead : D) (body : CheckpointBody D)
  | candidateSnapshot (subjectId : String) (values : CandidateValues D)
  | snapshot (subjectId : String) (values : Json)
  | currentnessPayload (values : CandidateValues D)
  | currentnessSnapshot (subjectId : String) (generation : Nat) (payloadDigest : D)
  | lifecycleReceipt (values : CandidateValues D) (recoveryCheckpointId currentnessSubjectId : String)
      (currentnessGeneration : Nat) (currentnessSnapshotDigest : D) (assuranceStatus : DriftStatus)
      (assuranceBaselineDigest assuranceCandidateDigest lifecycleJournalHead : D)
  | memoryGenesis
  | memoryRequest (request : AdmissionRequest)
  | memoryRecord (request : AdmissionRequest) (requestDigest : D)
  | memoryHead (previousHead : D) (generation : Nat) (recordId : String) (recordDigest : D)
      (supersedes : Option String)
  | reconciliationSubject (effectId : String) (requestDigest : D) (ambiguousState : EffectState)
      (mechanicalPermitDigest authorityEvidenceDigest currentnessEvidenceDigest : D)
      (effectOccurred : Bool) (resultDigest : Option (DigestText D))
  | reconciliationEvidence (schema issuerId subject verificationToken : String)
      (authorityCurrentness : AuthorityCurrentnessReceipt D)
  | coordinationAuthority (actor : Json) (command : String) (taskDependency : Json)
  | coordinationInvocation (command : String) (actor args kwargs : Json)
  | commandBinding (commandId effectId command actorWorkstream : String)
      (lifecyclePermitDigest invocationDigest requestDigest : D)
  | commandResult (bindingDigest resultDigest : D) (resultClass : String)
      (databaseWriteConfirmed : Bool) (eventId : Option String) (eventSequence : Option Nat)
  | commandProjection (bindings : List (CommandBinding D)) (results : List (CommandResult D))

/-- SHA-256 of a canonical JSON object, and the hex text of a digest. -/
structure Hashing (D : Type) where
  sha256 : Body D → D
  hex : D → String

/-- Identity of a lifecycle: the ids its stores were opened with. -/
structure LifecycleConfig where
  projectId : String
  identityId : String
  currentnessSubjectId : String

/-- What the modelled code runs on. -/
structure Runtime (D : Type) where
  hash : Hashing D
  py : Stdlib
  config : LifecycleConfig

def requireDigest {D : Type} (kind : ExceptionClass) (label : String) :
    DigestText D → Except Failure D
  | .lower d => .ok d
  | .upper d => .ok d
  | .malformed _ => .error ⟨kind, s!"{label} must be an exact SHA-256 hex digest"⟩

/-- `_require_id` and `_require_text`. -/
def requireText (kind : ExceptionClass) (label value : String) : Except Failure String :=
  if value = "" then .error ⟨kind, s!"{label} must be a non-empty exact string"⟩ else .ok value

@[simp] theorem requireDigest_lower {D : Type} (kind : ExceptionClass) (label : String) (d : D) :
    requireDigest kind label (.lower d) = .ok d := rfl

theorem requireText_ok {kind : ExceptionClass} {label value text : String} :
    requireText kind label value = .ok text ↔ value ≠ "" ∧ value = text := by
  rw [requireText]
  split <;> simp [*]

end VeraMono
