import VeraMono.Model.QualifiedPc
import VeraMono.Model.Sample

/-!
# A PC job to run

A prepared dispatch of a `PING`, a lease of an attempt at it, and the adapter's runtime over
`sample`.
-/

namespace VeraMono

open Framework QualifiedPCExecutionAdapter

/-- A hash of bytes that computes at once. -/
def sampleBytesDigest (_ : List UInt8) : String := zeroSha256

def sampleMicroseconds (text : String) : Int :=
  if text = "2026-01-01T00:00:00.000000Z" then 1767225600000000 else 1767227400000000

/-- The hash of `sample`, without the payload of a request. -/
def samplePcSha256 : Body Nat → Nat
  | .effectRequest i _ _ d => Absorb.absorb 1 (i.length, d)
  | b => sampleSha256 b

/-- A standard library that knows the times of the sample job. -/
def samplePcStdlib : Stdlib where
  repr := sampleStdlib.repr
  fromisoformat text :=
    if text = "2026-01-01T00:00:00.000000+00:00" then .aware 63902822400000000
    else if text = "2026-01-01T00:30:00.000000+00:00" then .aware 63902824200000000
    else .invalid
  isoformat _ time :=
    if time = 63902822400000000 then "2026-01-01T00:00:00+00:00" else "2026-01-01T00:30:00+00:00"
  bytesDigest := sampleBytesDigest

/-- A runtime of the adapter that computes. -/
def samplePc : PcRuntime Nat where
  vera := { sample with hash := ⟨samplePcSha256, fun _ => zeroSha256⟩, py := samplePcStdlib }
  envelopes := ⟨⟨fun _ => true, fun _ => none, sampleBytesDigest⟩, sampleMicroseconds⟩
  bindingDigest prepared lease := prepared.jobDigest ++ lease.attemptId

/-- The one identifier of the sample job, of its host and of its attempt. -/
def sampleUuid : String := "01900000-0000-7000-8000-000000000001"

def sampleJob : JobEnvelope where
  schemaVersion := "VERA_PCCC_JOB_V1"
  envelopeId := sampleUuid
  requestId := sampleUuid
  idempotencyKey := "k"
  projectId := "p"
  requesterPrincipalId := "u"
  requesterPrincipalType := "USER"
  hostId := sampleUuid
  operationId := "PING"
  operationVersion := 1
  parametersDigest := zeroSha256
  artifactManifestDigest := zeroSha256
  readRootsDigest := zeroSha256
  writeRootId := "NONE"
  authorizationId := sampleUuid
  authorizationRevision := 1
  notBefore := "2026-01-01T00:00:00.000000Z"
  expiresAt := "2026-01-01T00:30:00.000000Z"
  timeoutSeconds := 60
  maxAttempts := 1
  leaseTtlSeconds := 60
  retryClass := "PURE_READ"
  protocolMinVersion := "1.0.0"
  agentMinVersion := "1.0.0"
  requiredLocalPolicyDigest := zeroSha256
  requiredCapabilityDigest := zeroSha256
  issuerRevocationEpoch := 0
  hostRevocationEpoch := 0
  nonce := sampleUuid
  traceCorrelationId := sampleUuid

def sampleAuthorization : AuthorizationEnvelope where
  schemaVersion := "VERA_PCCC_AUTHORIZATION_V1"
  envelopeId := sampleUuid
  jobId := sampleUuid
  issuerId := "i"
  subjectUserId := "u"
  hostId := sampleUuid
  operation := "PING"
  operationVersion := 1
  parametersDigest := zeroSha256
  artifactManifestDigest := zeroSha256
  readRootsDigest := zeroSha256
  writeRootId := "NONE"
  authorizationId := sampleUuid
  authorizationRevision := 1
  issuedAt := "2026-01-01T00:00:00.000000Z"
  notBefore := "2026-01-01T00:00:00.000000Z"
  expiresAt := "2026-01-01T00:30:00.000000Z"
  nonce := sampleUuid
  maxAttempts := 1
  leaseTtlSeconds := 60
  protocolMinVersion := "1.0.0"
  agentMinVersion := "1.0.0"
  issuerRevocationEpoch := 0
  hostRevocationEpoch := 0

def samplePcDispatch : PreparedPCDispatch Nat where
  permit := samplePermit
  job := sampleJob
  authorization := sampleAuthorization
  jobDigest := zeroSha256
  authorizationDigest := zeroSha256
  authoritySubject := "subject"
  taskDependency := none

def sampleLease : PCExecutionLease := ⟨sampleUuid, sampleUuid, 1, sampleUuid, 1⟩

def samplePcEvents (stage : String) : Except Failure PCJournalEventEvidence :=
  .ok ⟨if stage = "CLAIM_RECORDED" then sampleUuid
    else if stage = "PREPARATION_STARTED" then "01900000-0000-7000-8000-000000000002"
    else "01900000-0000-7000-8000-000000000003", "", 1, "2026-01-01T00:00:00.000000Z"⟩

def sampleExecute : ExecuteArgs Nat where
  prepared := samplePcDispatch
  lease := sampleLease
  eventSource := samplePcEvents
  dependency := .ok ()
  verifier := true
  proofSubject := "subject"
  verifyAuthority := .ok ⟨.lower 5, .none⟩
  execute := .ok (.int 7)

/-- The accepted state, and an execution of the job for `n` moves. -/
def executedRun (n : Nat) : List (Event (PCCall Nat)) :=
  .spawn 0 (.vera (.checkpoint firstCheckpoint)) :: List.replicate 25 (.step 0) ++
    .spawn 1 (.vera .acceptedActionPermit) :: List.replicate 30 (.step 1) ++
    .spawn 2 (.execute sampleExecute) :: List.replicate n (.step 2)

/-! ## Its cancellation -/

def sampleCancel : CancelArgs Nat := ⟨samplePcDispatch, sampleLease, samplePcEvents⟩

/-- The state an execution leaves that was stopped after it reserved its effect. -/
abbrev reservedSample : PCState Nat := (PCPool.run samplePc 0 (executedRun 35)).store

def sampleAbandoned (s : PCState Nat) : Bool :=
  (s.journal.attempts.get? sampleCancel.attempt).any fun row => row.localState = .abandoned

theorem reservedSample_facts :
    ((cancelReservedAttempt samplePc sampleCancel).run reservedSample).1.isOk = true ∧
      ((cancelAfterRestart samplePc sampleCancel).run reservedSample).1.isOk = true ∧
      sampleAbandoned ((cancelAfterRestart samplePc sampleCancel).run
        ((cancelReservedAttempt samplePc sampleCancel).stopAt 4 reservedSample)).2 = false := by
  decide +kernel

end VeraMono
