import VeraMono.Model.JobJournal

/-!
# PC envelopes

`envelopes.py` of the PC connection: the job that a host is asked to run and the
authorization for it, with what `validate` asks of their fields and the digest of each.
-/

namespace VeraMono

/-- What the envelopes take from the standard library: what the journal does, and the
microseconds of a text that `datetime.strptime` reads. -/
structure EnvelopeRuntime where
  pccc : PcccRuntime
  microseconds : String → Int

/-! ## Validation -/

def boundedText (value field : String) (maximum : Nat) : Except Failure Unit :=
  if value = "" ∨ (utf8 value).length > maximum ∨ value.toList.any fun c => c.toNat < 32 then
    .error (contractError s!"{field} must be bounded UTF-8 text")
  else .ok ()

def afterNumber (cs : List Char) : Option (List Char) :=
  if (cs.takeWhile Char.isDigit).isEmpty then none else some (cs.dropWhile Char.isDigit)

def afterNumberDot (cs : List Char) : Option (List Char) :=
  match afterNumber cs with
  | some ('.' :: rest) => some rest
  | _ => none

/-- The optional suffix of `_SEMVER`. -/
def semverSuffix : List Char → Bool
  | [] => true
  | c :: rest => (c = '-' || c = '+') && !rest.isEmpty &&
      rest.all fun c => c.isAlphanum || c = '.' || c = '-'

def semver (value field : String) : Except Failure Unit :=
  match (afterNumberDot value.toList).bind afterNumberDot |>.bind afterNumber with
  | some rest =>
    if semverSuffix rest then .ok ()
    else .error (contractError s!"{field} must be semantic version text")
  | none => .error (contractError s!"{field} must be semantic version text")

/-- The microseconds of `utc_microseconds`. -/
def instantOf (rt : EnvelopeRuntime) (value field : String) : Except Failure Int := do
  utcMicroseconds rt.pccc value field
  return rt.microseconds value

def uint32Max : Int := 4294967295

def uint64Max : Int := 18446744073709551615

def hourMicroseconds : Int := 3600000000

def remoteTransferOperations : List String := ["UPLOAD_ARTIFACT", "DOWNLOAD_ARTIFACT"]

def validateOperationScope (operation writeRootId artifactManifestDigest : String) :
    Except Failure Unit := do
  if operation ∉ phaseOneOperations ++ remoteTransferOperations then
    throw (contractError "operation is not recognized by phase one")
  if operation ∈ remoteTransferOperations then
    throw (contractError "EXEC_OPERATION_DENIED")
  if operation ∉ phaseOneOperations then
    throw (contractError "operation is not enabled in phase one")
  if writeRootId ≠ "NONE" then
    throw (contractError "enabled phase-one operations require write_root_id NONE")
  if artifactManifestDigest ≠ zeroSha256 then
    throw (contractError "enabled phase-one operations require no artifact manifest")

/-- The value of a field of an envelope. -/
inductive Scalar
  | text (value : String)
  | number (value : Int)
  deriving DecidableEq

/-- `canonical_scalar`. -/
def Scalar.canonical : Scalar → String
  | .text value => value
  | .number value => toString value

def Scalar.toPy : Scalar → PyValue
  | .text value => .str (.valid value)
  | .number value => .int value

/-! ## Jobs -/

structure JobEnvelope where
  schemaVersion : String
  envelopeId : String
  requestId : String
  idempotencyKey : String
  projectId : String
  requesterPrincipalId : String
  requesterPrincipalType : String
  hostId : String
  operationId : String
  operationVersion : Int
  parametersDigest : String
  artifactManifestDigest : String
  readRootsDigest : String
  writeRootId : String
  authorizationId : String
  authorizationRevision : Int
  notBefore : String
  expiresAt : String
  timeoutSeconds : Int
  maxAttempts : Int
  leaseTtlSeconds : Int
  retryClass : String
  protocolMinVersion : String
  agentMinVersion : String
  requiredLocalPolicyDigest : String
  requiredCapabilityDigest : String
  issuerRevocationEpoch : Int
  hostRevocationEpoch : Int
  nonce : String
  traceCorrelationId : String
  deriving DecidableEq

namespace JobEnvelope

def fields (job : JobEnvelope) : List (String × Scalar) :=
  [("schema_version", .text job.schemaVersion), ("envelope_id", .text job.envelopeId),
    ("request_id", .text job.requestId), ("idempotency_key", .text job.idempotencyKey),
    ("project_id", .text job.projectId),
    ("requester_principal_id", .text job.requesterPrincipalId),
    ("requester_principal_type", .text job.requesterPrincipalType), ("host_id", .text job.hostId),
    ("operation_id", .text job.operationId), ("operation_version", .number job.operationVersion),
    ("parameters_digest", .text job.parametersDigest),
    ("artifact_manifest_digest", .text job.artifactManifestDigest),
    ("read_roots_digest", .text job.readRootsDigest), ("write_root_id", .text job.writeRootId),
    ("authorization_id", .text job.authorizationId),
    ("authorization_revision", .number job.authorizationRevision),
    ("not_before", .text job.notBefore), ("expires_at", .text job.expiresAt),
    ("timeout_seconds", .number job.timeoutSeconds), ("max_attempts", .number job.maxAttempts),
    ("lease_ttl_seconds", .number job.leaseTtlSeconds), ("retry_class", .text job.retryClass),
    ("protocol_min_version", .text job.protocolMinVersion),
    ("agent_min_version", .text job.agentMinVersion),
    ("required_local_policy_digest", .text job.requiredLocalPolicyDigest),
    ("required_capability_digest", .text job.requiredCapabilityDigest),
    ("issuer_revocation_epoch", .number job.issuerRevocationEpoch),
    ("host_revocation_epoch", .number job.hostRevocationEpoch), ("nonce", .text job.nonce),
    ("trace_correlation_id", .text job.traceCorrelationId)]

def validate (rt : EnvelopeRuntime) (job : JobEnvelope) : Except Failure Unit := do
  if job.schemaVersion ≠ "VERA_PCCC_JOB_V1" then
    throw (contractError "unsupported job schema")
  uuidV7 rt.pccc job.envelopeId "envelope_id"
  uuidV7 rt.pccc job.requestId "request_id"
  uuidV7 rt.pccc job.hostId "host_id"
  uuidV7 rt.pccc job.authorizationId "authorization_id"
  uuidV7 rt.pccc job.nonce "nonce"
  uuidV7 rt.pccc job.traceCorrelationId "trace_correlation_id"
  boundedText job.idempotencyKey "idempotency_key" 256
  boundedText job.projectId "project_id" 256
  boundedText job.requesterPrincipalId "requester_principal_id" 256
  if job.requesterPrincipalType ∉ ["USER", "SERVICE", "CONNECTOR"] then
    throw (contractError "unsupported requester_principal_type")
  uint job.operationVersion "operation_version" 1 uint32Max
  sha256Hex job.parametersDigest "parameters_digest"
  sha256Hex job.artifactManifestDigest "artifact_manifest_digest"
  sha256Hex job.readRootsDigest "read_roots_digest"
  sha256Hex job.requiredLocalPolicyDigest "required_local_policy_digest"
  sha256Hex job.requiredCapabilityDigest "required_capability_digest"
  validateOperationScope job.operationId job.writeRootId job.artifactManifestDigest
  uint job.authorizationRevision "authorization_revision" 1 uint64Max
  let notBefore ← instantOf rt job.notBefore "not_before"
  let expires ← instantOf rt job.expiresAt "expires_at"
  if notBefore ≥ expires ∨ expires - notBefore > hourMicroseconds then
    throw (contractError "job freshness window is invalid")
  uint job.timeoutSeconds "timeout_seconds" 1 3600
  uint job.maxAttempts "max_attempts" 1 5
  uint job.leaseTtlSeconds "lease_ttl_seconds" 30 300
  if job.retryClass ∉ ["PURE_READ", "CONTENT_ADDRESSED_WRITE", "AT_MOST_ONCE"] then
    throw (contractError "unsupported retry_class")
  semver job.protocolMinVersion "protocol_min_version"
  semver job.agentMinVersion "agent_min_version"
  uint job.issuerRevocationEpoch "issuer_revocation_epoch" 0 uint64Max
  uint job.hostRevocationEpoch "host_revocation_epoch" 0 uint64Max

def digest (rt : EnvelopeRuntime) (job : JobEnvelope) : Except Failure String := do
  job.validate rt
  return sha256DomainTextTuple rt.pccc "VERA-PCCC-JOB-V1" (job.fields.map fun f => f.2.canonical)

end JobEnvelope

/-! ## Authorizations -/

structure AuthorizationEnvelope where
  schemaVersion : String
  envelopeId : String
  jobId : String
  issuerId : String
  subjectUserId : String
  hostId : String
  operation : String
  operationVersion : Int
  parametersDigest : String
  artifactManifestDigest : String
  readRootsDigest : String
  writeRootId : String
  authorizationId : String
  authorizationRevision : Int
  issuedAt : String
  notBefore : String
  expiresAt : String
  nonce : String
  maxAttempts : Int
  leaseTtlSeconds : Int
  protocolMinVersion : String
  agentMinVersion : String
  issuerRevocationEpoch : Int
  hostRevocationEpoch : Int
  deriving DecidableEq

namespace AuthorizationEnvelope

def fields (authorization : AuthorizationEnvelope) : List (String × Scalar) :=
  [("schema_version", .text authorization.schemaVersion),
    ("envelope_id", .text authorization.envelopeId), ("job_id", .text authorization.jobId),
    ("issuer_id", .text authorization.issuerId),
    ("subject_user_id", .text authorization.subjectUserId), ("host_id", .text authorization.hostId),
    ("operation", .text authorization.operation),
    ("operation_version", .number authorization.operationVersion),
    ("parameters_digest", .text authorization.parametersDigest),
    ("artifact_manifest_digest", .text authorization.artifactManifestDigest),
    ("read_roots_digest", .text authorization.readRootsDigest),
    ("write_root_id", .text authorization.writeRootId),
    ("authorization_id", .text authorization.authorizationId),
    ("authorization_revision", .number authorization.authorizationRevision),
    ("issued_at", .text authorization.issuedAt), ("not_before", .text authorization.notBefore),
    ("expires_at", .text authorization.expiresAt), ("nonce", .text authorization.nonce),
    ("max_attempts", .number authorization.maxAttempts),
    ("lease_ttl_seconds", .number authorization.leaseTtlSeconds),
    ("protocol_min_version", .text authorization.protocolMinVersion),
    ("agent_min_version", .text authorization.agentMinVersion),
    ("issuer_revocation_epoch", .number authorization.issuerRevocationEpoch),
    ("host_revocation_epoch", .number authorization.hostRevocationEpoch)]

def validate (rt : EnvelopeRuntime) (authorization : AuthorizationEnvelope) : Except Failure Unit := do
  if authorization.schemaVersion ≠ "VERA_PCCC_AUTHORIZATION_V1" then
    throw (contractError "unsupported authorization schema")
  uuidV7 rt.pccc authorization.envelopeId "envelope_id"
  uuidV7 rt.pccc authorization.jobId "job_id"
  uuidV7 rt.pccc authorization.hostId "host_id"
  uuidV7 rt.pccc authorization.authorizationId "authorization_id"
  uuidV7 rt.pccc authorization.nonce "nonce"
  boundedText authorization.issuerId "issuer_id" 128
  boundedText authorization.subjectUserId "subject_user_id" 128
  uint authorization.operationVersion "operation_version" 1 uint32Max
  sha256Hex authorization.parametersDigest "parameters_digest"
  sha256Hex authorization.artifactManifestDigest "artifact_manifest_digest"
  sha256Hex authorization.readRootsDigest "read_roots_digest"
  validateOperationScope authorization.operation authorization.writeRootId
    authorization.artifactManifestDigest
  uint authorization.authorizationRevision "authorization_revision" 1 uint64Max
  let issued ← instantOf rt authorization.issuedAt "issued_at"
  let notBefore ← instantOf rt authorization.notBefore "not_before"
  let expires ← instantOf rt authorization.expiresAt "expires_at"
  if ¬ (issued ≤ notBefore ∧ notBefore < expires) then
    throw (contractError "timestamps must satisfy issued_at <= not_before < expires_at")
  if expires - notBefore > hourMicroseconds then
    throw (contractError "authorization window exceeds one hour")
  uint authorization.maxAttempts "max_attempts" 1 5
  uint authorization.leaseTtlSeconds "lease_ttl_seconds" 30 300
  semver authorization.protocolMinVersion "protocol_min_version"
  semver authorization.agentMinVersion "agent_min_version"
  uint authorization.issuerRevocationEpoch "issuer_revocation_epoch" 0 uint64Max
  uint authorization.hostRevocationEpoch "host_revocation_epoch" 0 uint64Max

def digest (rt : EnvelopeRuntime) (authorization : AuthorizationEnvelope) : Except Failure String := do
  authorization.validate rt
  return sha256DomainTextTuple rt.pccc "VERA-PCCC-AUTHORIZATION-V1"
    (authorization.fields.map fun f => f.2.canonical)

end AuthorizationEnvelope

end VeraMono
