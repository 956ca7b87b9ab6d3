import VeraMono.Model.PcContracts

/-!
# Artifact manifests

`artifacts.py` of the PC connection: the four parts of a manifest, each read from its mapping, and
the manifest itself, whose `manifest_sha256` must be the digest of all its other fields.
-/

namespace VeraMono

open Framework

def maxArtifactBytes : Int := 10737418240

/-! ## Parts -/

structure ArtifactSource where
  store : String
  locator : String
  immutableLocatorVersion : String
  deriving DecidableEq

/-- `ArtifactSource.from_mapping`. A `://` has a colon in it. -/
def ArtifactSource.fromMapping (rt : ContractRuntime) (value : PyValue) : Except Failure ArtifactSource := do
  closedFields rt value ["store", "locator", "immutable_locator_version"] "artifact source"
  requireIs (itemOf value "store") "LOCAL_ONLY" "phase one artifact source must be LOCAL_ONLY"
  let locator ← boundedTextOf (itemOf value "locator") "source.locator" 1024
  if ':' ∈ locator.toList then
    throw (contractError "phase one source locator must not be a URL or ADS")
  let version ← boundedTextOf (itemOf value "immutable_locator_version") "source.immutable_locator_version" 256
  return ⟨"LOCAL_ONLY", locator, version⟩

structure DestinationPolicy where
  store : String
  backendProfileId : String
  backendProfileDigest : String
  remoteTransferEnabled : Bool
  relativePath : String
  deriving DecidableEq

/-- Whether a path is absolute, names a drive or a stream, or goes up. -/
def isUnsafePath (path : List Char) : Bool :=
  path.head? = some '/' || path.head? = some '\\' || ':' ∈ path ||
    (path.splitOnP fun c => c = '/' || c = '\\').any (· = ['.', '.'])

def DestinationPolicy.fromMapping (rt : ContractRuntime) (value : PyValue) : Except Failure DestinationPolicy := do
  closedFields rt value
    ["store", "backend_profile_id", "backend_profile_digest", "remote_transfer_enabled", "relative_path"]
    "destination policy"
  requireIs (itemOf value "store") "LOCAL_ONLY" "phase one destination backend must be LOCAL_ONLY"
  requireIs (itemOf value "backend_profile_id") "LOCAL_ONLY" "phase one destination backend must be LOCAL_ONLY"
  let digest ← sha256HexOf (itemOf value "backend_profile_digest") "backend_profile_digest"
  match itemOf value "remote_transfer_enabled" with
  | .bool false =>
    let path ← boundedTextOf (itemOf value "relative_path") "destination relative_path" 1024
    if isUnsafePath path.toList then
      throw (contractError "destination relative_path is unsafe")
    return ⟨"LOCAL_ONLY", "LOCAL_ONLY", digest, false, path⟩
  | _ => throw (contractError "phase one remote transfer is disabled")

structure ArtifactAuthorization where
  authorizationId : String
  revision : Int
  allowedHostId : String
  allowedJobId : String
  allowedOperations : List String
  maxBytes : Int
  issuedAt : String
  expiresAt : String
  deriving DecidableEq

def sortedTexts? : PyValue → Option (List Text)
  | .list items =>
    match items.mapM PyValue.keyText with
    | some texts =>
      if texts ≠ [] ∧ texts.Nodup ∧ texts = texts.insertionSort (fun a b => a.codePoints ≤ b.codePoints) then
        some texts
      else none
    | none => none
  | _ => none

def allowedOperation : Text → Except Failure String
  | .valid operation =>
    if operation ∈ phaseOneOperations then .ok operation else .error (contractError "EXEC_OPERATION_DENIED")
  | .surrogates _ => .error (contractError "EXEC_OPERATION_DENIED")

/-- The operations that an artifact may be used for. -/
def allowedOperationsOf (value : PyValue) : Except Failure (List String) :=
  match sortedTexts? value with
  | none => .error (contractError "allowed_operations must be a sorted unique nonempty list")
  | some texts => texts.mapM allowedOperation

def ArtifactAuthorization.fromMapping (rt : ContractRuntime) (value : PyValue) :
    Except Failure ArtifactAuthorization := do
  closedFields rt value
    ["authorization_id", "revision", "allowed_host_id", "allowed_job_id", "allowed_operations", "max_bytes",
      "issued_at", "expires_at"] "artifact authorization"
  let operations ← allowedOperationsOf (itemOf value "allowed_operations")
  let authorizationId ← uuidV7Of rt.envelopes.pccc (itemOf value "authorization_id") "authorization_id"
  let hostId ← uuidV7Of rt.envelopes.pccc (itemOf value "allowed_host_id") "allowed_host_id"
  let jobId ← uuidV7Of rt.envelopes.pccc (itemOf value "allowed_job_id") "allowed_job_id"
  let revision ← uintOf (itemOf value "revision") "authorization revision" 1 uint64Max
  let maxBytes ← uintOf (itemOf value "max_bytes") "authorization max_bytes" 0 maxArtifactBytes
  let issued ← utcTextOf rt.envelopes (itemOf value "issued_at") "authorization issued_at"
  let expires ← utcTextOf rt.envelopes (itemOf value "expires_at") "authorization expires_at"
  if rt.envelopes.microseconds issued ≥ rt.envelopes.microseconds expires ∨
      rt.envelopes.microseconds expires - rt.envelopes.microseconds issued > hourMicroseconds then
    throw (contractError "artifact authorization freshness is invalid")
  return ⟨authorizationId, revision, hostId, jobId, operations, maxBytes, issued, expires⟩

structure RetentionPolicy where
  retentionClass : String
  retainUntil : String
  deriving DecidableEq

def RetentionPolicy.fromMapping (rt : ContractRuntime) (value : PyValue) : Except Failure RetentionPolicy := do
  closedFields rt value ["class", "retain_until"] "retention policy"
  let retentionClass ← requireIn ["EPHEMERAL", "PROJECT", "RELEASE", "LEGAL_HOLD"] (itemOf value "class")
    "unsupported retention class"
  let retainUntil ← utcTextOf rt.envelopes (itemOf value "retain_until") "retain_until"
  return ⟨retentionClass, retainUntil⟩

/-! ## Manifests -/

/-- A manifest: its scalar fields are whatever it was made of, and its parts were read. -/
structure ArtifactManifest where
  attributes : Attributes
  source : ArtifactSource
  destinationPolicy : DestinationPolicy
  authorization : ArtifactAuthorization
  retention : RetentionPolicy

namespace ArtifactManifest

/-- The fields that are not parts. -/
def scalarNames : List String :=
  ["schema_version", "manifest_id", "manifest_digest_algorithm", "manifest_sha256", "artifact_id", "content_id",
    "logical_name", "declared_filename", "byte_length", "sha256", "content_class", "privacy_class",
    "execution_class", "archive_class", "media_type_declared", "created_at"]

/-- `FIELDS`. -/
def fieldNames : List String := scalarNames ++ ["source", "destination_policy", "authorization", "retention"]

def contentClasses : List String :=
  ["SOURCE", "CONFIG", "LOG", "RECEIPT", "TEST_EVIDENCE", "DATASET", "MODEL_WEIGHT", "CHECKPOINT", "ARCHIVE",
    "USER_DOCUMENT", "OTHER", "UNKNOWN"]

def privacyClasses : List String := ["PUBLIC", "PROJECT", "PRIVATE", "SENSITIVE"]

def archiveClasses : List String := ["NOT_ARCHIVE", "ZIP", "TAR", "TAR_GZ", "UNKNOWN"]

def digestFields (rt : ContractRuntime) (m : ArtifactManifest) : List PyValue :=
  [m.attributes "schema_version", m.attributes "manifest_id", m.attributes "manifest_digest_algorithm",
    m.attributes "artifact_id", m.attributes "content_id", m.attributes "logical_name",
    m.attributes "declared_filename", strOf rt (m.attributes "byte_length"), m.attributes "sha256",
    m.attributes "content_class", m.attributes "privacy_class", m.attributes "execution_class",
    m.attributes "archive_class", m.attributes "media_type_declared", pyStr m.source.store, pyStr m.source.locator,
    pyStr m.source.immutableLocatorVersion, pyStr m.destinationPolicy.store,
    pyStr m.destinationPolicy.backendProfileId, pyStr m.destinationPolicy.backendProfileDigest,
    canonicalScalar rt (.bool m.destinationPolicy.remoteTransferEnabled), pyStr m.destinationPolicy.relativePath,
    pyStr m.authorization.authorizationId, strOf rt (.int m.authorization.revision),
    pyStr m.authorization.allowedHostId, pyStr m.authorization.allowedJobId,
    pyStr (",".intercalate m.authorization.allowedOperations), strOf rt (.int m.authorization.maxBytes),
    pyStr m.authorization.issuedAt, pyStr m.authorization.expiresAt, pyStr m.retention.retentionClass,
    pyStr m.retention.retainUntil, m.attributes "created_at"]

/-- What `computed_manifest_sha256` hashes. -/
def digestMaterial (rt : ContractRuntime) (m : ArtifactManifest) : Except Failure (List UInt8) :=
  domainMaterial (pyStr "VERA-PCCC-ARTIFACT-MANIFEST-V1") (m.digestFields rt)

def validate (rt : ContractRuntime) (m : ArtifactManifest) : Except Failure Unit := do
  requireIs (m.attributes "schema_version") "VERA_PCCC_ARTIFACT_MANIFEST_V1" "unsupported artifact manifest schema"
  requireIs (m.attributes "manifest_digest_algorithm") "SHA-256" "unsupported manifest digest algorithm"
  let _ ← uuidV7Of rt.envelopes.pccc (m.attributes "manifest_id") "manifest_id"
  let _ ← uuidV7Of rt.envelopes.pccc (m.attributes "artifact_id") "artifact_id"
  let _ ← sha256HexOf (m.attributes "manifest_sha256") "manifest_sha256"
  let _ ← boundedTextOf (m.attributes "logical_name") "logical_name" 256
  let _ ← safeBasenameOf (m.attributes "declared_filename") "declared_filename"
  let byteLength ← uintOf (m.attributes "byte_length") "byte_length" 0 maxArtifactBytes
  let digest ← sha256HexOf (m.attributes "sha256") "sha256"
  requireIs (m.attributes "content_id") s!"urn:sha256:{digest}:{byteLength}"
    "content_id does not bind SHA-256 and byte length"
  let _ ← requireIn contentClasses (m.attributes "content_class") "unsupported content_class"
  let _ ← requireIn privacyClasses (m.attributes "privacy_class") "unsupported privacy_class"
  requireIs (m.attributes "execution_class") "NON_EXECUTABLE" "phase one executable artifacts are denied"
  let _ ← requireIn archiveClasses (m.attributes "archive_class") "unsupported archive_class"
  let mediaType ← boundedTextOf (m.attributes "media_type_declared") "media_type_declared" 127
  if '/' ∉ mediaType.toList then
    throw (contractError "media_type_declared must be a MIME type")
  if m.authorization.maxBytes < byteLength then
    throw (contractError "authorization max_bytes is below byte_length")
  let created ← utcTextOf rt.envelopes (m.attributes "created_at") "created_at"
  let retainUntil ← utcTextOf rt.envelopes (pyStr m.retention.retainUntil) "retain_until"
  if rt.envelopes.microseconds retainUntil < rt.envelopes.microseconds created then
    throw (contractError "retain_until precedes created_at")
  let material ← m.digestMaterial rt
  requireIs (m.attributes "manifest_sha256") (rt.envelopes.pccc.sha256 material)
    "manifest_sha256 does not match canonical fields"

def fromMapping (rt : ContractRuntime) (value : PyValue) : Except Failure ArtifactManifest := do
  closedFields rt value fieldNames "artifact manifest"
  let source ← ArtifactSource.fromMapping rt (itemOf value "source")
  let destinationPolicy ← DestinationPolicy.fromMapping rt (itemOf value "destination_policy")
  let authorization ← ArtifactAuthorization.fromMapping rt (itemOf value "authorization")
  let retention ← RetentionPolicy.fromMapping rt (itemOf value "retention")
  let m : ArtifactManifest := ⟨itemOf value, source, destinationPolicy, authorization, retention⟩
  m.validate rt
  return m

end ArtifactManifest

end VeraMono
