import VeraMono.Model.EvidenceGraph
import VeraMono.Model.PcEnvelopes

/-!
# PC contracts

The closed contracts of the PC connection as they meet values of any type: `closed_fields` and the
checks of `validation.py`, `encode_text_tuple` of `canonical.py`, the envelopes of `envelopes.py`
as objects whose attributes are whatever they were made of, and the artifact manifests of
`artifacts.py`, whose parts are read by their own `from_mapping`.
-/

namespace VeraMono

open Framework
open EvidenceGraph (inTexts)

/-- What the contracts take from Python beside the envelopes: `str` of a value that is neither a
text nor an integer, and the `repr` of the sorted keys of a mapping. -/
structure ContractRuntime where
  envelopes : EnvelopeRuntime
  str : PyValue → Text
  sortedRepr : List PyValue → Except Failure String

abbrev Attributes := String → PyValue

/-! ## Text tuples -/

/-- `UnicodeEncodeError`, which is a `ValueError`. -/
def encodeError : Failure := ⟨.valueError, "'utf-8' codec can't encode characters: surrogates not allowed"⟩

def encodeText : Text → Except Failure String
  | .valid s => .ok s
  | .surrogates _ => .error encodeError

/-- The first loop of `encode_text_tuple`, from the field of an index on. -/
def fieldTexts : Nat → List PyValue → Except Failure (List Text)
  | _, [] => .ok []
  | index, .str t :: fields => (fieldTexts (index + 1) fields).map (t :: ·)
  | index, _ :: _ => .error ⟨.typeError, s!"field {index} must be str"⟩

/-- `encode_text_tuple`. -/
def encodeFields (fields : List PyValue) : Except Failure (List UInt8) := do
  let texts ← fieldTexts 0 fields
  let encoded ← texts.mapM encodeText
  return encodeTextTuple encoded

/-- What `sha256_domain_text_tuple` hashes. -/
def domainMaterial (domain : PyValue) (fields : List PyValue) : Except Failure (List UInt8) := do
  match domain with
  | .str t =>
    if t.codePoints = [] ∨ '\n'.toNat ∈ t.codePoints ∨ '\r'.toNat ∈ t.codePoints then
      throw ⟨.valueError, "domain must be a nonempty single-line string"⟩
    let encoded ← encodeText t
    let tuple ← encodeFields fields
    return utf8 (encoded ++ "\n") ++ tuple
  | _ => throw ⟨.valueError, "domain must be a nonempty single-line string"⟩

/-! ## Checks of values -/

/-- A check of a text, asked of a value: what is no text fails with `other`, what has no encoding
with `surrogates`. -/
def checkText (check : String → Except Failure Unit) (other surrogates : Failure) :
    PyValue → Except Failure String
  | .str (.valid s) => do
    check s
    return s
  | .str (.surrogates _) => .error surrogates
  | _ => .error other

/-- `uuid_v7`. -/
def uuidV7Of (rt : PcccRuntime) (value : PyValue) (field : String) : Except Failure String :=
  checkText (uuidV7 rt · field) (contractError s!"{field} must be a UUIDv7 string")
    (contractError s!"{field} must be UUIDv7") value

/-- `bounded_text`. -/
def boundedTextOf (value : PyValue) (field : String) (maximum : Nat) : Except Failure String :=
  checkText (boundedText · field maximum) (contractError s!"{field} must be bounded UTF-8 text") encodeError value

/-- `sha256_hex`. -/
def sha256HexOf (value : PyValue) (field : String) : Except Failure String :=
  checkText (sha256Hex · field) (contractError s!"{field} must be lowercase SHA-256 hex")
    (contractError s!"{field} must be lowercase SHA-256 hex") value

/-- `semver`. -/
def semverOf (value : PyValue) (field : String) : Except Failure String :=
  checkText (semver · field) (contractError s!"{field} must be semantic version text")
    (contractError s!"{field} must be semantic version text") value

/-- The text that `utc_microseconds` reads. -/
def utcTextOf (rt : EnvelopeRuntime) (value : PyValue) (field : String) : Except Failure String :=
  checkText (utcMicroseconds rt.pccc · field)
    (contractError s!"{field} must use UTC RFC3339 with exactly six fractional digits")
    (contractError s!"{field} must use UTC RFC3339 with exactly six fractional digits") value

/-- `uint`. -/
def uintOf (value : PyValue) (field : String) (minimum maximum : Int) : Except Failure Int :=
  match value with
  | .int i => do
    uint i field minimum maximum
    return i
  | _ => .error (contractError s!"{field} must be an integer")

def reservedWindowsNames : List String :=
  ["CON", "PRN", "AUX", "NUL"] ++ (List.range' 1 9).map (s!"COM{·}") ++ (List.range' 1 9).map (s!"LPT{·}")

/-- `_SAFE_BASENAME`. -/
def isSafeBasename (c : Char) : Bool := c ∉ "<>:\"/\\|?*".toList && 32 ≤ c.toNat

/-- `safe_basename`. Only ASCII letters have the letters of a reserved name as their upper case. -/
def safeBasename (value field : String) : Except Failure Unit := do
  if value = "" ∨ value = "." ∨ value = ".." ∨ (utf8 value).length > 255 ∨
      ¬ value.toList.all isSafeBasename ∨ value.toList.getLast? = some ' ' ∨ value.toList.getLast? = some '.' then
    throw (contractError s!"{field} must be a safe Windows basename")
  if (String.ofList (value.toList.takeWhile (· ≠ '.'))).toUpper ∈ reservedWindowsNames then
    throw (contractError s!"{field} uses a reserved Windows device name")

def safeBasenameOf (value : PyValue) (field : String) : Except Failure String :=
  checkText (safeBasename · field) (contractError s!"{field} must be a safe Windows basename") encodeError value

/-- A value that must be the text given. -/
def requireIs (value : PyValue) (text message : String) : Except Failure Unit :=
  if value.isText text then .ok () else .error (contractError message)

/-- A value that must be one of the texts given. -/
def requireIn (texts : List String) (value : PyValue) (message : String) : Except Failure String := do
  let _ ← inTexts texts value
  match texts.find? fun text => value.isText text with
  | some text => return text
  | none => throw (contractError message)

/-- `_validate_operation_scope`. -/
def validateOperationScopeOf (operation writeRootId artifactManifestDigest : PyValue) : Except Failure Unit := do
  if ¬ (← inTexts (phaseOneOperations ++ remoteTransferOperations) operation) then
    throw (contractError "operation is not recognized by phase one")
  if ← inTexts remoteTransferOperations operation then
    throw (contractError "EXEC_OPERATION_DENIED")
  if ¬ (← inTexts phaseOneOperations operation) then
    throw (contractError "operation is not enabled in phase one")
  if ¬ writeRootId.isText "NONE" then
    throw (contractError "enabled phase-one operations require write_root_id NONE")
  if ¬ artifactManifestDigest.isText zeroSha256 then
    throw (contractError "enabled phase-one operations require no artifact manifest")

/-- `str`. -/
def strOf (rt : ContractRuntime) : PyValue → PyValue
  | .str t => .str t
  | .int i => pyStr (toString i)
  | value => .str (rt.str value)

def canonicalScalar (rt : ContractRuntime) : PyValue → PyValue
  | .bool true => pyStr "true"
  | .bool false => pyStr "false"
  | value => strOf rt value

/-! ## Closed mappings -/

/-- The value of a mapping under a key. -/
def itemOf (value : PyValue) (key : String) : PyValue :=
  match value with
  | .dict entries => ((entries.find? fun entry => entry.1.isText key).map Prod.snd).getD .none
  | _ => .none

/-- `closed_fields` without optional fields. -/
def closedFields (rt : ContractRuntime) (value : PyValue) (required : List String) (contract : String) :
    Except Failure Unit := do
  match value with
  | .dict entries =>
    let missing := required.filter fun field => entries.all fun entry => !entry.1.isText field
    let unknown := (entries.map Prod.fst).filter fun key => required.all fun field => !key.isText field
    let unknownText ← if unknown.isEmpty then pure "" else rt.sortedRepr unknown
    if missing ≠ [] then
      let missingText ← rt.sortedRepr (missing.map pyStr)
      throw (contractError s!"{contract} missing fields: {missingText}")
    if ¬ unknown.isEmpty then
      throw (contractError s!"{contract} unknown fields: {unknownText}")
  | _ => throw (contractError s!"{contract} must be an object")

/-! ## Envelopes -/

namespace JobEnvelope

/-- `FIELDS`. -/
def fieldNames : List String :=
  ["schema_version", "envelope_id", "request_id", "idempotency_key", "project_id", "requester_principal_id",
    "requester_principal_type", "host_id", "operation_id", "operation_version", "parameters_digest",
    "artifact_manifest_digest", "read_roots_digest", "write_root_id", "authorization_id", "authorization_revision",
    "not_before", "expires_at", "timeout_seconds", "max_attempts", "lease_ttl_seconds", "retry_class",
    "protocol_min_version", "agent_min_version", "required_local_policy_digest", "required_capability_digest",
    "issuer_revocation_epoch", "host_revocation_epoch", "nonce", "trace_correlation_id"]

def validateObject (rt : EnvelopeRuntime) (self : Attributes) : Except Failure Unit := do
  requireIs (self "schema_version") "VERA_PCCC_JOB_V1" "unsupported job schema"
  let _ ← ["envelope_id", "request_id", "host_id", "authorization_id", "nonce", "trace_correlation_id"].mapM
    fun field => uuidV7Of rt.pccc (self field) field
  let _ ← boundedTextOf (self "idempotency_key") "idempotency_key" 256
  let _ ← boundedTextOf (self "project_id") "project_id" 256
  let _ ← boundedTextOf (self "requester_principal_id") "requester_principal_id" 256
  let _ ← requireIn ["USER", "SERVICE", "CONNECTOR"] (self "requester_principal_type") "unsupported requester_principal_type"
  let _ ← uintOf (self "operation_version") "operation_version" 1 uint32Max
  let _ ← ["parameters_digest", "artifact_manifest_digest", "read_roots_digest", "required_local_policy_digest",
    "required_capability_digest"].mapM fun field => sha256HexOf (self field) field
  validateOperationScopeOf (self "operation_id") (self "write_root_id") (self "artifact_manifest_digest")
  let _ ← uintOf (self "authorization_revision") "authorization_revision" 1 uint64Max
  let notBefore ← utcTextOf rt (self "not_before") "not_before"
  let expires ← utcTextOf rt (self "expires_at") "expires_at"
  if rt.microseconds notBefore ≥ rt.microseconds expires ∨
      rt.microseconds expires - rt.microseconds notBefore > hourMicroseconds then
    throw (contractError "job freshness window is invalid")
  let _ ← uintOf (self "timeout_seconds") "timeout_seconds" 1 3600
  let _ ← uintOf (self "max_attempts") "max_attempts" 1 5
  let _ ← uintOf (self "lease_ttl_seconds") "lease_ttl_seconds" 30 300
  let _ ← requireIn ["PURE_READ", "CONTENT_ADDRESSED_WRITE", "AT_MOST_ONCE"] (self "retry_class") "unsupported retry_class"
  let _ ← semverOf (self "protocol_min_version") "protocol_min_version"
  let _ ← semverOf (self "agent_min_version") "agent_min_version"
  let _ ← uintOf (self "issuer_revocation_epoch") "issuer_revocation_epoch" 0 uint64Max
  let _ ← uintOf (self "host_revocation_epoch") "host_revocation_epoch" 0 uint64Max

def fromMapping (rt : ContractRuntime) (value : PyValue) : Except Failure Attributes := do
  closedFields rt value fieldNames "job envelope"
  validateObject rt.envelopes (itemOf value)
  return itemOf value

def digestMaterial (rt : ContractRuntime) (self : Attributes) : Except Failure (List UInt8) := do
  validateObject rt.envelopes self
  domainMaterial (pyStr "VERA-PCCC-JOB-V1") (fieldNames.map fun field => canonicalScalar rt (self field))

end JobEnvelope

namespace AuthorizationEnvelope

/-- `FIELDS`. -/
def fieldNames : List String :=
  ["schema_version", "envelope_id", "job_id", "issuer_id", "subject_user_id", "host_id", "operation",
    "operation_version", "parameters_digest", "artifact_manifest_digest", "read_roots_digest", "write_root_id",
    "authorization_id", "authorization_revision", "issued_at", "not_before", "expires_at", "nonce", "max_attempts",
    "lease_ttl_seconds", "protocol_min_version", "agent_min_version", "issuer_revocation_epoch",
    "host_revocation_epoch"]

def validateObject (rt : EnvelopeRuntime) (self : Attributes) : Except Failure Unit := do
  requireIs (self "schema_version") "VERA_PCCC_AUTHORIZATION_V1" "unsupported authorization schema"
  let _ ← ["envelope_id", "job_id", "host_id", "authorization_id", "nonce"].mapM
    fun field => uuidV7Of rt.pccc (self field) field
  let _ ← boundedTextOf (self "issuer_id") "issuer_id" 128
  let _ ← boundedTextOf (self "subject_user_id") "subject_user_id" 128
  let _ ← uintOf (self "operation_version") "operation_version" 1 uint32Max
  let _ ← ["parameters_digest", "artifact_manifest_digest", "read_roots_digest"].mapM
    fun field => sha256HexOf (self field) field
  validateOperationScopeOf (self "operation") (self "write_root_id") (self "artifact_manifest_digest")
  let _ ← uintOf (self "authorization_revision") "authorization_revision" 1 uint64Max
  let issued ← utcTextOf rt (self "issued_at") "issued_at"
  let notBefore ← utcTextOf rt (self "not_before") "not_before"
  let expires ← utcTextOf rt (self "expires_at") "expires_at"
  if ¬ (rt.microseconds issued ≤ rt.microseconds notBefore ∧ rt.microseconds notBefore < rt.microseconds expires) then
    throw (contractError "timestamps must satisfy issued_at <= not_before < expires_at")
  if rt.microseconds expires - rt.microseconds notBefore > hourMicroseconds then
    throw (contractError "authorization window exceeds one hour")
  let _ ← uintOf (self "max_attempts") "max_attempts" 1 5
  let _ ← uintOf (self "lease_ttl_seconds") "lease_ttl_seconds" 30 300
  let _ ← semverOf (self "protocol_min_version") "protocol_min_version"
  let _ ← semverOf (self "agent_min_version") "agent_min_version"
  let _ ← uintOf (self "issuer_revocation_epoch") "issuer_revocation_epoch" 0 uint64Max
  let _ ← uintOf (self "host_revocation_epoch") "host_revocation_epoch" 0 uint64Max

def fromMapping (rt : ContractRuntime) (value : PyValue) : Except Failure Attributes := do
  closedFields rt value fieldNames "authorization envelope"
  validateObject rt.envelopes (itemOf value)
  return itemOf value

def digestMaterial (rt : ContractRuntime) (self : Attributes) : Except Failure (List UInt8) := do
  validateObject rt.envelopes self
  domainMaterial (pyStr "VERA-PCCC-AUTHORIZATION-V1")
    (fieldNames.map fun field => canonicalScalar rt (self field))

end AuthorizationEnvelope

end VeraMono
