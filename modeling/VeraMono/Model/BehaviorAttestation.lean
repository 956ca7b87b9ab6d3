import VeraMono.Model.SignedEvidence

/-!
# Behaviour attestations

`JsonFileBehaviorAttestationTransport` and `BehaviorAttestationStore`: the evidence that a
provider signed for a behaviour receipt, and the ledger of what was observed of it.
-/

namespace VeraMono

open SignedEvidence

namespace BehaviorAttestation

variable (R : EvidenceRuntime)

def attestationError (message : String) : Failure := ⟨.behaviorAttestationError, message⟩

/-- `_require_digest`. -/
def attestedDigest (value : PyValue) (label : String) : Except Failure Unit :=
  exactDigest R .behaviorAttestationError label value

def filledText (value : PyValue) (message : String) : Except Failure Unit :=
  requireFilled .behaviorAttestationError message value

/-- `BehaviorAttestationRequirement`. -/
structure Requirement where
  consumerId : Text
  probeId : Text
  declarationDigest : Text
  providerId : Text
  providerKeyId : Text
  providerKeyDigest : Text
  effectSubjectDigest : Option Text

def checkEffect (kind : PyValue) (claims : String) (effectId receiptDigest subjectDigest : PyValue) :
    Except Failure Unit := do
  if kind.equalsText (.valid "BEHAVIOR") then
    if ¬ (effectId.isNone ∧ receiptDigest.isNone ∧ subjectDigest.isNone) then
      throw (attestationError claims)
  else
    filledText effectId "EFFECT attestation requires external_effect_id"
    if receiptDigest.isNone then
      throw (attestationError "EFFECT attestation requires external_effect_receipt_digest")
    if subjectDigest.isNone then
      throw (attestationError "EFFECT attestation requires external_effect_subject_digest")
    attestedDigest R receiptDigest "external_effect_receipt_digest"
    attestedDigest R subjectDigest "external_effect_subject_digest"

/-! ## The signed subject -/

/-- `BehaviorAttestationSubject`. -/
structure Subject where
  consumerId : PyValue
  probeId : PyValue
  evidenceKind : PyValue
  declarationDigest : PyValue
  behaviorEffectReceiptDigest : PyValue
  processInstanceId : PyValue
  runtimeStateDigest : PyValue
  stimulusDigest : PyValue
  outcomeDigest : PyValue
  rawResponseDigest : String
  providerId : PyValue
  providerKeyId : PyValue
  providerKeyDigest : PyValue
  attestationNonce : PyValue
  externalEffectId : PyValue
  externalEffectReceiptDigest : Option String
  externalEffectSubjectDigest : PyValue

def optionalString (value : Option String) : PyValue := value.elim .none fun s => .str (.valid s)

namespace Subject

def validate (s : Subject) : Except Failure Unit := do
  filledText s.consumerId "consumer_id must be a non-empty exact string"
  filledText s.probeId "probe_id must be a non-empty exact string"
  filledText s.evidenceKind "evidence_kind must be a non-empty exact string"
  filledText s.processInstanceId "process_instance_id must be a non-empty exact string"
  filledText s.providerId "provider_id must be a non-empty exact string"
  filledText s.providerKeyId "provider_key_id must be a non-empty exact string"
  filledText s.attestationNonce "attestation_nonce must be a non-empty exact string"
  if ¬ (s.evidenceKind.equalsText (.valid "BEHAVIOR") ∨ s.evidenceKind.equalsText (.valid "EFFECT")) then
    let kind := R.py.repr s.evidenceKind
    throw (attestationError s!"unsupported behavior attestation kind: {kind}")
  attestedDigest R s.declarationDigest "declaration_digest"
  attestedDigest R s.behaviorEffectReceiptDigest "behavior_effect_receipt_digest"
  attestedDigest R s.runtimeStateDigest "runtime_state_digest"
  attestedDigest R s.stimulusDigest "stimulus_digest"
  attestedDigest R s.outcomeDigest "outcome_digest"
  attestedDigest R (.str (.valid s.rawResponseDigest)) "raw_response_digest"
  attestedDigest R s.providerKeyDigest "provider_key_digest"
  checkEffect R s.evidenceKind "BEHAVIOR attestation must not claim external effect evidence" s.externalEffectId
    (optionalString s.externalEffectReceiptDigest) s.externalEffectSubjectDigest

def canonicalBytes (s : Subject) : Except Failure ByteArray := do
  s.validate R
  canonicalJsonBytes R.py (StoredLedger.dictOf
    [("schema", .str (.valid "VERA_MONO_BEHAVIOR_ATTESTATION_SUBJECT_V1")), ("consumer_id", s.consumerId),
      ("probe_id", s.probeId), ("evidence_kind", s.evidenceKind), ("declaration_digest", s.declarationDigest),
      ("behavior_effect_receipt_digest", s.behaviorEffectReceiptDigest),
      ("process_instance_id", s.processInstanceId), ("runtime_state_digest", s.runtimeStateDigest),
      ("stimulus_digest", s.stimulusDigest), ("outcome_digest", s.outcomeDigest),
      ("raw_response_digest", .str (.valid s.rawResponseDigest)), ("provider_id", s.providerId),
      ("provider_key_id", s.providerKeyId), ("provider_key_digest", s.providerKeyDigest),
      ("attestation_nonce", s.attestationNonce), ("external_effect_id", s.externalEffectId),
      ("external_effect_receipt_digest", optionalString s.externalEffectReceiptDigest),
      ("external_effect_subject_digest", s.externalEffectSubjectDigest)])

end Subject

/-! ## The observation -/

/-- `BehaviorAttestationObservation`. -/
structure Observation where
  consumerId : Text
  probeId : Text
  available : Bool
  evidenceKind : PyValue := .none
  declarationDigest : PyValue := .none
  behaviorEffectReceiptDigest : PyValue := .none
  processInstanceId : PyValue := .none
  runtimeStateDigest : PyValue := .none
  stimulusDigest : PyValue := .none
  outcomeDigest : PyValue := .none
  rawResponseDigest : PyValue := .none
  providerId : PyValue := .none
  providerKeyId : PyValue := .none
  providerKeyDigest : PyValue := .none
  attestationNonce : PyValue := .none
  attestationSubjectDigest : PyValue := .none
  attestationSignature : PyValue := .none
  signatureValid : PyValue := .none
  externalEffectId : PyValue := .none
  externalEffectReceiptDigest : PyValue := .none
  externalEffectSubjectDigest : PyValue := .none
  externalEvidenceDigest : PyValue := .none
  evidenceRef : PyValue := .none

def availableDigest (value : PyValue) (label : String) : Except Failure Unit := do
  if value.isNone then throw (attestationError s!"{label} is required when attestation is available")
  attestedDigest R value label

namespace Observation

def observed (o : Observation) : List PyValue :=
  [o.evidenceKind, o.declarationDigest, o.behaviorEffectReceiptDigest, o.processInstanceId, o.runtimeStateDigest,
    o.stimulusDigest, o.outcomeDigest, o.rawResponseDigest, o.providerId, o.providerKeyId, o.providerKeyDigest,
    o.attestationNonce, o.attestationSubjectDigest, o.attestationSignature, o.signatureValid, o.externalEffectId,
    o.externalEffectReceiptDigest, o.externalEffectSubjectDigest, o.externalEvidenceDigest, o.evidenceRef]

def validateAvailable (o : Observation) : Except Failure Unit := do
  if ¬ (o.evidenceKind.equalsText (.valid "BEHAVIOR") ∨ o.evidenceKind.equalsText (.valid "EFFECT")) then
    throw (attestationError "available behavior attestation has unsupported evidence kind")
  filledText o.processInstanceId "process_instance_id must be non-empty when attestation is available"
  filledText o.providerId "provider_id must be non-empty when attestation is available"
  filledText o.providerKeyId "provider_key_id must be non-empty when attestation is available"
  filledText o.attestationNonce "attestation_nonce must be non-empty when attestation is available"
  filledText o.attestationSignature "attestation_signature must be non-empty when attestation is available"
  filledText o.evidenceRef "evidence_ref must be non-empty when attestation is available"
  if ¬ o.signatureValid.isBool then
    throw (attestationError "signature_valid must be boolean when attestation is available")
  availableDigest R o.declarationDigest "declaration_digest"
  availableDigest R o.behaviorEffectReceiptDigest "behavior_effect_receipt_digest"
  availableDigest R o.runtimeStateDigest "runtime_state_digest"
  availableDigest R o.stimulusDigest "stimulus_digest"
  availableDigest R o.outcomeDigest "outcome_digest"
  availableDigest R o.rawResponseDigest "raw_response_digest"
  availableDigest R o.providerKeyDigest "provider_key_digest"
  availableDigest R o.attestationSubjectDigest "attestation_subject_digest"
  availableDigest R o.externalEvidenceDigest "external_evidence_digest"
  checkEffect R o.evidenceKind "BEHAVIOR attestation cannot carry external effect fields" o.externalEffectId
    o.externalEffectReceiptDigest o.externalEffectSubjectDigest

def validate (o : Observation) : Except Failure Unit := do
  filledText (.str o.consumerId) "consumer_id must be a non-empty exact string"
  filledText (.str o.probeId) "probe_id must be a non-empty exact string"
  if ¬ o.available then
    if ¬ o.observed.all PyValue.isNone then
      throw (attestationError "unavailable behavior attestation cannot carry observed evidence")
  else o.validateAvailable R

end Observation

/-! ## The transport -/

/-- The constructor's arguments. -/
structure Transport where
  consumerId : Text
  file : EvidenceFile
  verifier : SignatureVerifier

def payloadFields : List String :=
  ["schema", "consumer_id", "probe_id", "evidence_kind", "declaration_digest", "behavior_effect_receipt_digest",
    "process_instance_id", "runtime_state_digest", "stimulus_digest", "outcome_digest", "raw_response_b64",
    "provider_id", "provider_key_id", "provider_key_digest", "attestation_nonce", "external_effect_id",
    "external_effect_receipt_b64", "external_effect_subject_digest", "signature"]

/-- The keys of an object are the given ones. -/
def hasKeys (payload : JsonObject) (keys : List String) : Bool :=
  (keys.all fun key => payload.any fun e => e.1.keyText = some (.valid key)) &&
    payload.all fun e => keys.any fun key => e.1.keyText = some (.valid key)

def decodeB64 (value : PyValue) (label : String) : Except Failure ByteArray := do
  filledText value s!"{label} must be non-empty base64 text"
  match b64Bytes R value with
  | some data => return data
  | none => throw (attestationError s!"{label} is not valid base64")

/-- What the file holds: the subject that was signed, and the signature. -/
structure Evidence where
  raw : FileBytes
  subject : Subject
  signature : PyValue

/-- The subject of a payload, and its signature. -/
def evidenceOf (raw : FileBytes) (payload : JsonObject) : Except Failure Evidence := do
  if ¬ (← payload.item "schema").equalsText (.valid "VERA_MONO_EXTERNAL_BEHAVIOR_ATTESTATION_V1") then
    throw (attestationError "unsupported external behavior attestation schema")
  let rawResponse ← decodeB64 R (← payload.item "raw_response_b64") "raw_response_b64"
  let effectReceipt ← payload.item "external_effect_receipt_b64"
  let effectReceiptDigest ← if effectReceipt.isNone then pure none
    else (decodeB64 R effectReceipt "external_effect_receipt_b64").map fun data => some (R.sha256 data)
  let subject : Subject := {
    consumerId := ← payload.item "consumer_id"
    probeId := ← payload.item "probe_id"
    evidenceKind := ← payload.item "evidence_kind"
    declarationDigest := ← payload.item "declaration_digest"
    behaviorEffectReceiptDigest := ← payload.item "behavior_effect_receipt_digest"
    processInstanceId := ← payload.item "process_instance_id"
    runtimeStateDigest := ← payload.item "runtime_state_digest"
    stimulusDigest := ← payload.item "stimulus_digest"
    outcomeDigest := ← payload.item "outcome_digest"
    rawResponseDigest := R.sha256 rawResponse
    providerId := ← payload.item "provider_id"
    providerKeyId := ← payload.item "provider_key_id"
    providerKeyDigest := ← payload.item "provider_key_digest"
    attestationNonce := ← payload.item "attestation_nonce"
    externalEffectId := ← payload.item "external_effect_id"
    externalEffectReceiptDigest := effectReceiptDigest
    externalEffectSubjectDigest := ← payload.item "external_effect_subject_digest" }
  subject.validate R
  return ⟨raw, subject, ← payload.item "signature"⟩

namespace Transport

/-- The part of `observe` that reads the file. -/
def evidence (t : Transport) : Except Failure (Option Evidence) := do
  match t.file.bytes with
  | none => return none
  | some raw =>
    match ← raw.loads R (attestationError "behavior attestation evidence is not valid UTF-8 JSON") with
    | .dict payload =>
      if ¬ hasKeys payload payloadFields then
        throw (attestationError "behavior attestation evidence field set mismatch")
      return some (← evidenceOf R raw payload)
    | _ => throw (attestationError "behavior attestation evidence field set mismatch")

def observation (t : Transport) (q : Requirement) (e : Evidence) : Except Failure Observation := do
  let s := e.subject
  let subject ← s.canonicalBytes R
  let valid ← t.verifier.verify subject e.signature
  let o : Observation := {
    consumerId := t.consumerId
    probeId := q.probeId
    available := true
    evidenceKind := s.evidenceKind
    declarationDigest := s.declarationDigest
    behaviorEffectReceiptDigest := s.behaviorEffectReceiptDigest
    processInstanceId := s.processInstanceId
    runtimeStateDigest := s.runtimeStateDigest
    stimulusDigest := s.stimulusDigest
    outcomeDigest := s.outcomeDigest
    rawResponseDigest := .str (.valid s.rawResponseDigest)
    providerId := s.providerId
    providerKeyId := s.providerKeyId
    providerKeyDigest := s.providerKeyDigest
    attestationNonce := s.attestationNonce
    attestationSubjectDigest := .str (.valid (R.sha256 subject))
    attestationSignature := e.signature
    signatureValid := .bool valid
    externalEffectId := s.externalEffectId
    externalEffectReceiptDigest := optionalString s.externalEffectReceiptDigest
    externalEffectSubjectDigest := s.externalEffectSubjectDigest
    externalEvidenceDigest := .str (.valid (e.raw.sha256 R))
    evidenceRef := .str t.file.path }
  o.validate R
  return o

/-- `observe`; the behaviour requirement and receipt that it is given are not used. -/
def observe (t : Transport) (q : Requirement) : Except Failure Observation := do
  if q.consumerId ≠ t.consumerId then
    throw (attestationError "behavior attestation transport consumer mismatch")
  if q.providerId ≠ t.verifier.actorId then
    throw (attestationError "behavior attestation verifier provider mismatch")
  if q.providerKeyId ≠ t.verifier.keyId then
    throw (attestationError "behavior attestation verifier key id mismatch")
  if q.providerKeyDigest ≠ t.verifier.keyDigest then
    throw (attestationError "behavior attestation verifier key digest mismatch")
  match ← t.evidence R with
  | none => return {
      consumerId := t.consumerId
      probeId := q.probeId
      available := false }
  | some e => t.observation R q e

end Transport

/-! ## The status -/

inductive AttestationStatus
  | pass | fail | unavailable
  deriving DecidableEq

def AttestationStatus.value : AttestationStatus → String
  | pass => "PASS"
  | fail => "FAIL"
  | unavailable => "UNAVAILABLE"

/-- What `_status` asks of the observed fields. -/
def agrees (q : Requirement) (behavior : BehaviorEffectRequirement) (receipt : BehaviorEffectReceipt)
    (o : Observation) : Bool :=
  o.evidenceKind.equalsText behavior.evidenceKind && o.declarationDigest.equalsText q.declarationDigest &&
    o.behaviorEffectReceiptDigest.equalsText receipt.receiptDigest &&
    o.processInstanceId.equalsOptional receipt.observedProcessInstanceId &&
    o.runtimeStateDigest.equalsOptional receipt.observedRuntimeStateDigest &&
    o.stimulusDigest.equalsOptional receipt.observedStimulusDigest &&
    o.outcomeDigest.equalsOptional receipt.observedOutcomeDigest &&
    o.stimulusDigest.equalsText behavior.expectedStimulusDigest &&
    o.outcomeDigest.equalsText behavior.expectedOutcomeDigest && o.providerId.equalsText q.providerId &&
    o.providerKeyId.equalsText q.providerKeyId && o.providerKeyDigest.equalsText q.providerKeyDigest &&
    o.signatureValid.isTrue && !o.rawResponseDigest.isNone && !o.attestationNonce.isNone &&
    !o.attestationSubjectDigest.isNone && !o.externalEvidenceDigest.isNone && !o.evidenceRef.isNone

/-- What `_status` asks of the effect fields. -/
def effectAgrees (q : Requirement) (behavior : BehaviorEffectRequirement) (receipt : BehaviorEffectReceipt)
    (o : Observation) : Bool :=
  if behavior.evidenceKind = .valid "BEHAVIOR" then
    q.effectSubjectDigest.isNone && o.externalEffectId.isNone && o.externalEffectReceiptDigest.isNone &&
      o.externalEffectSubjectDigest.isNone
  else
    q.effectSubjectDigest.isSome && o.externalEffectId.equalsOptional receipt.externalEffectId &&
      o.externalEffectReceiptDigest.equalsOptional receipt.externalEffectReceiptDigest &&
      o.externalEffectSubjectDigest.equalsOptional q.effectSubjectDigest

def status (q : Requirement) (behavior : BehaviorEffectRequirement) (receipt : BehaviorEffectReceipt)
    (o : Observation) : Except Failure AttestationStatus := do
  o.validate R
  if o.consumerId ≠ q.consumerId ∨ o.probeId ≠ q.probeId then
    throw (attestationError "behavior attestation observation identity mismatch")
  if ¬ o.available then return .unavailable
  if receipt.status ≠ .valid "PASS" ∨ receipt.consumerId ≠ q.consumerId ∨ receipt.probeId ≠ q.probeId ∨
      receipt.evidenceKind ≠ behavior.evidenceKind then
    return .fail
  if ¬ agrees q behavior receipt o then return .fail
  if ¬ effectAgrees q behavior receipt o then return .fail
  return .pass

/-! ## The store -/

structure AttestationRow where
  sequence : Nat
  taskId : Text
  consumerId : Text
  probeId : Text
  providerId : Text
  providerKeyId : Text
  attestationNonce : Option Text
  receiptDigest : String
  predecessorDigest : String
  payloadJson : String

/-- The table and the rows `sequence` and `head` of `meta`. -/
structure AttestationStore where
  rows : List AttestationRow
  sequence : Nat
  head : String

/-- A new store. -/
def AttestationStore.empty : AttestationStore :=
  ⟨[], 0, R.sha256Text "vera-mono-behavior-attestation-genesis-v1"⟩

structure AppendArgs where
  taskId : Text
  packetDigest : Text
  requirement : Requirement
  behavior : BehaviorEffectRequirement
  receipt : BehaviorEffectReceipt
  observation : Observation

/-- The payload that `append` hashes and stores. -/
def AppendArgs.payload (a : AppendArgs) (status : AttestationStatus) (sequence : Nat) (predecessor : String) :
    PyValue :=
  let q := a.requirement
  let o := a.observation
  StoredLedger.dictOf
    [("schema", .str (.valid "VERA_MONO_BEHAVIOR_ATTESTATION_V1")), ("sequence", .int sequence),
      ("task_id", .str a.taskId), ("packet_digest", .str a.packetDigest), ("consumer_id", .str q.consumerId),
      ("probe_id", .str q.probeId), ("evidence_kind", .str a.behavior.evidenceKind),
      ("expected_declaration_digest", .str q.declarationDigest), ("expected_provider_id", .str q.providerId),
      ("expected_provider_key_id", .str q.providerKeyId),
      ("expected_provider_key_digest", .str q.providerKeyDigest),
      ("expected_effect_subject_digest", .ofText q.effectSubjectDigest),
      ("behavior_effect_receipt_digest", .str a.receipt.receiptDigest),
      ("observed_behavior_effect_receipt_digest", o.behaviorEffectReceiptDigest),
      ("observed_declaration_digest", o.declarationDigest),
      ("observed_process_instance_id", o.processInstanceId),
      ("observed_runtime_state_digest", o.runtimeStateDigest), ("observed_stimulus_digest", o.stimulusDigest),
      ("observed_outcome_digest", o.outcomeDigest), ("observed_raw_response_digest", o.rawResponseDigest),
      ("observed_provider_id", o.providerId), ("observed_provider_key_id", o.providerKeyId),
      ("observed_provider_key_digest", o.providerKeyDigest),
      ("observed_attestation_nonce", o.attestationNonce),
      ("observed_attestation_subject_digest", o.attestationSubjectDigest),
      ("observed_attestation_signature", o.attestationSignature), ("observed_signature_valid", o.signatureValid),
      ("observed_external_effect_id", o.externalEffectId),
      ("observed_external_effect_receipt_digest", o.externalEffectReceiptDigest),
      ("observed_external_effect_subject_digest", o.externalEffectSubjectDigest),
      ("observed_external_evidence_digest", o.externalEvidenceDigest), ("evidence_ref", o.evidenceRef),
      ("status", .str (.valid status.value)), ("predecessor_digest", .str (.valid predecessor))]

def nonceColumn (nonce : PyValue) : Option Text := nonce.keyText

/-- A row of the provider's key with the nonce. -/
def AttestationRow.uses (row : AttestationRow) (providerId providerKeyId nonce : Text) : Bool :=
  row.providerId = providerId && row.providerKeyId = providerKeyId && row.attestationNonce = some nonce

/-- The transaction of `append`, which leaves the store as it is where it raises. -/
def appendRow (a : AppendArgs) (status : AttestationStatus) (s : AttestationStore) :
    Except Failure (AttestationRow × AttestationStore) := do
  let q := a.requirement
  let nonce := nonceColumn a.observation.attestationNonce
  if nonce.any fun n => s.rows.any fun row => row.uses q.providerId q.providerKeyId n then
    throw (attestationError "behavior attestation nonce replay detected")
  let payload := a.payload status (s.sequence + 1) s.head
  let digest := R.sha256 (← canonicalJsonBytes R.py payload)
  let text ← canonicalJson R.py payload
  -- the constraints of the table
  if s.rows.any fun row => row.sequence = s.sequence + 1 then
    throw ⟨.integrityError, "attestations.sequence"⟩
  if s.rows.any fun row => row.receiptDigest = digest then
    throw ⟨.integrityError, "attestations.receipt_digest"⟩
  if nonce.any fun n => s.rows.any fun row => row.uses q.providerId q.providerKeyId n then
    throw ⟨.integrityError, "attestations.provider_id, attestations.provider_key_id, attestations.attestation_nonce"⟩
  let row : AttestationRow :=
    ⟨s.sequence + 1, a.taskId, q.consumerId, q.probeId, q.providerId, q.providerKeyId, nonce, digest, s.head, text⟩
  return (row, ⟨s.rows ++ [row], s.sequence + 1, digest⟩)

def append (a : AppendArgs) (s : AttestationStore) : Except Failure (AttestationRow × AttestationStore) := do
  filledText (.str a.taskId) "task_id must be non-empty"
  attestedDigest R (.str a.packetDigest) "packet_digest"
  let status ← status R a.requirement a.behavior a.receipt a.observation
  appendRow R a status s

/-- The stores that any number of writers reach: a transaction takes place as a whole, and one
that raises or is aborted leaves the store as it is. -/
inductive AttestationStore.Reachable : AttestationStore → Prop
  | empty : AttestationStore.Reachable (.empty R)
  | append {s s' : AttestationStore} {a : AppendArgs} {row : AttestationRow} :
      AttestationStore.Reachable s → append R a s = .ok (row, s') → AttestationStore.Reachable s'

end BehaviorAttestation

end VeraMono
