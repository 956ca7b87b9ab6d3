import VeraMono.Model.SignedEvidence

/-!
# Independent behaviour review

`JsonFileIndependentBehaviorReviewTransport` and the status that
`IndependentBehaviorReviewStore` gives what it observed: a subject that a review authority
signed, and a review that an evaluator signed.
-/

namespace VeraMono

open SignedEvidence

namespace IndependentReview

variable (R : EvidenceRuntime)

def reviewError (message : String) : Failure := ⟨.independentBehaviorReviewError, message⟩

def digest (value : PyValue) (label : String) : Except Failure Unit :=
  exactDigest R .independentBehaviorReviewError label value

def text (value : PyValue) (label : String) : Except Failure Unit :=
  requireFilled .independentBehaviorReviewError s!"{label} must be a non-empty exact string" value

/-! ## The requirement -/

/-- `IndependentBehaviorReviewRequirement`. -/
structure Requirement where
  consumerId : Text
  probeId : Text
  reviewId : Text
  subjectActorId : Text
  declarationDigest : Text
  heldOutProbeSetDigest : Text
  probeCuratorId : Text
  evaluatorId : Text
  evaluatorKeyId : Text
  evaluatorKeyDigest : Text
  authorityId : Text
  authorityKeyId : Text
  authorityKeyDigest : Text

def Requirement.validate (requirement : Requirement) : Except Failure Unit := do
  text (.str requirement.consumerId) "consumer_id"
  text (.str requirement.probeId) "probe_id"
  text (.str requirement.reviewId) "review_id"
  text (.str requirement.subjectActorId) "subject_actor_id"
  text (.str requirement.probeCuratorId) "probe_curator_id"
  text (.str requirement.evaluatorId) "evaluator_id"
  text (.str requirement.evaluatorKeyId) "evaluator_key_id"
  text (.str requirement.authorityId) "authority_id"
  text (.str requirement.authorityKeyId) "authority_key_id"
  digest R (.str requirement.declarationDigest) "declaration_digest"
  digest R (.str requirement.heldOutProbeSetDigest) "held_out_probe_set_digest"
  digest R (.str requirement.evaluatorKeyDigest) "evaluator_key_digest"
  digest R (.str requirement.authorityKeyDigest) "authority_key_digest"
  if ¬ [requirement.subjectActorId, requirement.probeCuratorId, requirement.evaluatorId,
      requirement.authorityId].Nodup then
    throw (reviewError
      "independent review requires distinct subject, probe curator, evaluator, and authority actors")

/-! ## The signed subjects -/

/-- `IndependentReviewAuthoritySubject`. -/
structure AuthoritySubject where
  reviewId : PyValue
  subjectActorId : PyValue
  heldOutProbeSetDigest : PyValue
  probeCuratorId : PyValue
  evaluatorId : PyValue
  evaluatorKeyId : PyValue
  evaluatorKeyDigest : PyValue
  authorityId : PyValue
  authorityKeyId : PyValue
  authorityKeyDigest : PyValue
  evaluatorCurrentnessDigest : PyValue
  operationallySeparate : PyValue
  current : PyValue
  authorityNonce : PyValue

/-- What a value of a JSON document is as a member of a set: equal numbers are one member. -/
inductive Member
  | none
  | number (value : Option Rat)
  | text (t : Text)
  deriving DecidableEq

/-- `hash` of a value of a JSON document. -/
def member : PyValue → Except Failure Member
  | .none => .ok .none
  | .bool b => .ok (.number (some (if b then 1 else 0)))
  | .int i => .ok (.number (some i))
  | .float value => .ok (.number value)
  | .str t => .ok (.text t)
  | .list _ => .error ⟨.typeError, "unhashable type: 'list'"⟩
  | .dict _ => .error ⟨.typeError, "unhashable type: 'dict'"⟩
  | _ => .error ⟨.typeError, "unhashable type"⟩

namespace AuthoritySubject

def canonicalBody (a : AuthoritySubject) : PyValue := StoredLedger.dictOf
  [("schema", .str (.valid "VERA_MONO_INDEPENDENT_REVIEW_AUTHORITY_SUBJECT_V1")), ("review_id", a.reviewId),
    ("subject_actor_id", a.subjectActorId), ("held_out_probe_set_digest", a.heldOutProbeSetDigest),
    ("probe_curator_id", a.probeCuratorId), ("evaluator_id", a.evaluatorId),
    ("evaluator_key_id", a.evaluatorKeyId), ("evaluator_key_digest", a.evaluatorKeyDigest),
    ("authority_id", a.authorityId), ("authority_key_id", a.authorityKeyId),
    ("authority_key_digest", a.authorityKeyDigest),
    ("evaluator_currentness_digest", a.evaluatorCurrentnessDigest),
    ("operationally_separate", a.operationallySeparate), ("current", a.current),
    ("authority_nonce", a.authorityNonce)]

def canonicalBytes (a : AuthoritySubject) : Except Failure ByteArray := do
  let actors ← sequence [member a.subjectActorId, member a.probeCuratorId, member a.evaluatorId,
    member a.authorityId]
  if ¬ actors.Nodup then
    throw (reviewError "independent review authority roles must be distinct")
  digest R a.heldOutProbeSetDigest "authority digest"
  digest R a.evaluatorKeyDigest "authority digest"
  digest R a.authorityKeyDigest "authority digest"
  digest R a.evaluatorCurrentnessDigest "authority digest"
  if ¬ a.current.isBool ∨ ¬ a.operationallySeparate.isBool then
    throw (reviewError "authority current/separation flags must be boolean")
  canonicalJsonBytes R.py a.canonicalBody

def ofDocument (authority : JsonObject) : Except Failure AuthoritySubject := do
  return {
    reviewId := ← authority.item "review_id"
    subjectActorId := ← authority.item "subject_actor_id"
    heldOutProbeSetDigest := ← authority.item "held_out_probe_set_digest"
    probeCuratorId := ← authority.item "probe_curator_id"
    evaluatorId := ← authority.item "evaluator_id"
    evaluatorKeyId := ← authority.item "evaluator_key_id"
    evaluatorKeyDigest := ← authority.item "evaluator_key_digest"
    authorityId := ← authority.item "authority_id"
    authorityKeyId := ← authority.item "authority_key_id"
    authorityKeyDigest := ← authority.item "authority_key_digest"
    evaluatorCurrentnessDigest := ← authority.item "evaluator_currentness_digest"
    operationallySeparate := ← authority.item "operationally_separate"
    current := ← authority.item "current"
    authorityNonce := ← authority.item "authority_nonce" }

end AuthoritySubject

/-- `IndependentBehaviorReviewSubject`. -/
structure ReviewSubject where
  consumerId : PyValue
  probeId : PyValue
  reviewId : PyValue
  declarationDigest : PyValue
  heldOutProbeSetDigest : PyValue
  probeCuratorId : PyValue
  behaviorEffectReceiptDigest : PyValue
  processInstanceId : PyValue
  runtimeStateDigest : PyValue
  stimulusDigest : PyValue
  outcomeDigest : PyValue
  evaluatorId : PyValue
  evaluatorKeyId : PyValue
  evaluatorKeyDigest : PyValue
  evaluatorCurrentnessDigest : PyValue
  authoritySubjectDigest : PyValue
  authorityEvidenceDigest : PyValue
  reviewNonce : PyValue
  verdict : PyValue
  resultDigest : String
  resultReceiptDigest : String
  reviewProvenanceDigest : String

def b64 (value : PyValue) (label : String) : Except Failure ByteArray :=
  match b64Bytes R value with
  | some data => .ok data
  | none => .error (reviewError s!"{label} is not valid base64")

namespace ReviewSubject

def canonicalBody (r : ReviewSubject) : PyValue := StoredLedger.dictOf
  [("schema", .str (.valid "VERA_MONO_INDEPENDENT_BEHAVIOR_REVIEW_SUBJECT_V1")),
    ("consumer_id", r.consumerId), ("probe_id", r.probeId), ("review_id", r.reviewId),
    ("declaration_digest", r.declarationDigest), ("held_out_probe_set_digest", r.heldOutProbeSetDigest),
    ("probe_curator_id", r.probeCuratorId),
    ("behavior_effect_receipt_digest", r.behaviorEffectReceiptDigest),
    ("process_instance_id", r.processInstanceId), ("runtime_state_digest", r.runtimeStateDigest),
    ("stimulus_digest", r.stimulusDigest), ("outcome_digest", r.outcomeDigest),
    ("evaluator_id", r.evaluatorId), ("evaluator_key_id", r.evaluatorKeyId),
    ("evaluator_key_digest", r.evaluatorKeyDigest),
    ("evaluator_currentness_digest", r.evaluatorCurrentnessDigest),
    ("authority_subject_digest", r.authoritySubjectDigest),
    ("authority_evidence_digest", r.authorityEvidenceDigest), ("review_nonce", r.reviewNonce),
    ("verdict", r.verdict), ("result_digest", .str (.valid r.resultDigest)),
    ("result_receipt_digest", .str (.valid r.resultReceiptDigest)),
    ("review_provenance_digest", .str (.valid r.reviewProvenanceDigest))]

def canonicalBytes (r : ReviewSubject) : Except Failure ByteArray := do
  [r.declarationDigest, r.heldOutProbeSetDigest, r.behaviorEffectReceiptDigest, r.runtimeStateDigest,
    r.stimulusDigest, r.outcomeDigest, r.evaluatorKeyDigest, r.evaluatorCurrentnessDigest,
    r.authoritySubjectDigest, r.authorityEvidenceDigest, .str (.valid r.resultDigest),
    .str (.valid r.resultReceiptDigest), .str (.valid r.reviewProvenanceDigest)].forM
      fun value => digest R value "review digest"
  canonicalJsonBytes R.py r.canonicalBody

def ofDocument (review : JsonObject) : Except Failure ReviewSubject := do
  let provenance ← match ← review.item "provenance" with
    | .dict entries => pure (PyValue.dict entries)
    | _ => throw (reviewError "review provenance must be an object")
  return {
    consumerId := ← review.item "consumer_id"
    probeId := ← review.item "probe_id"
    reviewId := ← review.item "review_id"
    declarationDigest := ← review.item "declaration_digest"
    heldOutProbeSetDigest := ← review.item "held_out_probe_set_digest"
    probeCuratorId := ← review.item "probe_curator_id"
    behaviorEffectReceiptDigest := ← review.item "behavior_effect_receipt_digest"
    processInstanceId := ← review.item "process_instance_id"
    runtimeStateDigest := ← review.item "runtime_state_digest"
    stimulusDigest := ← review.item "stimulus_digest"
    outcomeDigest := ← review.item "outcome_digest"
    evaluatorId := ← review.item "evaluator_id"
    evaluatorKeyId := ← review.item "evaluator_key_id"
    evaluatorKeyDigest := ← review.item "evaluator_key_digest"
    evaluatorCurrentnessDigest := ← review.item "evaluator_currentness_digest"
    authoritySubjectDigest := ← review.item "authority_subject_digest"
    authorityEvidenceDigest := ← review.item "authority_evidence_digest"
    reviewNonce := ← review.item "review_nonce"
    verdict := ← review.item "verdict"
    resultDigest := R.sha256 (← b64 R (← review.item "result_b64") "result_b64")
    resultReceiptDigest := R.sha256 (← b64 R (← review.item "result_receipt_b64") "result_receipt_b64")
    reviewProvenanceDigest := R.sha256 (← canonicalJsonBytes R.py provenance) }

end ReviewSubject

/-! ## The transport -/

/-- The constructor's arguments. -/
structure Transport where
  consumerId : Text
  reviewId : Text
  authorityFile : EvidenceFile
  reviewFile : EvidenceFile
  authorityVerifier : SignatureVerifier
  evaluatorVerifier : SignatureVerifier

/-- `IndependentBehaviorReviewObservation`. -/
structure Observation where
  consumerId : Text
  probeId : Text
  reviewId : Text
  available : Bool
  authorityCurrent : PyValue := .none
  operationallySeparate : PyValue := .none
  subjectActorId : PyValue := .none
  declarationDigest : PyValue := .none
  heldOutProbeSetDigest : PyValue := .none
  probeCuratorId : PyValue := .none
  behaviorEffectReceiptDigest : PyValue := .none
  processInstanceId : PyValue := .none
  runtimeStateDigest : PyValue := .none
  stimulusDigest : PyValue := .none
  outcomeDigest : PyValue := .none
  evaluatorId : PyValue := .none
  evaluatorKeyId : PyValue := .none
  evaluatorKeyDigest : PyValue := .none
  evaluatorCurrentnessDigest : PyValue := .none
  authorityId : PyValue := .none
  authorityKeyId : PyValue := .none
  authorityKeyDigest : PyValue := .none
  authorityNonce : PyValue := .none
  authoritySubjectDigest : Option String := none
  authoritySignatureValid : Option Bool := none
  authorityEvidenceDigest : Option String := none
  reviewNonce : PyValue := .none
  verdict : PyValue := .none
  resultDigest : Option String := none
  resultReceiptDigest : Option String := none
  reviewProvenanceDigest : Option String := none
  reviewSubjectDigest : Option String := none
  evaluatorSignatureValid : Option Bool := none
  reviewEvidenceDigest : Option String := none
  authorityEvidenceRef : Option Text := none
  reviewEvidenceRef : Option Text := none

/-- What the two files hold. -/
structure ReviewEvidence where
  authorityRaw : FileBytes
  authority : AuthoritySubject
  authoritySignature : Except Failure PyValue
  reviewRaw : FileBytes
  review : ReviewSubject
  reviewSignature : Except Failure PyValue

def load (file : EvidenceFile) : Except Failure (Option (FileBytes × JsonObject)) := do
  match file.bytes with
  | none => return none
  | some raw =>
    let path := file.path.display
    match ← raw.loads R (reviewError s!"invalid independent review JSON: {path}") with
    | .dict payload => return some (raw, payload)
    | _ => throw (reviewError "independent review JSON must be an object")

namespace Transport

/-- The part of `observe` that reads the files. -/
def evidence (t : Transport) : Except Failure (Option ReviewEvidence) := do
  let authorityLoaded ← load R t.authorityFile
  let reviewLoaded ← load R t.reviewFile
  match authorityLoaded, reviewLoaded with
  | some (authorityRaw, authority), some (reviewRaw, review) =>
    let a ← AuthoritySubject.ofDocument authority
    let r ← ReviewSubject.ofDocument R review
    return some ⟨authorityRaw, a, authority.item "signature", reviewRaw, r, review.item "signature"⟩
  | _, _ => return none

def observation (t : Transport) (requirement : Requirement) (e : ReviewEvidence) : Except Failure Observation := do
  let a := e.authority
  let r := e.review
  let authoritySubject ← a.canonicalBytes R
  let authorityValid ← t.authorityVerifier.verify authoritySubject (← e.authoritySignature)
  let reviewSubject ← r.canonicalBytes R
  let evaluatorValid ← t.evaluatorVerifier.verify reviewSubject (← e.reviewSignature)
  return {
    consumerId := t.consumerId
    probeId := requirement.probeId
    reviewId := t.reviewId
    available := true
    authorityCurrent := a.current
    operationallySeparate := a.operationallySeparate
    subjectActorId := a.subjectActorId
    declarationDigest := r.declarationDigest
    heldOutProbeSetDigest := r.heldOutProbeSetDigest
    probeCuratorId := r.probeCuratorId
    behaviorEffectReceiptDigest := r.behaviorEffectReceiptDigest
    processInstanceId := r.processInstanceId
    runtimeStateDigest := r.runtimeStateDigest
    stimulusDigest := r.stimulusDigest
    outcomeDigest := r.outcomeDigest
    evaluatorId := r.evaluatorId
    evaluatorKeyId := r.evaluatorKeyId
    evaluatorKeyDigest := r.evaluatorKeyDigest
    evaluatorCurrentnessDigest := r.evaluatorCurrentnessDigest
    authorityId := a.authorityId
    authorityKeyId := a.authorityKeyId
    authorityKeyDigest := a.authorityKeyDigest
    authorityNonce := a.authorityNonce
    authoritySubjectDigest := some (R.sha256 authoritySubject)
    authoritySignatureValid := some authorityValid
    authorityEvidenceDigest := some (e.authorityRaw.sha256 R)
    reviewNonce := r.reviewNonce
    verdict := r.verdict
    resultDigest := some r.resultDigest
    resultReceiptDigest := some r.resultReceiptDigest
    reviewProvenanceDigest := some r.reviewProvenanceDigest
    reviewSubjectDigest := some (R.sha256 reviewSubject)
    evaluatorSignatureValid := some evaluatorValid
    reviewEvidenceDigest := some (e.reviewRaw.sha256 R)
    authorityEvidenceRef := some t.authorityFile.path
    reviewEvidenceRef := some t.reviewFile.path }

/-- `observe`; the behaviour requirement and receipt that it is given are not used. -/
def observe (t : Transport) (requirement : Requirement) : Except Failure Observation := do
  requirement.validate R
  if (requirement.consumerId, requirement.reviewId) ≠ (t.consumerId, t.reviewId) then
    throw (reviewError "independent review transport identity mismatch")
  if (t.authorityVerifier.actorId, t.authorityVerifier.keyId, t.authorityVerifier.keyDigest) ≠
      (requirement.authorityId, requirement.authorityKeyId, requirement.authorityKeyDigest) then
    throw (reviewError "authority verifier identity/key mismatch")
  if (t.evaluatorVerifier.actorId, t.evaluatorVerifier.keyId, t.evaluatorVerifier.keyDigest) ≠
      (requirement.evaluatorId, requirement.evaluatorKeyId, requirement.evaluatorKeyDigest) then
    throw (reviewError "evaluator verifier identity/key mismatch")
  match ← t.evidence R with
  | none => return {
      consumerId := t.consumerId
      probeId := requirement.probeId
      reviewId := t.reviewId
      available := false }
  | some e => t.observation R requirement e

end Transport

/-! ## The status -/

inductive ReviewStatus
  | pass | fail | unavailable
  deriving DecidableEq

/-- What `_status` asks of an available observation. -/
def passes (requirement : Requirement) (behavior : BehaviorEffectRequirement) (receipt : BehaviorEffectReceipt)
    (o : Observation) : Bool :=
  receipt.status = .valid "PASS" && receipt.consumerId = requirement.consumerId &&
    receipt.probeId = requirement.probeId && o.subjectActorId.equalsText requirement.subjectActorId &&
    o.declarationDigest.equalsText requirement.declarationDigest &&
    o.heldOutProbeSetDigest.equalsText requirement.heldOutProbeSetDigest &&
    o.probeCuratorId.equalsText requirement.probeCuratorId &&
    o.behaviorEffectReceiptDigest.equalsText receipt.receiptDigest &&
    o.processInstanceId.equalsOptional receipt.observedProcessInstanceId &&
    o.runtimeStateDigest.equalsOptional receipt.observedRuntimeStateDigest &&
    o.stimulusDigest.equalsOptional receipt.observedStimulusDigest &&
    o.outcomeDigest.equalsOptional receipt.observedOutcomeDigest &&
    o.stimulusDigest.equalsText behavior.expectedStimulusDigest &&
    o.outcomeDigest.equalsText behavior.expectedOutcomeDigest &&
    o.evaluatorId.equalsText requirement.evaluatorId && o.evaluatorKeyId.equalsText requirement.evaluatorKeyId &&
    o.evaluatorKeyDigest.equalsText requirement.evaluatorKeyDigest &&
    o.authorityId.equalsText requirement.authorityId && o.authorityKeyId.equalsText requirement.authorityKeyId &&
    o.authorityKeyDigest.equalsText requirement.authorityKeyDigest && o.authorityCurrent.isTrue &&
    o.operationallySeparate.isTrue && o.authoritySignatureValid = some true &&
    o.evaluatorSignatureValid = some true && o.authoritySubjectDigest.isSome &&
    o.authorityEvidenceDigest.isSome && o.reviewSubjectDigest.isSome && o.reviewEvidenceDigest.isSome &&
    !o.evaluatorCurrentnessDigest.isNone && !o.reviewNonce.isNone && o.resultDigest.isSome &&
    o.resultReceiptDigest.isSome && o.reviewProvenanceDigest.isSome && o.verdict.equalsText (.valid "PASS")

def status (requirement : Requirement) (behavior : BehaviorEffectRequirement) (receipt : BehaviorEffectReceipt)
    (o : Observation) : Except Failure ReviewStatus := do
  if (o.consumerId, o.probeId, o.reviewId) ≠ (requirement.consumerId, requirement.probeId, requirement.reviewId) then
    throw (reviewError "independent review observation identity mismatch")
  if ¬ o.available then return .unavailable
  return if passes requirement behavior receipt o then .pass else .fail

end IndependentReview

end VeraMono
