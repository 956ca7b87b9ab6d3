import VeraMono.Proof.SignedEvidence
import VeraMono.Model.IndependentReview

/-!
# What a passed review signs

A PASS rests on two signatures (`observe_passed`). `_status` compares the fields of the
observation, some of them the authority's and some the evaluator's, and the identity that it
compares is the requirement's own: what the two signers signed is what was asked for just
when the fields that nothing compares agree (`review_signed`).
-/

namespace VeraMono

open Framework SignedEvidence

namespace IndependentReview

variable {R : EvidenceRuntime} {t : Transport} {q : Requirement} {behavior : BehaviorEffectRequirement}
  {receipt : BehaviorEffectReceipt} {o : Observation} {e : ReviewEvidence}

/-! ## What was asked for -/

/-- The authority's subject names what the requirement asks for. -/
structure AuthoritySubject.Names (a : AuthoritySubject) (q : Requirement) : Prop where
  reviewId : a.reviewId.equalsText q.reviewId = true
  subjectActorId : a.subjectActorId.equalsText q.subjectActorId = true
  heldOutProbeSetDigest : a.heldOutProbeSetDigest.equalsText q.heldOutProbeSetDigest = true
  probeCuratorId : a.probeCuratorId.equalsText q.probeCuratorId = true
  evaluatorId : a.evaluatorId.equalsText q.evaluatorId = true
  evaluatorKeyId : a.evaluatorKeyId.equalsText q.evaluatorKeyId = true
  evaluatorKeyDigest : a.evaluatorKeyDigest.equalsText q.evaluatorKeyDigest = true
  authorityId : a.authorityId.equalsText q.authorityId = true
  authorityKeyId : a.authorityKeyId.equalsText q.authorityKeyId = true
  authorityKeyDigest : a.authorityKeyDigest.equalsText q.authorityKeyDigest = true
  current : a.current.isTrue = true
  operationallySeparate : a.operationallySeparate.isTrue = true

/-- The review is one of the requirement's consumer, probe and review for the receipt. -/
structure ReviewSubject.Names (r : ReviewSubject) (q : Requirement) (receipt : BehaviorEffectReceipt) : Prop where
  consumerId : r.consumerId.equalsText q.consumerId = true
  probeId : r.probeId.equalsText q.probeId = true
  reviewId : r.reviewId.equalsText q.reviewId = true
  receiptDigest : r.behaviorEffectReceiptDigest.equalsText receipt.receiptDigest = true

/-- The review binds the authority's subject, its file, and the currentness it attests. -/
structure Binds (R : EvidenceRuntime) (e : ReviewEvidence) : Prop where
  subject : ∃ subject, e.authority.canonicalBytes R = .ok subject ∧
    e.review.authoritySubjectDigest.equalsText (.valid (R.sha256 subject)) = true
  evidence : e.review.authorityEvidenceDigest.equalsText (.valid (e.authorityRaw.sha256 R)) = true
  currentness : e.review.evaluatorCurrentnessDigest.keyText = e.authority.evaluatorCurrentnessDigest.keyText

structure SignedReview (R : EvidenceRuntime) (q : Requirement) (receipt : BehaviorEffectReceipt)
    (authoritySigned evaluatorSigned : ByteArray → Prop) (e : ReviewEvidence) : Prop where
  authority : ∃ subject, e.authority.canonicalBytes R = .ok subject ∧ authoritySigned subject
  evaluator : ∃ subject, e.review.canonicalBytes R = .ok subject ∧ evaluatorSigned subject
  names : e.authority.Names q
  reviews : e.review.Names q receipt
  binds : Binds R e

/-- What nothing compares: the fields of the authority's subject that the observation takes
from the review, the identity of the review, and what the review binds. -/
structure UncomparedAgree (R : EvidenceRuntime) (q : Requirement) (e : ReviewEvidence) : Prop where
  authorityReviewId : e.authority.reviewId.equalsText q.reviewId = true
  heldOutProbeSetDigest : e.authority.heldOutProbeSetDigest.equalsText q.heldOutProbeSetDigest = true
  probeCuratorId : e.authority.probeCuratorId.equalsText q.probeCuratorId = true
  evaluatorId : e.authority.evaluatorId.equalsText q.evaluatorId = true
  evaluatorKeyId : e.authority.evaluatorKeyId.equalsText q.evaluatorKeyId = true
  evaluatorKeyDigest : e.authority.evaluatorKeyDigest.equalsText q.evaluatorKeyDigest = true
  consumerId : e.review.consumerId.equalsText q.consumerId = true
  probeId : e.review.probeId.equalsText q.probeId = true
  reviewId : e.review.reviewId.equalsText q.reviewId = true
  binds : Binds R e

/-! ## What is compared -/

/-- What `_status` compares of the fields above. -/
structure Compared (q : Requirement) (receipt : BehaviorEffectReceipt) (o : Observation) : Prop where
  subjectActorId : o.subjectActorId.equalsText q.subjectActorId = true
  authorityId : o.authorityId.equalsText q.authorityId = true
  authorityKeyId : o.authorityKeyId.equalsText q.authorityKeyId = true
  authorityKeyDigest : o.authorityKeyDigest.equalsText q.authorityKeyDigest = true
  current : o.authorityCurrent.isTrue = true
  operationallySeparate : o.operationallySeparate.isTrue = true
  receiptDigest : o.behaviorEffectReceiptDigest.equalsText receipt.receiptDigest = true
  authoritySignature : o.authoritySignatureValid = some true
  evaluatorSignature : o.evaluatorSignatureValid = some true

theorem passes_compared (h : passes q behavior receipt o = true) : Compared q receipt o := by
  simp only [passes, Bool.and_eq_true, decide_eq_true_eq, and_assoc] at h
  obtain ⟨-, -, -, hactor, -, -, -, hreceipt, -, -, -, -, -, -, -, -, -, hauthority, hkey, hdigest, hcurrent,
    hseparate, hsigned, hreviewed, -⟩ := h
  exact ⟨hactor, hauthority, hkey, hdigest, hcurrent, hseparate, hreceipt, hsigned, hreviewed⟩

theorem status_pass (h : status q behavior receipt o = .ok .pass) : o.available = true ∧ Compared q receipt o := by
  simp only [status, ite_error_ok, ↓throw_bind] at h
  obtain ⟨-, h⟩ := h
  split at h
  · cases h
  · rename_i hnot
    split at h
    · rename_i hpasses
      exact ⟨not_not.1 hnot, passes_compared hpasses⟩
    · cases h

theorem observe_ok (h : t.observe R q = .ok o) (ha : o.available = true) :
    ∃ e, t.evidence R = .ok (some e) ∧ t.observation R q e = .ok o := by
  simp only [Transport.observe, bind_eq_ok, ite_error_ok, ↓throw_bind] at h
  obtain ⟨-, -, -, -, -, evidence, hevidence, h⟩ := h
  cases evidence with
  | none =>
    cases h
    cases ha
  | some e => exact ⟨e, hevidence, h⟩

structure Observed (R : EvidenceRuntime) (t : Transport) (e : ReviewEvidence) (o : Observation) : Prop where
  authority : ∃ subject signature, e.authority.canonicalBytes R = .ok subject ∧
    ∃ valid, t.authorityVerifier.verify subject signature = .ok valid ∧ o.authoritySignatureValid = some valid
  evaluator : ∃ subject signature, e.review.canonicalBytes R = .ok subject ∧
    ∃ valid, t.evaluatorVerifier.verify subject signature = .ok valid ∧ o.evaluatorSignatureValid = some valid
  subjectActorId : o.subjectActorId = e.authority.subjectActorId
  authorityId : o.authorityId = e.authority.authorityId
  authorityKeyId : o.authorityKeyId = e.authority.authorityKeyId
  authorityKeyDigest : o.authorityKeyDigest = e.authority.authorityKeyDigest
  current : o.authorityCurrent = e.authority.current
  operationallySeparate : o.operationallySeparate = e.authority.operationallySeparate
  receiptDigest : o.behaviorEffectReceiptDigest = e.review.behaviorEffectReceiptDigest

theorem observation_ok (h : t.observation R q e = .ok o) : Observed R t e o := by
  simp only [Transport.observation, bind_eq_ok, pure_ok] at h
  obtain ⟨authority, ha, authoritySignature, -, authorityValid, hav, review, hr, reviewSignature, -, reviewValid,
    hrv, rfl⟩ := h
  exact
    { authority := ⟨authority, authoritySignature, ha, authorityValid, hav, rfl⟩
      evaluator := ⟨review, reviewSignature, hr, reviewValid, hrv, rfl⟩
      subjectActorId := rfl
      authorityId := rfl
      authorityKeyId := rfl
      authorityKeyDigest := rfl
      current := rfl
      operationallySeparate := rfl
      receiptDigest := rfl }

/-! ## What a PASS says -/

/-- A PASS is of two signed subjects, whose compared fields are what was asked for. -/
theorem observe_passed (ho : t.observe R q = .ok o) (hs : status q behavior receipt o = .ok .pass) :
    ∃ e, t.evidence R = .ok (some e) ∧ Observed R t e o ∧ Compared q receipt o := by
  obtain ⟨havailable, hcompared⟩ := status_pass hs
  obtain ⟨e, hevidence, hobservation⟩ := observe_ok ho havailable
  exact ⟨e, hevidence, observation_ok hobservation, hcompared⟩

theorem review_signed (R : EvidenceRuntime) (t : Transport) (q : Requirement)
    (behavior : BehaviorEffectRequirement) (receipt : BehaviorEffectReceipt) (o : Observation)
    (authoritySigned evaluatorSigned : ByteArray → Prop) (ha : t.authorityVerifier.Unforgeable authoritySigned)
    (he : t.evaluatorVerifier.Unforgeable evaluatorSigned) (ho : t.observe R q = .ok o)
    (hs : status q behavior receipt o = .ok .pass) :
    ∃ e, t.evidence R = .ok (some e) ∧
      (SignedReview R q receipt authoritySigned evaluatorSigned e ↔ UncomparedAgree R q e) := by
  obtain ⟨e, hevidence, hobserved, hcompared⟩ := observe_passed ho hs
  refine ⟨e, hevidence, fun h => ?_, fun h => ?_⟩
  · exact ⟨h.names.reviewId, h.names.heldOutProbeSetDigest, h.names.probeCuratorId, h.names.evaluatorId,
      h.names.evaluatorKeyId, h.names.evaluatorKeyDigest, h.reviews.consumerId, h.reviews.probeId, h.reviews.reviewId,
      h.binds⟩
  · obtain ⟨subject, _, hsubject, valid, hverify, hvalid⟩ := hobserved.authority
    obtain ⟨review, _, hreview, valid', hverify', hvalid'⟩ := hobserved.evaluator
    obtain rfl : valid = true := Option.some.inj (hvalid.symm.trans hcompared.authoritySignature)
    obtain rfl : valid' = true := Option.some.inj (hvalid'.symm.trans hcompared.evaluatorSignature)
    exact
      { authority := ⟨subject, hsubject, ha _ _ hverify⟩
        evaluator := ⟨review, hreview, he _ _ hverify'⟩
        names :=
          { reviewId := h.authorityReviewId
            subjectActorId := hobserved.subjectActorId ▸ hcompared.subjectActorId
            heldOutProbeSetDigest := h.heldOutProbeSetDigest
            probeCuratorId := h.probeCuratorId
            evaluatorId := h.evaluatorId
            evaluatorKeyId := h.evaluatorKeyId
            evaluatorKeyDigest := h.evaluatorKeyDigest
            authorityId := hobserved.authorityId ▸ hcompared.authorityId
            authorityKeyId := hobserved.authorityKeyId ▸ hcompared.authorityKeyId
            authorityKeyDigest := hobserved.authorityKeyDigest ▸ hcompared.authorityKeyDigest
            current := hobserved.current ▸ hcompared.current
            operationallySeparate := hobserved.operationallySeparate ▸ hcompared.operationallySeparate }
        reviews := ⟨h.consumerId, h.probeId, h.reviewId, hobserved.receiptDigest ▸ hcompared.receiptDigest⟩
        binds := h.binds }

/-! ## A review of another probe -/

/-- A text of 64 characters. -/
def filled (c : Char) : String := String.ofList (List.replicate 64 c)

/-- The authority's document of the review `v`. -/
def sampleAuthority : List (String × Json) :=
  [("authority_id", .str "u"), ("authority_key_digest", .str (filled '2')), ("authority_key_id", .str "w"),
    ("authority_nonce", .str "n"), ("current", .bool true), ("evaluator_currentness_digest", .str (filled '3')),
    ("evaluator_id", .str "e"), ("evaluator_key_digest", .str (filled '1')), ("evaluator_key_id", .str "k"),
    ("held_out_probe_set_digest", .str (filled 'c')), ("operationally_separate", .bool true),
    ("probe_curator_id", .str "h"), ("review_id", .str "v"), ("signature", .str "x"),
    ("subject_actor_id", .str "s")]

/-- An evaluator's review of the probe `p2`. -/
def sampleReview : List (String × Json) :=
  [("authority_evidence_digest", .str "fc725ce3c18cd782e4ce4bf81cfe8a1bc810da85c35fa1cdc1d7eb8ff1315584"),
    ("authority_subject_digest", .str "5c559cf4b9975761c0b98889cfda8f6658039c1f52680da435b00e6342762b41"),
    ("behavior_effect_receipt_digest", .str (filled '4')), ("consumer_id", .str "c"),
    ("declaration_digest", .str (filled 'd')), ("evaluator_currentness_digest", .str (filled '3')),
    ("evaluator_id", .str "e"), ("evaluator_key_digest", .str (filled '1')), ("evaluator_key_id", .str "k"),
    ("held_out_probe_set_digest", .str (filled 'c')), ("outcome_digest", .str (filled 'b')),
    ("probe_curator_id", .str "h"), ("probe_id", .str "p2"), ("process_instance_id", .str "i"),
    ("provenance", .obj []), ("result_b64", .str "eWVz"), ("result_receipt_b64", .str "eWVz"),
    ("review_id", .str "v"), ("review_nonce", .str "m"), ("runtime_state_digest", .str (filled '5')),
    ("signature", .str "y"), ("stimulus_digest", .str (filled 'a')), ("verdict", .str "PASS")]

/-- The SHA-256 digests of the texts below, by their lengths. -/
def sampleDigests : List (Nat × String) :=
  [(2, "44136fa355b3678a1146ad16f7e8649e94fb4fc21fe77e8310c060f61caaff8a"),
    (3, "8a798890fe93817163b10b5f7bd2ca4d25d84c52739a645a889c173eee7d9d3d"),
    (603, "fc725ce3c18cd782e4ce4bf81cfe8a1bc810da85c35fa1cdc1d7eb8ff1315584"),
    (648, "5c559cf4b9975761c0b98889cfda8f6658039c1f52680da435b00e6342762b41"),
    (1177, "02cdd2bded08a68004c27057062ab90f7796cb59e3b93bbb2365e8c4e2e4a0ec"),
    (1425, "2c8ab3eec7690097f6ca19e2250819c526f9f0383aa558c3af3219acbba5f1bb")]

def sampleRuntime : EvidenceRuntime where
  py := { newYearClock with fromisoformat := fun _ => .aware 63902822400000000 }
  pyFloat _ := none
  sha256 data := (sampleDigests.lookup data.size).getD ""
  hexInteger _ := true
  b64decode s := if s = "eWVz" then some "yes".toByteArray else none

def sampleVerifier (actorId keyId : String) (key : Char) (signature : String) : SignatureVerifier where
  actorId := .valid actorId
  keyId := .valid keyId
  keyDigest := .valid (filled key)
  verify _ given := .ok (given.equalsText (.valid signature))

def sampleTransport : Transport where
  consumerId := .valid "c"
  reviewId := .valid "v"
  authorityFile := ⟨.valid "/a.json", some (.utf8 (String.ofList (Json.obj sampleAuthority).dumps))⟩
  reviewFile := ⟨.valid "/r.json", some (.utf8 (String.ofList (Json.obj sampleReview).dumps))⟩
  authorityVerifier := sampleVerifier "u" "w" '2' "x"
  evaluatorVerifier := sampleVerifier "e" "k" '1' "y"

/-- The probe `p1` is to be reviewed. -/
def sampleRequirement : Requirement where
  consumerId := .valid "c"
  probeId := .valid "p1"
  reviewId := .valid "v"
  subjectActorId := .valid "s"
  declarationDigest := .valid (filled 'd')
  heldOutProbeSetDigest := .valid (filled 'c')
  probeCuratorId := .valid "h"
  evaluatorId := .valid "e"
  evaluatorKeyId := .valid "k"
  evaluatorKeyDigest := .valid (filled '1')
  authorityId := .valid "u"
  authorityKeyId := .valid "w"
  authorityKeyDigest := .valid (filled '2')

def sampleBehavior : BehaviorEffectRequirement where
  evidenceKind := .valid "BEHAVIOR"
  expectedStimulusDigest := .valid (filled 'a')
  expectedOutcomeDigest := .valid (filled 'b')

def sampleReceipt : BehaviorEffectReceipt where
  consumerId := .valid "c"
  probeId := .valid "p1"
  evidenceKind := .valid "BEHAVIOR"
  observedProcessInstanceId := some (.valid "i")
  observedRuntimeStateDigest := some (.valid (filled '5'))
  observedStimulusDigest := some (.valid (filled 'a'))
  observedOutcomeDigest := some (.valid (filled 'b'))
  externalEffectId := none
  externalEffectReceiptDigest := none
  status := .valid "PASS"
  receiptDigest := .valid (filled '4')

theorem sampleAuthority_readable : (Json.obj sampleAuthority).Readable := by
  refine ⟨by decide, ?_⟩
  simp [sampleAuthority, Json.ReadableEntries, Json.Readable]

theorem sampleReview_readable : (Json.obj sampleReview).Readable := by
  refine ⟨by decide, ?_⟩
  simp [sampleReview, Json.ReadableEntries, Json.Readable]

/-- What the two files hold. -/
def sampleEvidence : Except Failure ReviewEvidence := do
  let authority := Json.toPyEntries sampleAuthority
  let review := Json.toPyEntries sampleReview
  let a ← AuthoritySubject.ofDocument authority
  let r ← ReviewSubject.ofDocument sampleRuntime review
  return ⟨.utf8 (String.ofList (Json.obj sampleAuthority).dumps), a, JsonObject.item authority "signature",
    .utf8 (String.ofList (Json.obj sampleReview).dumps), r, JsonObject.item review "signature"⟩

theorem sample_evidence : sampleTransport.evidence sampleRuntime = sampleEvidence.map some := by
  have ha : load sampleRuntime sampleTransport.authorityFile =
      .ok (some (.utf8 (String.ofList (Json.obj sampleAuthority).dumps), Json.toPyEntries sampleAuthority)) := by
    simp only [load, sampleTransport, loads_dumps sampleAuthority_readable, ok_bind]
    rfl
  have hr : load sampleRuntime sampleTransport.reviewFile =
      .ok (some (.utf8 (String.ofList (Json.obj sampleReview).dumps), Json.toPyEntries sampleReview)) := by
    simp only [load, sampleTransport, loads_dumps sampleReview_readable, ok_bind]
    rfl
  rw [Transport.evidence, ha, hr, ok_bind, ok_bind]
  rfl

def sampleStatus : Except Failure ReviewStatus := do
  let e ← sampleEvidence
  status sampleRequirement sampleBehavior sampleReceipt
    (← sampleTransport.observation sampleRuntime sampleRequirement e)

/-- The files are of a passed review by a valid requirement, and the evaluator's document names the
other probe. -/
theorem sampleStatus_facts : sampleStatus = .ok .pass ∧ sampleRequirement.validate sampleRuntime = .ok () ∧
    sampleEvidence.map (fun e => e.review.probeId.keyText) = .ok (some (.valid "p2")) := by
  decide +kernel

theorem sample_observe : sampleTransport.observe sampleRuntime sampleRequirement =
    sampleEvidence >>= sampleTransport.observation sampleRuntime sampleRequirement := by
  rw [Transport.observe, sampleStatus_facts.2.1, ok_bind, if_neg (by decide), if_neg (by decide),
    if_neg (by decide), sample_evidence]
  cases sampleEvidence <;> rfl

theorem sample_passed : ∃ e o, sampleTransport.evidence sampleRuntime = .ok (some e) ∧
    sampleTransport.observe sampleRuntime sampleRequirement = .ok o ∧
    status sampleRequirement sampleBehavior sampleReceipt o = .ok .pass := by
  obtain ⟨e, he, h⟩ := bind_eq_ok.1 sampleStatus_facts.1
  obtain ⟨o, ho, hs⟩ := bind_eq_ok.1 h
  exact ⟨e, o, by rw [sample_evidence, he]; rfl, by rw [sample_observe, he]; exact ho, hs⟩

theorem review_signed_other_probe : ∃ o, sampleTransport.observe sampleRuntime sampleRequirement = .ok o ∧
    status sampleRequirement sampleBehavior sampleReceipt o = .ok .pass ∧
    ∃ e, sampleTransport.evidence sampleRuntime = .ok (some e) ∧
      (SignedReview sampleRuntime sampleRequirement sampleReceipt (fun _ => True) (fun _ => True) e ↔
        UncomparedAgree sampleRuntime sampleRequirement e) := by
  obtain ⟨-, o, -, ho, hs⟩ := sample_passed
  exact ⟨o, ho, hs, review_signed sampleRuntime sampleTransport sampleRequirement sampleBehavior sampleReceipt o _ _
    (fun _ _ _ => trivial) (fun _ _ _ => trivial) ho hs⟩

/-- The review of another probe passes. -/
theorem other_probe_passes : ¬ ∀ R t q behavior receipt o authoritySigned evaluatorSigned,
    Transport.observe R t q = .ok o → status q behavior receipt o = .ok .pass →
    t.authorityVerifier.Unforgeable authoritySigned → t.evaluatorVerifier.Unforgeable evaluatorSigned →
    ∃ e, t.evidence R = .ok (some e) ∧ SignedReview R q receipt authoritySigned evaluatorSigned e := by
  intro h
  obtain ⟨-, o, -, ho, hs⟩ := sample_passed
  obtain ⟨e, he, hsigned⟩ := h sampleRuntime sampleTransport sampleRequirement sampleBehavior sampleReceipt o
    (fun _ => True) (fun _ => True) ho hs (fun _ _ _ => trivial) (fun _ _ _ => trivial)
  have hprobe := sampleStatus_facts.2.2
  rw [sample_evidence] at he
  obtain ⟨e', he', hsome⟩ := map_eq_ok.1 he
  obtain rfl : e' = e := Option.some.inj hsome
  obtain ⟨e'', he'', hother⟩ := map_eq_ok.1 hprobe
  obtain rfl : e' = e'' := Except.ok.inj (he'.symm.trans he'')
  have hnamed := hsigned.reviews.probeId
  rw [PyValue.equalsText, decide_eq_true_eq, hother] at hnamed
  exact absurd hnamed (by decide)

end IndependentReview

end VeraMono
