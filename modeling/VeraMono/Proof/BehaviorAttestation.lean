import VeraMono.Proof.SignedEvidence
import VeraMono.Model.BehaviorAttestation

/-!
# What a passed attestation signs

A PASS rests on a signature over a subject whose compared fields are what was asked for, but
the consumer and the probe that `_status` compares are the requirement's own
(`attestation_passed`). A nonce of a provider's key is in one row of a store, whoever writes
to it (`reachable_noncesOnce`).
-/

namespace VeraMono

open Framework SignedEvidence

namespace BehaviorAttestation

variable {R : EvidenceRuntime} {t : Transport} {q : Requirement} {behavior : BehaviorEffectRequirement}
  {receipt : BehaviorEffectReceipt} {o : Observation} {e : Evidence} {s s' : AttestationStore} {a : AppendArgs}
  {row : AttestationRow}

/-! ## What was asked for -/

/-- The fields of the subject are those of the requirement and the behaviour receipt. -/
structure Subject.Matches (s : Subject) (q : Requirement) (behavior : BehaviorEffectRequirement)
    (receipt : BehaviorEffectReceipt) : Prop where
  consumerId : s.consumerId.equalsText q.consumerId = true
  probeId : s.probeId.equalsText q.probeId = true
  evidenceKind : s.evidenceKind.equalsText behavior.evidenceKind = true
  receiptKind : s.evidenceKind.equalsText receipt.evidenceKind = true
  declarationDigest : s.declarationDigest.equalsText q.declarationDigest = true
  receiptDigest : s.behaviorEffectReceiptDigest.equalsText receipt.receiptDigest = true
  processInstanceId : s.processInstanceId.equalsOptional receipt.observedProcessInstanceId = true
  runtimeStateDigest : s.runtimeStateDigest.equalsOptional receipt.observedRuntimeStateDigest = true
  stimulusDigest : s.stimulusDigest.equalsOptional receipt.observedStimulusDigest = true
  outcomeDigest : s.outcomeDigest.equalsOptional receipt.observedOutcomeDigest = true
  expectedStimulus : s.stimulusDigest.equalsText behavior.expectedStimulusDigest = true
  expectedOutcome : s.outcomeDigest.equalsText behavior.expectedOutcomeDigest = true
  providerId : s.providerId.equalsText q.providerId = true
  providerKeyId : s.providerKeyId.equalsText q.providerKeyId = true
  providerKeyDigest : s.providerKeyDigest.equalsText q.providerKeyDigest = true
  effectId : s.externalEffectId.equalsOptional receipt.externalEffectId = true
  effectReceiptDigest :
    (optionalString s.externalEffectReceiptDigest).equalsOptional receipt.externalEffectReceiptDigest = true
  effectSubjectDigest : s.externalEffectSubjectDigest.equalsOptional q.effectSubjectDigest = true

/-- The provider signed the subject that was asked for. -/
structure Attested (R : EvidenceRuntime) (q : Requirement) (behavior : BehaviorEffectRequirement)
    (receipt : BehaviorEffectReceipt) (signed : ByteArray → Prop) (s : Subject) : Prop where
  signed : ∃ subject, s.canonicalBytes R = .ok subject ∧ signed subject
  matched : s.Matches q behavior receipt

/-- What nothing compares: the consumer and the probe of the subject, and the effect fields
of the receipt of a behaviour. -/
structure UncomparedAgree (q : Requirement) (behavior : BehaviorEffectRequirement) (receipt : BehaviorEffectReceipt)
    (s : Subject) : Prop where
  consumerId : s.consumerId.equalsText q.consumerId = true
  probeId : s.probeId.equalsText q.probeId = true
  effect : behavior.evidenceKind = .valid "BEHAVIOR" →
    receipt.externalEffectId = none ∧ receipt.externalEffectReceiptDigest = none

/-! ## What is compared -/

/-- What a PASS compared. -/
structure Passed (q : Requirement) (behavior : BehaviorEffectRequirement) (receipt : BehaviorEffectReceipt)
    (o : Observation) : Prop where
  available : o.available = true
  kind : receipt.evidenceKind = behavior.evidenceKind
  agrees : agrees q behavior receipt o = true
  effect : effectAgrees q behavior receipt o = true

theorem status_pass (h : status R q behavior receipt o = .ok .pass) : Passed q behavior receipt o := by
  simp only [status, bind_eq_ok, ite_error_ok, ↓throw_bind] at h
  obtain ⟨-, -, -, h⟩ := h
  split at h
  · cases h
  rename_i havailable
  split at h
  · cases h
  rename_i hreceipt
  split at h
  · cases h
  rename_i hagrees
  split at h
  · cases h
  rename_i heffect
  simp only [not_or, not_not] at hreceipt
  exact ⟨not_not.1 havailable, hreceipt.2.2.2, not_not.1 hagrees, not_not.1 heffect⟩

theorem observe_ok (h : t.observe R q = .ok o) (ha : o.available = true) :
    ∃ e, t.evidence R = .ok (some e) ∧ t.observation R q e = .ok o := by
  simp only [Transport.observe, bind_eq_ok, ite_error_ok, ↓throw_bind] at h
  obtain ⟨-, -, -, -, evidence, hevidence, h⟩ := h
  cases evidence with
  | none =>
    cases h
    cases ha
  | some e => exact ⟨e, hevidence, h⟩

structure Observed (R : EvidenceRuntime) (t : Transport) (e : Evidence) (o : Observation) : Prop where
  signature : ∃ subject valid, e.subject.canonicalBytes R = .ok subject ∧
    t.verifier.verify subject e.signature = .ok valid ∧ o.signatureValid = .bool valid
  evidenceKind : o.evidenceKind = e.subject.evidenceKind
  declarationDigest : o.declarationDigest = e.subject.declarationDigest
  receiptDigest : o.behaviorEffectReceiptDigest = e.subject.behaviorEffectReceiptDigest
  processInstanceId : o.processInstanceId = e.subject.processInstanceId
  runtimeStateDigest : o.runtimeStateDigest = e.subject.runtimeStateDigest
  stimulusDigest : o.stimulusDigest = e.subject.stimulusDigest
  outcomeDigest : o.outcomeDigest = e.subject.outcomeDigest
  providerId : o.providerId = e.subject.providerId
  providerKeyId : o.providerKeyId = e.subject.providerKeyId
  providerKeyDigest : o.providerKeyDigest = e.subject.providerKeyDigest
  effectId : o.externalEffectId = e.subject.externalEffectId
  effectReceiptDigest : o.externalEffectReceiptDigest = optionalString e.subject.externalEffectReceiptDigest
  effectSubjectDigest : o.externalEffectSubjectDigest = e.subject.externalEffectSubjectDigest

theorem observation_ok (h : t.observation R q e = .ok o) : Observed R t e o := by
  simp only [Transport.observation, bind_eq_ok, pure_ok] at h
  obtain ⟨subject, hsubject, valid, hvalid, _, -, rfl⟩ := h
  exact
    { signature := ⟨subject, valid, hsubject, hvalid, rfl⟩
      evidenceKind := rfl
      declarationDigest := rfl
      receiptDigest := rfl
      processInstanceId := rfl
      runtimeStateDigest := rfl
      stimulusDigest := rfl
      outcomeDigest := rfl
      providerId := rfl
      providerKeyId := rfl
      providerKeyDigest := rfl
      effectId := rfl
      effectReceiptDigest := rfl
      effectSubjectDigest := rfl }

theorem equalsOptional_of_isNone {value : PyValue} (h : value.isNone = true) (t : Option Text) :
    value.equalsOptional t = true ↔ t = none := by
  cases value <;> cases h
  cases t with
  | none => simp [PyValue.equalsOptional, PyValue.isNone]
  | some t => simp [PyValue.equalsOptional, PyValue.equalsText, PyValue.keyText]

/-- A PASS is of a signed subject, which was asked for just when what nothing compares agrees. -/
theorem attestation_passed {signed : ByteArray → Prop} (hv : t.verifier.Unforgeable signed)
    (ho : t.observe R q = .ok o) (hs : status R q behavior receipt o = .ok .pass) :
    ∃ e, t.evidence R = .ok (some e) ∧
      (Attested R q behavior receipt signed e.subject ↔ UncomparedAgree q behavior receipt e.subject) := by
  have hpassed := status_pass hs
  obtain ⟨e, hevidence, hobservation⟩ := observe_ok ho hpassed.available
  have hobserved := observation_ok hobservation
  have hagrees := hpassed.agrees
  have heffect := hpassed.effect
  simp only [agrees, Bool.and_eq_true, and_assoc, hobserved.evidenceKind, hobserved.declarationDigest,
    hobserved.receiptDigest, hobserved.processInstanceId, hobserved.runtimeStateDigest, hobserved.stimulusDigest,
    hobserved.outcomeDigest, hobserved.providerId, hobserved.providerKeyId, hobserved.providerKeyDigest] at hagrees
  obtain ⟨hkind, hdeclaration, hreceipt, hprocess, hruntime, hstimulus, houtcome, hexpected, hexpected', hprovider,
    hkey, hdigest, hsignature, -⟩ := hagrees
  refine ⟨e, hevidence, fun h => ⟨h.matched.consumerId, h.matched.probeId, fun hbehavior => ?_⟩, fun h => ?_⟩
  · simp only [effectAgrees, if_pos hbehavior, Bool.and_eq_true, and_assoc, hobserved.effectId,
      hobserved.effectReceiptDigest] at heffect
    exact ⟨(equalsOptional_of_isNone heffect.2.1 _).1 h.matched.effectId,
      (equalsOptional_of_isNone heffect.2.2.1 _).1 h.matched.effectReceiptDigest⟩
  · obtain ⟨subject, valid, hsubject, hverify, hvalid⟩ := hobserved.signature
    obtain rfl : valid = true := by
      rw [hvalid] at hsignature
      exact hsignature
    have hfields : e.subject.externalEffectId.equalsOptional receipt.externalEffectId = true ∧
        (optionalString e.subject.externalEffectReceiptDigest).equalsOptional receipt.externalEffectReceiptDigest =
          true ∧ e.subject.externalEffectSubjectDigest.equalsOptional q.effectSubjectDigest = true := by
      by_cases hbehavior : behavior.evidenceKind = .valid "BEHAVIOR"
      · obtain ⟨hid, hreceiptDigest⟩ := h.effect hbehavior
        simp only [effectAgrees, if_pos hbehavior, Bool.and_eq_true, and_assoc, hobserved.effectId,
          hobserved.effectReceiptDigest, hobserved.effectSubjectDigest] at heffect
        obtain ⟨hnone, hno, hno', hno''⟩ := heffect
        exact ⟨(equalsOptional_of_isNone hno _).2 hid, (equalsOptional_of_isNone hno' _).2 hreceiptDigest,
          (equalsOptional_of_isNone hno'' _).2 (Option.isNone_iff_eq_none.1 hnone)⟩
      · simp only [effectAgrees, if_neg hbehavior, Bool.and_eq_true, and_assoc, hobserved.effectId,
          hobserved.effectReceiptDigest, hobserved.effectSubjectDigest] at heffect
        exact heffect.2
    exact
      { signed := ⟨subject, hsubject, hv _ _ hverify⟩
        matched :=
          { consumerId := h.consumerId
            probeId := h.probeId
            evidenceKind := hkind
            receiptKind := hpassed.kind ▸ hkind
            declarationDigest := hdeclaration
            receiptDigest := hreceipt
            processInstanceId := hprocess
            runtimeStateDigest := hruntime
            stimulusDigest := hstimulus
            outcomeDigest := houtcome
            expectedStimulus := hexpected
            expectedOutcome := hexpected'
            providerId := hprovider
            providerKeyId := hkey
            providerKeyDigest := hdigest
            effectId := hfields.1
            effectReceiptDigest := hfields.2.1
            effectSubjectDigest := hfields.2.2 } }

/-! ## Nonces -/

/-- Every nonce of a provider's key is used once. -/
def NoncesOnce (s : AttestationStore) : Prop :=
  ∀ providerId providerKeyId nonce, (s.rows.filter fun row => row.uses providerId providerKeyId nonce).length ≤ 1

theorem append_ok (h : append R a s = .ok (row, s')) : s'.rows = s.rows ++ [row] ∧
    ∀ providerId providerKeyId nonce, row.uses providerId providerKeyId nonce = true →
      ∀ r ∈ s.rows, ¬ r.uses providerId providerKeyId nonce = true := by
  simp only [append, appendRow, bind_eq_ok, ite_error_ok, ↓throw_bind, pure_ok, Prod.mk.injEq] at h
  obtain ⟨_, -, _, -, status, -, hfresh, _, -, _, -, -, -, -, rfl, rfl⟩ := h
  refine ⟨rfl, fun providerId providerKeyId nonce huses r hr hused => hfresh ?_⟩
  simp only [AttestationRow.uses, Bool.and_eq_true, decide_eq_true_eq] at huses
  obtain ⟨⟨rfl, rfl⟩, hnonce⟩ := huses
  rw [hnonce, Option.any_some, List.any_eq_true]
  exact ⟨r, hr, hused⟩

theorem NoncesOnce.append (hn : NoncesOnce s) (h : append R a s = .ok (row, s')) : NoncesOnce s' := by
  obtain ⟨hrows, hnew⟩ := append_ok h
  intro providerId providerKeyId nonce
  rw [hrows, List.filter_append, List.length_append]
  by_cases huses : row.uses providerId providerKeyId nonce = true
  · have hnone : s.rows.filter (fun row => row.uses providerId providerKeyId nonce) = [] :=
      List.filter_eq_nil_iff.2 (hnew providerId providerKeyId nonce huses)
    rw [hnone, List.length_nil, Nat.zero_add]
    exact List.length_filter_le _ _
  · have hnone : [row].filter (fun row => row.uses providerId providerKeyId nonce) = [] := by simp [huses]
    rw [hnone, List.length_nil, Nat.add_zero]
    exact hn providerId providerKeyId nonce

theorem reachable_noncesOnce (h : AttestationStore.Reachable R s) : NoncesOnce s := by
  induction h with
  | empty => exact fun _ _ _ => Nat.zero_le 1
  | append _ ha ih => exact ih.append ha

theorem attestation_signed_once (R : EvidenceRuntime) :
    (∀ t q behavior receipt o signed, t.verifier.Unforgeable signed → Transport.observe R t q = .ok o →
      status R q behavior receipt o = .ok .pass → ∃ e, t.evidence R = .ok (some e) ∧
        (Attested R q behavior receipt signed e.subject ↔ UncomparedAgree q behavior receipt e.subject)) ∧
    ∀ s, AttestationStore.Reachable R s → NoncesOnce s :=
  ⟨fun _ _ _ _ _ _ hv ho hs => attestation_passed hv ho hs, fun _ h => reachable_noncesOnce h⟩

/-! ## An attestation of another probe -/

/-- A text of 64 characters. -/
def filled (c : Char) : String := String.ofList (List.replicate 64 c)

/-- A provider's document of the probe `p2`. -/
def sampleDocument : List (String × Json) :=
  [("attestation_nonce", .str "n"), ("behavior_effect_receipt_digest", .str (filled '4')),
    ("consumer_id", .str "c"), ("declaration_digest", .str (filled 'd')), ("evidence_kind", .str "BEHAVIOR"),
    ("external_effect_id", .null), ("external_effect_receipt_b64", .null),
    ("external_effect_subject_digest", .null), ("outcome_digest", .str (filled 'b')), ("probe_id", .str "p2"),
    ("process_instance_id", .str "i"), ("provider_id", .str "e"), ("provider_key_digest", .str (filled '1')),
    ("provider_key_id", .str "k"), ("raw_response_b64", .str "eWVz"),
    ("runtime_state_digest", .str (filled '5')), ("schema", .str "VERA_MONO_EXTERNAL_BEHAVIOR_ATTESTATION_V1"),
    ("signature", .str "y"), ("stimulus_digest", .str (filled 'a'))]

/-- A library whose digests have the length of SHA-256; the code only records them. -/
def sampleRuntime : EvidenceRuntime where
  py := { newYearClock with fromisoformat := fun _ => .aware 63902822400000000 }
  pyFloat _ := none
  sha256 _ := filled 'f'
  hexInteger _ := true
  b64decode s := if s = "eWVz" then some "yes".toByteArray else none

def sampleTransport : Transport where
  consumerId := .valid "c"
  file := ⟨.valid "/e.json", some (.utf8 (String.ofList (Json.obj sampleDocument).dumps))⟩
  verifier :=
    { actorId := .valid "e"
      keyId := .valid "k"
      keyDigest := .valid (filled '1')
      verify _ given := .ok (given.equalsText (.valid "y")) }

/-- The probe `p1` is to be attested. -/
def sampleRequirement : Requirement where
  consumerId := .valid "c"
  probeId := .valid "p1"
  declarationDigest := .valid (filled 'd')
  providerId := .valid "e"
  providerKeyId := .valid "k"
  providerKeyDigest := .valid (filled '1')
  effectSubjectDigest := none

def sampleBehavior : BehaviorEffectRequirement where
  evidenceKind := .valid "BEHAVIOR"
  expectedStimulusDigest := .valid (filled 'a')
  expectedOutcomeDigest := .valid (filled 'b')

def sampleReceipt : BehaviorEffectReceipt where
  consumerId := .valid "c"
  probeId := .valid "p1"
  evidenceKind := .valid "BEHAVIOR"
  observedProcessInstanceId := some (.valid "i")
  observedRuntimeStateDigest := some (.valid (filled '5'))
  observedStimulusDigest := some (.valid (filled 'a'))
  observedOutcomeDigest := some (.valid (filled 'b'))
  externalEffectId := none
  externalEffectReceiptDigest := none
  status := .valid "PASS"
  receiptDigest := .valid (filled '4')

theorem sampleDocument_readable : (Json.obj sampleDocument).Readable := by
  refine ⟨by decide, ?_⟩
  simp [sampleDocument, Json.ReadableEntries, Json.Readable]

/-- What the file holds. -/
def sampleEvidence : Except Failure Evidence :=
  evidenceOf sampleRuntime (.utf8 (String.ofList (Json.obj sampleDocument).dumps)) (Json.toPyEntries sampleDocument)

theorem sampleDocument_keys : hasKeys (Json.toPyEntries sampleDocument) payloadFields = true := by
  decide +kernel

theorem sample_evidence : sampleTransport.evidence sampleRuntime = sampleEvidence.map some := by
  simp only [Transport.evidence, sampleTransport, loads_dumps sampleDocument_readable, ok_bind, Json.toPy,
    sampleDocument_keys, not_true_eq_false, if_false, sampleEvidence]
  generalize evidenceOf sampleRuntime _ _ = evidence
  cases evidence <;> rfl

def sampleStatus : Except Failure AttestationStatus := do
  let e ← sampleEvidence
  status sampleRuntime sampleRequirement sampleBehavior sampleReceipt
    (← sampleTransport.observation sampleRuntime sampleRequirement e)

/-- The file is of a passed attestation, and its document names the other probe. -/
theorem sampleStatus_facts : sampleStatus = .ok .pass ∧
    sampleEvidence.map (fun e => e.subject.probeId.keyText) = .ok (some (.valid "p2")) := by
  decide +kernel

theorem sample_observe : sampleTransport.observe sampleRuntime sampleRequirement =
    sampleEvidence >>= sampleTransport.observation sampleRuntime sampleRequirement := by
  rw [Transport.observe, if_neg (by decide), if_neg (by decide), if_neg (by decide), if_neg (by decide),
    sample_evidence]
  cases sampleEvidence <;> rfl

theorem sample_passed : ∃ e o, sampleEvidence = .ok e ∧
    sampleTransport.observe sampleRuntime sampleRequirement = .ok o ∧
    status sampleRuntime sampleRequirement sampleBehavior sampleReceipt o = .ok .pass := by
  obtain ⟨e, he, h⟩ := bind_eq_ok.1 sampleStatus_facts.1
  obtain ⟨o, ho, hs⟩ := bind_eq_ok.1 h
  exact ⟨e, o, he, by rw [sample_observe, he]; exact ho, hs⟩

theorem attestation_signed_once_other_probe :
    (∃ e, sampleTransport.evidence sampleRuntime = .ok (some e) ∧
      (Attested sampleRuntime sampleRequirement sampleBehavior sampleReceipt (fun _ => True) e.subject ↔
        UncomparedAgree sampleRequirement sampleBehavior sampleReceipt e.subject)) ∧
    NoncesOnce (.empty sampleRuntime) := by
  obtain ⟨-, o, -, ho, hs⟩ := sample_passed
  have h := attestation_signed_once sampleRuntime
  exact ⟨h.1 sampleTransport sampleRequirement sampleBehavior sampleReceipt o _ (fun _ _ _ => trivial) ho hs,
    h.2 _ .empty⟩

/-- The attestation of another probe passes. -/
theorem other_probe_attested : ¬ ∀ R t q behavior receipt o signed,
    t.verifier.Unforgeable signed → Transport.observe R t q = .ok o →
    status R q behavior receipt o = .ok .pass →
    ∃ e, t.evidence R = .ok (some e) ∧ Attested R q behavior receipt signed e.subject := by
  intro h
  obtain ⟨e, o, he, hobserve, hs⟩ := sample_passed
  obtain ⟨e', he', hattested⟩ := h sampleRuntime sampleTransport sampleRequirement sampleBehavior sampleReceipt o
    (fun _ => True) (fun _ _ _ => trivial) hobserve hs
  rw [sample_evidence, he] at he'
  obtain rfl : e = e' := Option.some.inj (Except.ok.inj he')
  have hother := sampleStatus_facts.2
  rw [he] at hother
  have hnamed := hattested.matched.probeId
  rw [PyValue.equalsText, decide_eq_true_eq] at hnamed
  exact absurd (hnamed.symm.trans (Except.ok.inj hother)) (by decide)

end BehaviorAttestation

end VeraMono
