import VeraMono.Proof.IntranelAdmission

/-!
# One operation for an idempotency key

A message that carries the operation id of the operation on record is never allowed: it settles,
waits or is a conflict. A message that carries its idempotency key under another operation id
passes the comparison with the record, so it is allowed whenever the other checks pass.
`priorDecision_none_iff` says on what the record decides nothing, and `key_admits_one_iff` when a
key admits one operation; `retried_key_allowed` is one that comes back.
-/

namespace VeraMono

namespace Intranel

open Framework

variable {rt : IntranelRuntime} {m : IntranelMessage} {e : ReceiverEvidence} {record : OperationRecord}
  {cancellation : Option CancellationEvidence}

theorem BoundTo.bindingDecision (h : BoundTo rt m e) : bindingDecision rt m e = .ok none := by
  have hnames : ¬ (e.origin ≠ .valid m.origin.text ∨ e.actor ≠ .valid m.actor.text ∨
      e.target ≠ .valid m.target.text) := by
    rw [h.origin, h.actor, h.target]
    simp
  have hrefs : ¬ (e.exactSubject ≠ m.exactSubject.map .valid ∨
      e.authorityClaimRef ≠ m.authorityClaimRef.map .valid) := by
    rw [h.exactSubject, h.authorityClaimRef]
    simp
  rw [Intranel.bindingDecision, h.messageDigest, h.operationDigest]
  simp only [bind, Except.bind, ne_eq, not_true_eq_false, if_false]
  rw [if_neg hnames, if_neg hrefs]
  rfl

theorem Cancellable.cancellationDecision (h : Cancellable m cancellation) :
    relevant (m.performative = .cancel) (cancellationDecision m cancellation) = none := by
  rw [relevant_eq_none]
  intro hcancel
  obtain ⟨c, rfl, htarget, hsubject, hc⟩ := h (of_decide_eq_true hcancel)
  rw [Intranel.cancellationDecision, htarget, hsubject, if_neg (by simp), hc]
  rfl

/-- What is on record decides nothing about a message of another operation, and something about
every other. -/
theorem priorDecision_none_iff : priorDecision rt m (some record) = .ok none ↔
    m.operationId ≠ some record.operationId := by
  rw [priorDecision]
  constructor
  · intro h hid
    simp only [bind_eq_ok, decided, pure_ok, reduceCtorEq, and_false, false_or, exists_false, hid, not_true_eq_false, ne_eq,
      false_and] at h
  · intro h
    rw [if_pos h]
    rfl

theorem priorDecision_duplicate (h : priorDecision rt m (some record) = .ok (some .duplicate)) :
    m.operationId = some record.operationId ∧ m.idempotencyKey = some record.idempotencyKey ∧
      m.operationDigest rt = .ok record.semanticDigest ∧ record.completed = true := by
  rw [priorDecision] at h
  simp only [bind_eq_ok, decided, pure_ok, reduceCtorEq, Option.some.injEq, and_false, false_or, not_not, ne_eq] at h
  obtain ⟨hid, hkey, digest, hdigest, hsame, hcompleted, -⟩ := h
  exact ⟨hid, hkey, hsame ▸ hdigest, hcompleted⟩

/-! ## Decisions that settle -/

/-- Only the record of the operation makes a message a duplicate. -/
theorem admit_duplicate (h : admitMessage rt m e (some record) cancellation = .ok .duplicate) :
    priorDecision rt m (some record) = .ok (some .duplicate) := by
  rw [admitMessage, bind_eq_ok] at h
  obtain ⟨binding, hbinding, h⟩ := h
  rcases bindingDecision_ok hbinding with rfl | ⟨rfl, -⟩
  · cases h
  dsimp only at h
  cases hchecks : checksDecision m e with
  | some d =>
    rw [hchecks] at h
    cases h
    exact absurd hchecks settles_duplicate.checksDecision
  | none =>
    rw [hchecks] at h
    dsimp only at h
    rw [bind_eq_ok] at h
    obtain ⟨prior, hprior, h⟩ := h
    cases prior with
    | some d =>
      cases h
      exact hprior
    | none =>
      have hlast : relevant (m.performative = .cancel) (cancellationDecision m cancellation) ≠ some .duplicate :=
        relevant_ne settles_duplicate.cancellationDecision
      dsimp only at h
      cases hd : relevant (m.performative = .cancel) (cancellationDecision m cancellation) with
      | none =>
        rw [hd] at h
        cases h
      | some d =>
        rw [hd] at h
        cases h
        exact absurd hd hlast

/-! ## Operations on record -/

/-- The message carries an identifier of the operation on record. -/
def Carries (m : IntranelMessage) (record : OperationRecord) : Prop :=
  m.operationId = some record.operationId ∨ m.idempotencyKey = some record.idempotencyKey

/-- The key of the operation on record under another operation id. -/
def Reidentified (m : IntranelMessage) (record : OperationRecord) : Prop :=
  m.idempotencyKey = some record.idempotencyKey ∧ m.operationId ≠ some record.operationId

/-- The receiver knows of nothing against the message. -/
def Unobjectionable (rt : IntranelRuntime) (m : IntranelMessage) (e : ReceiverEvidence)
    (cancellation : Option CancellationEvidence) : Prop :=
  BoundTo rt m e ∧ Checked m e ∧ Cancellable m cancellation

theorem admit_allow_iff_prior : admitMessage rt m e (some record) cancellation = .ok .allow ↔
    Unobjectionable rt m e cancellation ∧ m.operationId ≠ some record.operationId := by
  constructor
  · intro h
    exact ⟨admit_sound h, priorDecision_none_iff.1 (admit_allow_iff.1 h).2.2.1⟩
  · rintro ⟨⟨hbound, hchecked, hcancel⟩, hid⟩
    exact admit_allow_iff.2 ⟨hbound.bindingDecision, checksDecision_eq_none.2 hchecked,
      priorDecision_none_iff.2 hid, hcancel.cancellationDecision⟩

/-- One operation on record is admitted at most once, unless its key comes back under another
operation id in a message that the receiver has nothing against. -/
theorem key_admits_one_iff (rt : IntranelRuntime) (m : IntranelMessage) (e : ReceiverEvidence)
    (record : OperationRecord) (cancellation : Option CancellationEvidence) :
    ((Carries m record → admitMessage rt m e (some record) cancellation ≠ .ok .allow) ∧
      (admitMessage rt m e (some record) cancellation = .ok .duplicate →
        m.operationId = some record.operationId ∧ m.idempotencyKey = some record.idempotencyKey ∧
          m.operationDigest rt = .ok record.semanticDigest ∧ record.completed = true)) ↔
    ¬ (Reidentified m record ∧ Unobjectionable rt m e cancellation) := by
  constructor
  · rintro ⟨hnever, -⟩ ⟨⟨hkey, hid⟩, hgood⟩
    exact hnever (.inr hkey) (admit_allow_iff_prior.2 ⟨hgood, hid⟩)
  · intro hnot
    refine ⟨fun hcarries hallow => ?_, fun hduplicate => priorDecision_duplicate (admit_duplicate hduplicate)⟩
    obtain ⟨hgood, hid⟩ := admit_allow_iff_prior.1 hallow
    exact hnot ⟨⟨hcarries.resolve_left hid, hid⟩, hgood⟩

/-! ## A retry under another id -/

/-- A mutating request with the key of an operation that ran. -/
def retriedExecute : IntranelMessage :=
  { queryWith [] with
    performative := .execute, operationId := some (.valid "op-2"), idempotencyKey := some (.valid "key")
    effectClass := .protectedMutation, authorityClaimRef := some "authority", exactSubject := some "subject" }

def completedOperation : OperationRecord := ⟨.valid "op-1", .valid "key",
  "0000000000000000000000000000000000000000000000000000000000000000", true⟩

/-- What `bind` makes of a message whose digests are known, when every check is true. -/
def clearEvidence (m : IntranelMessage) (messageDigest operationDigest : String) : ReceiverEvidence :=
  { messageDigest, operationDigest := some operationDigest, origin := .valid m.origin.text
    actor := .valid m.actor.text, target := .valid m.target.text, exactSubject := m.exactSubject.map .valid
    authorityClaimRef := m.authorityClaimRef.map .valid, effectiveEffectClass := some m.effectClass
    originAuthenticated := some true, actorAuthenticated := some true, authorityValid := some true
    exactSubjectValid := some true, replayFresh := some true, capabilitiesSupported := some true
    constraintsSatisfied := some true, prohibitedEffectsClear := some true
    transportSecuritySatisfied := some true }

theorem retriedExecute_built : construct quietRuntime retriedExecute.args = .ok retriedExecute :=
  construct_args
    { messageId := rfl
      conversationId := rfl
      operationId := rfl
      targetOperationId := rfl
      parentMessageId := rfl
      idempotencyKey := rfl
      subject := rfl
      exactSubject := rfl
      authorityClaimRef := rfl
      status := rfl
      error := rfl
      constraints := rfl
      prohibitedEffects := rfl
      capabilities := rfl
      provenance := rfl
      payload := rfl
      receipt := rfl
      times := ⟨none, none, rfl, rfl, rfl, rfl, rfl⟩
      priority := rfl
      performative := rfl
      size := checkSize_of_fits (by decide +kernel) }

/-- The key of a completed operation is allowed again under another operation id. -/
theorem retried_key_allowed : ∃ messageDigest operationDigest,
    construct quietRuntime retriedExecute.args = .ok retriedExecute ∧
    retriedExecute.contentDigest quietRuntime = .ok messageDigest ∧
    retriedExecute.operationDigest quietRuntime = .ok operationDigest ∧
    Carries retriedExecute completedOperation ∧
    admitMessage quietRuntime retriedExecute (clearEvidence retriedExecute messageDigest operationDigest)
      (some completedOperation) none = .ok .allow := by
  have hwell := (construct_ok retriedExecute_built).1
  obtain ⟨bytes, hbytes, -⟩ := bind_eq_ok.1 hwell.size
  obtain ⟨bytes', hbytes'⟩ := operationBytes_ok hwell
  have hmessage : retriedExecute.contentDigest quietRuntime = .ok _ := map_eq_ok.2 ⟨bytes, hbytes, rfl⟩
  have hoperation : retriedExecute.operationDigest quietRuntime = .ok _ := map_eq_ok.2 ⟨bytes', hbytes', rfl⟩
  refine ⟨_, _, retriedExecute_built, hmessage, hoperation, .inr rfl, admit_allow_iff_prior.2 ⟨⟨?_, ?_, ?_⟩, ?_⟩⟩
  · refine ⟨hmessage, ?_, rfl, rfl, rfl, rfl, rfl⟩
    rw [IntranelMessage.expectedOperationDigest, hoperation]
    rfl
  · exact ⟨rfl, rfl, rfl, rfl, rfl, fun _ => rfl, fun _ => rfl, fun _ => rfl, fun _ => rfl, fun _ => rfl⟩
  · intro h
    cases h
  · intro h
    simp [retriedExecute, completedOperation] at h

end Intranel

end VeraMono
