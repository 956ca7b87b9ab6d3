import VeraMono.Model.Intranel

/-!
# Intranel admission

`admission.py` of the Intranel: the evidence that a receiver has of a message, the digest of the
operation a message is about, and the decision on the message.
-/

namespace VeraMono

namespace Intranel

inductive AdmissionDecision
  | allow | reject | quarantine | conflict | duplicate
  deriving DecidableEq

structure ReceiverEvidence where
  messageDigest : String
  operationDigest : Option String
  origin : Text
  actor : Text
  target : Text
  exactSubject : Option Text
  authorityClaimRef : Option Text
  effectiveEffectClass : Option EffectClass
  originAuthenticated : Option Bool
  actorAuthenticated : Option Bool
  authorityValid : Option Bool
  exactSubjectValid : Option Bool
  replayFresh : Option Bool
  capabilitiesSupported : Option Bool
  constraintsSatisfied : Option Bool
  prohibitedEffectsClear : Option Bool
  transportSecuritySatisfied : Option Bool

structure OperationRecord where
  operationId : Text
  idempotencyKey : Text
  semanticDigest : String
  completed : Bool

/-- What a receiver observed of the operation that a `CANCEL` names. -/
structure CancellationEvidence where
  targetOperationId : Text
  exactSubject : Text
  cancellable : Option Bool

variable (rt : IntranelRuntime)

namespace IntranelMessage

def operationEntries (m : IntranelMessage) : List (PyValue × PyValue) :=
  [(textValue "protocol", textValue protocol), (textValue "origin", textValue m.origin.text),
    (textValue "target", textValue m.target.text), (textValue "operation_id", optionalText m.operationId),
    (textValue "target_operation_id", optionalText m.targetOperationId),
    (textValue "conversation_id", .str m.conversationId),
    (textValue "performative", textValue m.performative.value),
    (textValue "subject", optionalValue m.subject), (textValue "exact_subject", optionalValue m.exactSubject),
    (textValue "payload", thawJson m.payload),
    (textValue "authority_claim_ref", optionalValue m.authorityClaimRef),
    (textValue "constraints", .list (m.constraints.map optionalValue)),
    (textValue "prohibited_effects", .list (m.prohibitedEffects.map optionalValue)),
    (textValue "idempotency_key", optionalText m.idempotencyKey),
    (textValue "effect_class", textValue m.effectClass.value),
    (textValue "capabilities", .list (m.capabilities.map optionalValue)),
    (textValue "provenance", .list (m.provenance.map optionalValue))]

def operationDigest (m : IntranelMessage) : Except Failure String :=
  (canonicalJsonBytes (.dict m.operationEntries)).map rt.sha256

def expectedOperationDigest (m : IntranelMessage) : Except Failure (Option String) :=
  if m.operationId.isSome then (m.operationDigest rt).map some else .ok none

end IntranelMessage

def bindingDecision (m : IntranelMessage) (e : ReceiverEvidence) : Except Failure (Option AdmissionDecision) := do
  if e.messageDigest ≠ (← m.contentDigest rt) then return some .conflict
  if e.operationDigest ≠ (← m.expectedOperationDigest rt) then return some .conflict
  if e.origin ≠ .valid m.origin.text ∨ e.actor ≠ .valid m.actor.text ∨ e.target ≠ .valid m.target.text then
    return some .conflict
  if e.exactSubject ≠ m.exactSubject.map .valid ∨ e.authorityClaimRef ≠ m.authorityClaimRef.map .valid then
    return some .conflict
  return none

def tristate (value : Option Bool) (falseDecision : AdmissionDecision) : Option AdmissionDecision :=
  match value with
  | none => some .quarantine
  | some false => some falseDecision
  | some true => none

def relevant (isRelevant : Bool) (decision : Option AdmissionDecision) : Option AdmissionDecision :=
  if isRelevant then decision else none

def effectDecision (m : IntranelMessage) (e : ReceiverEvidence) : Option AdmissionDecision :=
  match e.effectiveEffectClass with
  | none => some .quarantine
  | some effective => if effective ≠ m.effectClass then some .conflict else none

/-- A `CANCEL`, or an `EXECUTE` whose effect is not known to be read-only. -/
def requiresAuthority (m : IntranelMessage) (e : ReceiverEvidence) : Bool :=
  m.performative = .cancel || (m.performative = .execute && e.effectiveEffectClass ≠ some .readOnly)

/-- The checks up to the authority, in order: the first that decides. -/
def checksDecision (m : IntranelMessage) (e : ReceiverEvidence) : Option AdmissionDecision :=
  tristate e.originAuthenticated .reject <|> tristate e.actorAuthenticated .reject <|>
  tristate e.replayFresh .reject <|> tristate e.capabilitiesSupported .reject <|>
  tristate e.transportSecuritySatisfied .reject <|>
  relevant m.exactSubject.isSome (tristate e.exactSubjectValid .conflict) <|>
  relevant (m.constraints ≠ []) (tristate e.constraintsSatisfied .reject) <|>
  relevant (m.prohibitedEffects ≠ []) (tristate e.prohibitedEffectsClear .reject) <|>
  relevant (m.performative = .execute || m.performative = .cancel) (effectDecision m e) <|>
  relevant (requiresAuthority m e) (tristate e.authorityValid .reject)

/-- The decision on a message whose operation is on record. -/
def priorDecision (m : IntranelMessage) (prior : Option OperationRecord) :
    Except Failure (Option AdmissionDecision) :=
  match prior with
  | none => .ok none
  | some record => do
    if m.operationId ≠ some record.operationId then return none
    if m.idempotencyKey ≠ some record.idempotencyKey then return some .conflict
    if (← m.operationDigest rt) ≠ record.semanticDigest then return some .conflict
    if ¬ record.completed then return some .quarantine
    return some .duplicate

def cancellationDecision (m : IntranelMessage) (cancellation : Option CancellationEvidence) :
    Option AdmissionDecision :=
  match cancellation with
  | none => some .quarantine
  | some c =>
    if some c.targetOperationId ≠ m.targetOperationId ∨ some c.exactSubject ≠ m.exactSubject.map .valid then
      some .conflict
    else tristate c.cancellable .reject

/-- `admit`. -/
def admitMessage (m : IntranelMessage) (e : ReceiverEvidence) (prior : Option OperationRecord)
    (cancellation : Option CancellationEvidence) : Except Failure AdmissionDecision := do
  match ← bindingDecision rt m e with
  | some decision => return decision
  | none =>
    match checksDecision m e with
    | some decision => return decision
    | none =>
      match ← priorDecision rt m prior with
      | some decision => return decision
      | none => return (relevant (m.performative = .cancel) (cancellationDecision m cancellation)).getD .allow

end Intranel

end VeraMono
