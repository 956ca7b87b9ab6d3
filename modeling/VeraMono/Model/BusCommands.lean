import VeraMono.Model.CoordinationBus

/-!
# The commands of the coordination bus

The write commands of the public `CoordinationBus` and the read of an inbox. A write appends its
event, makes the receipt of the append, and then asks the host for the time of the receipt;
`_receipted` turns what any of these steps raised into the receipt of a failure.
-/

namespace VeraMono

open Framework

/-! ## Actors -/

def allPermissions : List String :=
  ["coordination:read:self", "coordination:read:any", "coordination:post", "coordination:acknowledge",
    "coordination:status", "coordination:review", "coordination:resolve", "coordination:decide"]

structure ActorContext where
  workstream : String
  permissions : List String

variable {D : Type} [DecidableEq D] (R : BusRuntime D) (host : BusHost)

def ActorContext.validate (actor : ActorContext) : Bus D Unit := do
  Bus.lift (validateWorkstream R.py actor.workstream "workstream")
  let unknown := (actor.permissions.filter fun p => p ∉ allPermissions).insertionSort (· ≤ ·)
  let joined := ", ".intercalate unknown
  if unknown ≠ [] then
    throw (busValueError s!"unknown permissions: {joined}")

def ActorContext.require (actor : ActorContext) (permission : String) : Bus D Unit := do
  actor.validate R
  let quoted := reprText R.py permission
  let workstream := actor.workstream
  if permission ∉ actor.permissions then
    throw (busPermissionError s!"{workstream} lacks required permission {quoted}")

/-! ## Evidence -/

/-- `_aware`. -/
def awareTime (value name : String) : Except Failure Rat :=
  match R.aware value with
  | .invalid => .error (busError s!"{name} must be an ISO-8601 datetime")
  | .naive => .error (busError s!"{name} must include a timezone offset")
  | .instant time => .ok time

def TemporalEvidence.checkBounds (e : TemporalEvidence) (role : String) (value : Rat) : Except Failure Unit :=
  match e.lowerBound, e.upperBound with
  | some lower, some upper => do
    let lower ← awareTime R lower s!"{role}.lower_bound"
    let upper ← awareTime R upper s!"{role}.upper_bound"
    if upper < lower ∨ ¬ (lower ≤ value ∧ value ≤ upper) then
      throw (busError "BOUNDED temporal evidence has inconsistent bounds")
  | _, _ => .error (busError "BOUNDED temporal evidence requires both inclusive bounds")

def TemporalEvidence.validate (e : TemporalEvidence) (role : String) : Except Failure Unit := do
  let precision := e.precision
  if precision ∉ temporalPrecisions then
    let quoted := reprText R.py precision
    throw (busError s!"unsupported temporal precision {quoted}")
  validateText e.source "temporal source"
  if e.source = "MODEL" ∧ e.verified then
    throw (busError "model output cannot verify temporal evidence")
  if role ≠ "record_time" ∧ e.source ∈ recordTimeSources then
    throw (busError s!"database record_time cannot substitute for {role}")
  if precision = "UNKNOWN" then
    if e.value.isSome ∨ e.lowerBound.isSome ∨ e.upperBound.isSome then
      throw (busError "UNKNOWN temporal evidence forbids timestamps and bounds")
    if e.verified then
      throw (busError "UNKNOWN temporal evidence may not claim verification")
  else
    if ¬ e.verified then
      throw (busError s!"{precision} temporal evidence must be externally verified")
    validateText (e.referenceId.getD "") "temporal reference_id"
    match e.value with
    | none => throw (busError s!"{precision} temporal evidence requires value")
    | some value => do
      let value ← awareTime R value s!"{role}.value"
      if precision = "BOUNDED" then
        e.checkBounds R role value
      else if e.lowerBound.isSome ∨ e.upperBound.isSome then
        throw (busError s!"{precision} temporal evidence forbids hard bounds")

/-- A string or `None`. -/
def pyMaybe : Option String → PyValue
  | some s => .str (.valid s)
  | none => .none

def busKey (key : String) : PyValue := .str (.valid key)

/-- `as_dict`, in the order of `canonicalize`. -/
def TemporalEvidence.asDict (e : TemporalEvidence) : PyValue :=
  .dict [(busKey "lower_bound", pyMaybe e.lowerBound), (busKey "precision", busKey e.precision),
    (busKey "reference_id", pyMaybe e.referenceId), (busKey "source", busKey e.source),
    (busKey "upper_bound", pyMaybe e.upperBound), (busKey "value", pyMaybe e.value),
    (busKey "verified", .bool e.verified)]

/-- `_time`. -/
def evidencedTime (value : Option TemporalEvidence) (role : String) : Bus D TemporalEvidence := do
  let normalized := value.getD (.unknown "UNAVAILABLE")
  Bus.lift (normalized.validate R role)
  return normalized

def askVerifier (verify : String → String → Nat → Except BusException Bool) (role subject : String) :
    Bus D Bool := fun s =>
  (verify role subject (s.verified role),
    { s with verified := Function.update s.verified role (s.verified role + 1) })

def verifiedClaim (value : TemporalEvidenceInput) (role subject : String) : Bus D (Option TemporalEvidence) :=
  match value with
  | .none => pure none
  | .evidence evidence => do
    Bus.lift (evidence.validate R role)
    if evidence.precision ≠ "UNKNOWN" then
      throw (busValueError s!"non-UNKNOWN {role} requires a verifier-issued TemporalEvidenceEnvelope")
    return some evidence
  | .other =>
    throw ⟨.typeError, s!"{role} must be TemporalEvidence, TemporalEvidenceEnvelope, or None"⟩
  | .envelope envelope =>
    match host.evidenceVerifier with
    | none => throw (busValueError s!"non-UNKNOWN {role} requires an injected trusted verifier")
    | some verify => do
      let accepted ← askVerifier verify role subject
      if ¬ accepted then
        throw (busValueError s!"temporal evidence verification failed for role {role} and subject {subject}")
      return some envelope.evidence

/-! ## Receipts -/

def makeResult (operation : BusOperation) (resultClass : ResultClass) (actor : ActorContext)
    (events : List SequencedEvent) (databaseWriteConfirmed : Bool)
    (threadKey targetBranch acknowledgesEventId : Option String) (limitations : List String)
    (error : Option String) : Bus D CoordinationResult := do
  let event := events.getLast?
  let body : ReceiptBody :=
    { operation, resultClass, outcomeCode := operation.upper ++ "_" ++ resultClass.name
      actorWorkstream := actor.workstream, threadKey
      eventId := event.map fun e => e.event.eventId, eventSequence := event.map SequencedEvent.eventSequence
      targetBranch, databaseWriteConfirmed, acknowledgesEventId, error, limitations }
  if ¬ R.encodesResult events then
    throw (busValueError "surrogates not allowed")
  return ⟨{ body with resultHash := R.resultHash body events }, events⟩

def correctLimitations (limitations : List String) : List String :=
  (limitations.map fun item =>
    if item = "Reading does not acknowledge or consume an event." then
      "Reading does not acknowledge an event and proves no consumption."
    else if item = "Target consumption requires an explicit acknowledgement or linked response." then
      "A linked acknowledgement or response proves only that row's persistence; " ++
        "consumption_time remains UNKNOWN unless independently evidenced."
    else item).eraseDups

/-- The times that a caller of `_wrap` passes. -/
structure GivenTimes where
  entryTime : Option TemporalEvidence
  retrievalTime : Option TemporalEvidence
  eventTime : Option TemporalEvidence
  stateTime : Option TemporalEvidence

def GivenTimes.none : GivenTimes := ⟨Option.none, Option.none, Option.none, Option.none⟩

/-- `_wrap` of the temporal core, which has no receipt time provider. -/
def wrapTemporal (result : CoordinationResult) (times : GivenTimes) (paging : Paging)
    (extraLimitations : List String) : Bus D TemporalCoordinationResult := do
  let entryTime ← evidencedTime R times.entryTime "entry_time"
  let retrievalTime ← evidencedTime R times.retrievalTime "retrieval_time"
  let eventTime ← evidencedTime R times.eventTime "event_time"
  let stateTime ← evidencedTime R times.stateTime "state_time"
  let times : EvidencedTimes := ⟨entryTime, retrievalTime, eventTime, stateTime⟩
  let limitations := correctLimitations (result.receipt.limitations ++ extraLimitations)
  let resultHash := R.temporalHash ⟨result.receipt.resultHash, times, paging, limitations⟩
  return ⟨⟨result.receipt, resultHash, limitations, .unknown "RECEIPT_TIME_UNAVAILABLE", times, paging⟩,
    result.events⟩

def askProvider (provide : String → Nat → Except BusException TemporalEvidenceInput) (subject : String) :
    Bus D TemporalEvidenceInput := fun s =>
  (provide subject s.asked, { s with asked := s.asked + 1 })

/-- What the provider says, verified. -/
def claimReceiptTime (provide : String → Nat → Except BusException TemporalEvidenceInput)
    (subject : String) : Bus D TemporalEvidence := do
  let candidate ← askProvider provide subject
  let verified ← verifiedClaim R host candidate "receipt_time" subject
  return verified.getD (.unknown "RECEIPT_TIME_UNAVAILABLE")

/-- An exception that the receipt time step turns into an unknown time. -/
def BusException.contained (e : BusException) : Bool := e.kind = .typeError ∨ e.kind = .valueError

/-- The `try` of `_wrap`. -/
def receiptTime (provide : String → Nat → Except BusException TemporalEvidenceInput)
    (subject : String) : Bus D TemporalEvidence :=
  tryCatch (claimReceiptTime R host provide subject) fun e =>
    if e.contained then pure (.unknown "UNVERIFIED_RECEIPT_TIME_REJECTED") else throw e

/-- `_wrap` of the public bus. -/
def wrapResult (result : CoordinationResult) (times : GivenTimes) (paging : Paging)
    (extraLimitations : List String) : Bus D TemporalCoordinationResult := do
  let wrapped ← wrapTemporal R result times paging extraLimitations
  match host.receiptTimeProvider with
  | none => return wrapped
  | some provide => do
    let time ← receiptTime R host provide (R.subjectHash (.receipt result.receipt))
    return { wrapped with receipt := { wrapped.receipt with receiptTime := time } }

/-- What `_failure` finds in the arguments of a command. -/
structure FailureContext where
  threadKey : Option String
  targetBranch : Option String
  acknowledgesEventId : Option String

/-- `_failure`. -/
def failureResult (operation : BusOperation) (actor : ActorContext) (context : FailureContext)
    (resultClass : ResultClass) (error : BusException) : Bus D TemporalCoordinationResult := do
  let result ← makeResult R operation resultClass actor [] false context.threadKey context.targetBranch
    context.acknowledgesEventId ["No database write was confirmed."] (some error.message)
  wrapResult R host result .none .none []

/-- The handlers of `_receipted`. -/
def BusErrorClass.resultClass : BusErrorClass → Option ResultClass
  | permissionError => some .denied
  | typeError => some .invalid
  | valueError => some .invalid
  | repositoryConflict => some .conflict
  | lookupError => some .notFound
  | runtimeError => some .conflict
  | other => none

def receipted (operation : BusOperation) (actor : ActorContext) (context : FailureContext)
    (function : Bus D TemporalCoordinationResult) : Bus D TemporalCoordinationResult :=
  tryCatch function fun e =>
    match e.kind.resultClass with
    | some resultClass => failureResult R host operation actor context resultClass e
    | none => throw e

/-! ## Appending -/

/-- `_event`. -/
def busEvent (eventId : String) : Bus D SequencedEvent := do
  Bus.lift (validateText eventId "event_id")
  match ← SQLiteCoordinationRepository.get R.hashing R.py eventId with
  | none =>
    let quoted := reprText R.py eventId
    throw ⟨.lookupError, s!"event {quoted} not found"⟩
  | some event => return event

/-- A text that is neither `None` nor empty. -/
def truthy (text : Option String) : Option String := text.filter fun s => s ≠ ""

/-- `_lineage`. -/
def checkDraftLineage (draft : CoordinationEventDraft) : Bus D Unit := do
  match truthy draft.acknowledgesEventId with
  | none => pure ()
  | some eventId => do
    let original ← busEvent R eventId
    if original.event.threadKey ≠ draft.threadKey then
      throw ⟨.repositoryConflict, "acknowledgement must stay in same thread"⟩
    if some original.event.eventId = draft.supersedesEventId then
      throw ⟨.repositoryConflict, "one reference cannot acknowledge and supersede"⟩
  match truthy draft.supersedesEventId with
  | none => pure ()
  | some eventId => do
    let prior ← busEvent R eventId
    if prior.event.threadKey ≠ draft.threadKey then
      throw ⟨.repositoryConflict, "supersession must stay in same thread"⟩
    let thread ← SQLiteCoordinationRepository.listThread R.hashing R.py draft.threadKey
    if thread.any fun e => e.event.supersedesEventId = some prior.event.eventId then
      throw ⟨.repositoryConflict, "superseded event already has a successor"⟩

/-- What `_append` checks before it writes. -/
def checkAppend (actor : ActorContext) (draft : CoordinationEventDraft) : Bus D Unit := do
  actor.validate R
  Bus.lift (draft.validate R.py)
  if draft.sourceBranch ≠ actor.workstream then
    throw (busPermissionError "source_branch must equal actor workstream")
  checkDraftLineage R draft

/-- `_append` of the core. -/
def baseAppend (operation : BusOperation) (actor : ActorContext) (draft : CoordinationEventDraft) :
    Bus D CoordinationResult := do
  checkAppend R actor draft
  let event ← SQLiteCoordinationRepository.appendDraft R.hashing R.py host.now draft
  makeResult R operation .complete actor [event] true (some event.event.threadKey) event.event.targetBranch
    event.event.acknowledgesEventId
    ["Confirmed write proves persistence of this event only.",
      "Target consumption requires an explicit acknowledgement or linked response.",
      "Coordination events are not canonical memory records.",
      "Exactly-once delivery is not claimed; retry idempotency remains a runtime/storage gate."] none

def appendWrapped (operation : BusOperation) (actor : ActorContext) (draft : CoordinationEventDraft)
    (times : GivenTimes) (extraLimitations : List String) : Bus D TemporalCoordinationResult := do
  let base ← baseAppend R host operation actor draft
  wrapResult R host base times .none extraLimitations

def addressedTarget (actor : ActorContext) (event : SequencedEvent) : Bus D Unit := do
  if event.event.targetBranch ≠ some actor.workstream then
    throw (busPermissionError "only addressed target may acknowledge or review")

/-- A resolution goes from one participant of the thread to the other. -/
def resolutionTarget (actor : ActorContext) (original : SequencedEvent) : Bus D (Option String) := do
  if some actor.workstream ≠ some original.event.sourceBranch ∧
      some actor.workstream ≠ original.event.targetBranch then
    throw (busPermissionError "only a participant may resolve the thread")
  if actor.workstream ≠ original.event.sourceBranch then return some original.event.sourceBranch
  else return original.event.targetBranch

def authorizeGenericPost (actor : ActorContext) (draft : CoordinationEventDraft) : Bus D Unit := do
  Bus.lift (draft.validate R.py)
  if draft.eventType = "ACKNOWLEDGEMENT" then
    actor.require R "coordination:acknowledge"
    let original ← busEvent R (draft.acknowledgesEventId.getD "")
    addressedTarget actor original
    if draft.targetBranch ≠ some original.event.sourceBranch then
      throw (busPermissionError "acknowledgement target must be original source")
  else if draft.eventType = "REVIEW" then
    actor.require R "coordination:review"
    let original ← busEvent R (draft.acknowledgesEventId.getD "")
    addressedTarget actor original
    if draft.targetBranch ≠ some original.event.sourceBranch then
      throw (busPermissionError "review target must be original source")
  else if draft.eventType = "RESOLUTION" then
    actor.require R "coordination:resolve"
    let original ← busEvent R (draft.acknowledgesEventId.getD "")
    let target ← resolutionTarget actor original
    if draft.targetBranch ≠ target then
      throw (busPermissionError "resolution target must be other participant")
  else if draft.eventType = "DECISION" then
    throw (busPermissionError "DECISION requires an externally verified decision-authority capability")
  else actor.require R "coordination:post"

def decisionSubject (actorWorkstream : String) (draft : CoordinationEventDraft) : Bus D String := do
  Bus.lift (validateWorkstream R.py actorWorkstream "actor_workstream")
  Bus.lift (draft.validate R.py)
  if draft.eventType ≠ "DECISION" then
    throw (busValueError "decision authority may bind only a DECISION draft")
  if draft.sourceBranch ≠ actorWorkstream then
    throw (busValueError "decision source_branch must equal actor workstream")
  let canonical ← Bus.lift draft.canonical
  if ¬ (R.encodesObject canonical.payload ∧ R.encodesObject canonical.referenceData) then
    throw (busValueError "surrogates not allowed")
  return R.subjectHash (.decision actorWorkstream canonical)

def verifyDecisionAuthority (value : DecisionAuthorityInput) (actorWorkstream : String)
    (draft : CoordinationEventDraft) : Bus D Unit :=
  match value with
  | .none => throw (busPermissionError "DECISION requires a verifier-issued DecisionAuthorityEnvelope")
  | .envelope =>
    match host.decisionAuthorityVerifier with
    | none =>
      throw (busPermissionError "DECISION requires an injected trusted decision-authority verifier")
    | some verify => do
      let subject ← decisionSubject R actorWorkstream draft
      match verify subject with
      | .error e => throw e
      | .ok false =>
        throw (busPermissionError "decision-authority verification failed for actor and draft subject")
      | .ok true => pure ()

/-! ## The commands -/

abbrev OptionalMapping := Option (List (PyValue × PyValue))

/-- `mapping or {}`. -/
def orEmpty (mapping : OptionalMapping) : PyValue := .dict (mapping.getD [])

structure AcknowledgeArgs where
  eventId : String
  summary : String
  acknowledgementTime : TemporalEvidenceInput
  consumptionTime : TemporalEvidenceInput
  payload : OptionalMapping
  referenceData : OptionalMapping

structure PublishStatusArgs where
  threadKey : String
  targetBranch : Option String
  status : String
  objective : String
  summary : String
  activeIssue : Option String
  acknowledgesEventId : Option String
  supersedesEventId : Option String
  payload : OptionalMapping
  referenceData : OptionalMapping

structure RequestReviewArgs where
  threadKey : String
  targetBranch : String
  objective : String
  summary : String
  requestedPerspective : String
  acknowledgesEventId : Option String
  payload : OptionalMapping
  referenceData : OptionalMapping

structure ResolveThreadArgs where
  acknowledgesEventId : String
  summary : String
  payload : OptionalMapping
  referenceData : OptionalMapping

structure ExitCheckpointArgs where
  threadKey : String
  targetBranch : Option String
  objective : String
  summary : String
  material : Bool
  status : String
  activeIssue : Option String
  acknowledgesEventId : Option String
  eventTime : TemporalEvidenceInput
  stateTime : TemporalEvidenceInput
  referenceData : OptionalMapping

inductive BusCommand
  | post (draft : CoordinationEventDraft) (decisionAuthority : DecisionAuthorityInput)
  | acknowledge (args : AcknowledgeArgs)
  | publishStatus (args : PublishStatusArgs)
  | requestReview (args : RequestReviewArgs)
  | resolveThread (args : ResolveThreadArgs)
  | exitCheckpoint (args : ExitCheckpointArgs)

def coordinationPost (actor : ActorContext) (draft : CoordinationEventDraft)
    (decisionAuthority : DecisionAuthorityInput) : Bus D TemporalCoordinationResult :=
  receipted R host .post actor ⟨some draft.threadKey, draft.targetBranch, draft.acknowledgesEventId⟩ do
    actor.validate R
    Bus.lift (draft.validate R.py)
    if draft.eventType = "DECISION" then
      if draft.sourceBranch ≠ actor.workstream then
        throw (busPermissionError "source_branch must equal actor workstream")
      verifyDecisionAuthority R host decisionAuthority actor.workstream draft
      appendWrapped R host .post actor draft .none []
    else
      match decisionAuthority with
      | .envelope => throw (busValueError "decision authority may be supplied only for DECISION")
      | .none => do
        authorizeGenericPost R actor draft
        appendWrapped R host .post actor draft .none []

def acknowledgementSubject (args : AcknowledgeArgs) (actorWorkstream threadKey : String) : Bus D String := do
  let payload ← Bus.lift (canonicalize (orEmpty args.payload))
  let referenceData ← Bus.lift (canonicalize (orEmpty args.referenceData))
  if ¬ (R.encodesObject payload ∧ R.encodesObject referenceData) then
    throw (busValueError "surrogates not allowed")
  return R.subjectHash
    (.acknowledgement args.eventId actorWorkstream threadKey args.summary payload referenceData)

/-- `supplied_payload`. -/
def acknowledgementPayload (payload : OptionalMapping) (acknowledgement consumption : TemporalEvidence) :
    Bus D PyValue := do
  let supplied := payload.getD []
  if supplied.any fun e => e.1.keyText = some (.valid "temporal") then
    throw (busValueError "payload.temporal is reserved by the coordination contract")
  return .dict (supplied ++ [(busKey "temporal", .dict
    [(busKey "acknowledgement_time", acknowledgement.asDict), (busKey "consumption_time", consumption.asDict),
      (busKey "record_time_semantics", busKey "DATABASE_PERSISTENCE_TIME_ONLY")])])

def acknowledgementDraft (actor : ActorContext) (args : AcknowledgeArgs) (original : SequencedEvent)
    (payload : PyValue) : CoordinationEventDraft where
  threadKey := original.event.threadKey
  sourceBranch := actor.workstream
  targetBranch := some original.event.sourceBranch
  eventType := "ACKNOWLEDGEMENT"
  status := "ACKNOWLEDGED"
  objective := original.event.objective
  summary := args.summary
  activeIssue := none
  requestedPerspective := none
  supersedesEventId := none
  acknowledgesEventId := some original.event.eventId
  payload := payload
  referenceData := orEmpty args.referenceData

/-- `coordination_acknowledge` of the temporal core. -/
def temporalAcknowledge (actor : ActorContext) (args : AcknowledgeArgs)
    (acknowledgementTime consumptionTime : Option TemporalEvidence) : Bus D TemporalCoordinationResult :=
  receipted R host .acknowledge actor ⟨none, none, truthy (some args.eventId)⟩ do
    actor.require R "coordination:acknowledge"
    let original ← busEvent R args.eventId
    addressedTarget actor original
    let acknowledgement ← evidencedTime R acknowledgementTime "acknowledgement_time"
    let consumption ← evidencedTime R consumptionTime "consumption_time"
    let payload ← acknowledgementPayload args.payload acknowledgement consumption
    appendWrapped R host .acknowledge actor (acknowledgementDraft actor args original payload)
      { GivenTimes.none with eventTime := some acknowledgement, stateTime := some consumption }
      ["Acknowledgement record_time proves database persistence only.",
        "Acknowledgement does not prove processing completion or consumption time."]

def coordinationAcknowledge (actor : ActorContext) (args : AcknowledgeArgs) :
    Bus D TemporalCoordinationResult :=
  receipted R host .acknowledge actor ⟨none, none, truthy (some args.eventId)⟩ do
    actor.require R "coordination:acknowledge"
    let original ← busEvent R args.eventId
    addressedTarget actor original
    let subject ← acknowledgementSubject R args actor.workstream original.event.threadKey
    let acknowledgement ← verifiedClaim R host args.acknowledgementTime "acknowledgement_time" subject
    let consumption ← verifiedClaim R host args.consumptionTime "consumption_time" subject
    temporalAcknowledge R host actor args acknowledgement consumption

def coordinationPublishStatus (actor : ActorContext) (args : PublishStatusArgs) :
    Bus D TemporalCoordinationResult :=
  receipted R host .publishStatus actor
      ⟨truthy (some args.threadKey), truthy args.targetBranch, truthy args.acknowledgesEventId⟩ do
    actor.require R "coordination:status"
    appendWrapped R host .publishStatus actor
      { threadKey := args.threadKey, sourceBranch := actor.workstream, targetBranch := args.targetBranch
        eventType := "STATUS", status := args.status, objective := args.objective, summary := args.summary
        activeIssue := args.activeIssue, requestedPerspective := none
        supersedesEventId := args.supersedesEventId, acknowledgesEventId := args.acknowledgesEventId
        payload := orEmpty args.payload, referenceData := orEmpty args.referenceData } .none []

def coordinationRequestReview (actor : ActorContext) (args : RequestReviewArgs) :
    Bus D TemporalCoordinationResult :=
  receipted R host .requestReview actor
      ⟨truthy (some args.threadKey), truthy (some args.targetBranch), truthy args.acknowledgesEventId⟩ do
    actor.require R "coordination:review"
    Bus.lift (validateText args.requestedPerspective "requested_perspective")
    appendWrapped R host .requestReview actor
      { threadKey := args.threadKey, sourceBranch := actor.workstream, targetBranch := some args.targetBranch
        eventType := "STATUS", status := "READY_FOR_REVIEW", objective := args.objective
        summary := args.summary, activeIssue := none
        requestedPerspective := some args.requestedPerspective, supersedesEventId := none
        acknowledgesEventId := args.acknowledgesEventId, payload := orEmpty args.payload
        referenceData := orEmpty args.referenceData } .none []

def coordinationResolveThread (actor : ActorContext) (args : ResolveThreadArgs) :
    Bus D TemporalCoordinationResult :=
  receipted R host .resolveThread actor ⟨none, none, truthy (some args.acknowledgesEventId)⟩ do
    actor.require R "coordination:resolve"
    let original ← busEvent R args.acknowledgesEventId
    let target ← resolutionTarget actor original
    appendWrapped R host .resolveThread actor
      { threadKey := original.event.threadKey, sourceBranch := actor.workstream, targetBranch := target
        eventType := "RESOLUTION", status := "RESOLVED", objective := original.event.objective
        summary := args.summary, activeIssue := none, requestedPerspective := none
        supersedesEventId := none, acknowledgesEventId := some original.event.eventId
        payload := orEmpty args.payload, referenceData := orEmpty args.referenceData } .none []

def exitCheckpointSubject (actor : ActorContext) (args : ExitCheckpointArgs) : Bus D String := do
  let referenceData ← Bus.lift (canonicalize (orEmpty args.referenceData))
  if ¬ R.encodesObject referenceData then
    throw (busValueError "surrogates not allowed")
  return R.subjectHash (.exitCheckpoint actor.workstream args.threadKey args.targetBranch args.objective
    args.summary args.material args.status args.activeIssue args.acknowledgesEventId referenceData)

def exitDraft (actor : ActorContext) (args : ExitCheckpointArgs) (event state : TemporalEvidence) :
    CoordinationEventDraft where
  threadKey := args.threadKey
  sourceBranch := actor.workstream
  targetBranch := args.targetBranch
  eventType := "STATUS"
  status := args.status
  objective := args.objective
  summary := args.summary
  activeIssue := args.activeIssue
  requestedPerspective := none
  supersedesEventId := none
  acknowledgesEventId := args.acknowledgesEventId
  payload := .dict [(busKey "temporal", .dict
    [(busKey "event_time", event.asDict), (busKey "state_time", state.asDict),
      (busKey "record_time_semantics", busKey "DATABASE_PERSISTENCE_TIME_ONLY")])]
  referenceData := orEmpty args.referenceData

def ExitCheckpointArgs.context (args : ExitCheckpointArgs) : FailureContext :=
  ⟨truthy (some args.threadKey), truthy args.targetBranch, truthy args.acknowledgesEventId⟩

/-- `exit_checkpoint` of the temporal core. -/
def temporalExitCheckpoint (actor : ActorContext) (args : ExitCheckpointArgs)
    (eventTime stateTime : Option TemporalEvidence) : Bus D TemporalCoordinationResult :=
  receipted R host .exitCheckpoint actor args.context do
    actor.validate R
    let event ← evidencedTime R eventTime "event_time"
    let state ← evidencedTime R stateTime "state_time"
    let times := { GivenTimes.none with eventTime := some event, stateTime := some state }
    if args.material then
      actor.require R "coordination:status"
      appendWrapped R host .exitCheckpoint actor (exitDraft actor args event state) times
        ["The coordination row record_time is not the material transition event_time or state_time."]
    else
      let base ← makeResult R .exitCheckpoint .complete actor [] false (some args.threadKey)
        args.targetBranch none ["No event written because the exit was not material."] none
      wrapResult R host base times .none []

def exitCheckpoint (actor : ActorContext) (args : ExitCheckpointArgs) :
    Bus D TemporalCoordinationResult :=
  receipted R host .exitCheckpoint actor args.context do
    actor.validate R
    if args.material then actor.require R "coordination:status"
    let subject ← exitCheckpointSubject R actor args
    let event ← verifiedClaim R host args.eventTime "event_time" subject
    let state ← verifiedClaim R host args.stateTime "state_time" subject
    temporalExitCheckpoint R host actor args event state

/-- A write command of the bus. -/
def BusCommand.run (actor : ActorContext) : BusCommand → Bus D TemporalCoordinationResult
  | post draft decisionAuthority => coordinationPost R host actor draft decisionAuthority
  | acknowledge args => coordinationAcknowledge R host actor args
  | publishStatus args => coordinationPublishStatus R host actor args
  | requestReview args => coordinationRequestReview R host actor args
  | resolveThread args => coordinationResolveThread R host actor args
  | exitCheckpoint args => VeraMono.exitCheckpoint R host actor args

/-! ## Reading an inbox -/

structure ReadInboxArgs where
  targetBranch : Option String
  afterSequence : Int
  limit : Int
  includeAcknowledged : Bool

/-- The inbox that a read is about: `target_branch or actor.canonical_workstream`. -/
def ReadInboxArgs.target (args : ReadInboxArgs) (actor : ActorContext) : String :=
  (truthy args.targetBranch).getD actor.workstream

/-- `_read_temporal`, without evidence of the entry and the retrieval. -/
def readTemporal (operation : BusOperation) (actor : ActorContext) (args : ReadInboxArgs) :
    Bus D TemporalCoordinationResult := do
  actor.validate R
  let target := args.target actor
  Bus.lift (validateWorkstream R.py target "target_branch")
  actor.require R (if target = actor.workstream then "coordination:read:self" else "coordination:read:any")
  if args.afterSequence < 0 then
    throw (busValueError "after_sequence must be a non-negative exclusive high-water mark")
  if ¬ (1 ≤ args.limit ∧ args.limit ≤ 500) then
    throw (busValueError "limit must be between 1 and 500")
  let limit := args.limit.toNat
  let raw ← SQLiteCoordinationRepository.readInbox R.hashing R.py target args.afterSequence (limit + 1)
    args.includeAcknowledged
  let hasMore := limit < raw.length
  let events := raw.take limit
  let cursorOut : Int := (events.getLast?.map fun e => (e.eventSequence : Int)).getD args.afterSequence
  let base ← makeResult R operation .complete actor events false none (some target) none
    ["Read completion proves only rows returned at this invocation.",
      "Reading does not acknowledge an event and proves no consumption.",
      "Coordination events are not canonical memory records."] none
  wrapResult R host base .none ⟨some args.afterSequence, some cursorOut, some args.limit, some hasMore⟩
    ["cursor_out is an exclusive sequence high-water mark candidate, not a time.",
      "The caller must durably handle the complete returned page before committing cursor_out.",
      "Sequence gaps do not imply missing time, delivery, consumption, or continuous activity."]

def coordinationReadInbox (actor : ActorContext) (args : ReadInboxArgs) :
    Bus D TemporalCoordinationResult :=
  receipted R host .readInbox actor ⟨none, truthy args.targetBranch, none⟩
    (readTemporal R host .readInbox actor args)

end VeraMono
