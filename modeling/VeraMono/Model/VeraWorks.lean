import Mathlib.Data.Rat.Defs
import Mathlib.Logic.Function.Basic
import VeraMono.Model.Canonical

/-!
# Vera Works

`contracts.py`, `state_machine.py` and `projections.py` of Vera Works: the events of a
history, the validator that runs their state machine, and the projections of a history. A
projection reads events that passed `validate_event`. Amounts are exact decimals.
-/

namespace VeraMono

def Text.isEmpty (t : Text) : Bool := t.codePoints.isEmpty

namespace PyValue

def isString (value : PyValue) (s : String) : Bool := value.keyText = some (.valid s)

/-- A text that is not empty. -/
def isFilled (value : PyValue) : Bool := value.keyText.any fun t => !t.isEmpty

def isTextOrNone : PyValue → Bool
  | .none => true
  | .str _ => true
  | _ => false

end PyValue

namespace VeraWorks

/-! ## Events -/

inductive DecimalParse
  | invalid
  | nonFinite
  | finite (value : Rat)

/-- What the code asks of the standard library. -/
structure WorksRuntime where
  /-- `str`. -/
  str : PyValue → String
  /-- `==` of two values that the code knows nothing about. -/
  eq : PyValue → PyValue → Bool
  /-- `datetime.fromisoformat` accepts the code points. -/
  fromisoformat : List Nat → Bool
  decimal : Text → DecimalParse
  isalpha : Text → Bool
  upper : Text → Text
  strip : Text → Text

/-- A dictionary. -/
abbrev PyDict : Type := List (PyValue × PyValue)

/-- `d.get(key)`, or nothing where the key is missing. -/
def PyDict.get? (d : PyDict) (key : String) : Option PyValue :=
  (d.find? fun e => e.1.keyText = some (.valid key)).map Prod.snd

def PyDict.get (d : PyDict) (key : String) : PyValue := (d.get? key).getD .none

def PyDict.text? (d : PyDict) (key : String) : Option Text := (d.get? key).bind PyValue.keyText

/-- `bool(value)`. -/
def truthy : PyValue → Bool
  | .none => false
  | .bool b => b
  | .int i => i ≠ 0
  | .float value => value ≠ some 0
  | .str t => !t.isEmpty
  | .bytes data => !data.isEmpty
  | .list items => !items.isEmpty
  | .tuple items => !items.isEmpty
  | .set items => !items.isEmpty
  | .dict entries => !entries.isEmpty
  | .enum _ => true
  | .path _ => true
  | .dataclass _ _ => true
  | .other _ => true

mutual

/-- `hash(value)` raises nothing. -/
def hashable : PyValue → Bool
  | .list _ => false
  | .set _ => false
  | .dict _ => false
  | .tuple items => hashableItems items
  | .none => true
  | .bool _ => true
  | .int _ => true
  | .float _ => true
  | .str _ => true
  | .bytes _ => true
  | .enum _ => true
  | .path _ => true
  | .dataclass _ _ => true
  | .other _ => true

def hashableItems : List PyValue → Bool
  | [] => true
  | v :: vs => hashable v && hashableItems vs

end

/-- A value that is put in a set or looked up in a dictionary. -/
def checkHash (value : PyValue) : Except Failure Unit :=
  if hashable value then .ok () else .error ⟨.typeError, "unhashable type"⟩

/-! ## `states-v1.json` -/

structure SubjectStates where
  subjectType : String
  initialStates : List String
  transitions : List (String × List String)

def loadStates : List SubjectStates :=
  [⟨"opportunity", ["DISCOVERED"],
      [("DISCOVERED", ["SCREENING", "REJECTED", "CLOSED"]),
        ("SCREENING", ["VERA_DECISION", "REJECTED", "CLOSED"]),
        ("VERA_DECISION", ["APPROVED", "REJECTED", "CLOSED"]), ("APPROVED", ["CLOSED"]),
        ("REJECTED", ["CLOSED"]), ("CLOSED", [])]⟩,
    ⟨"assignment", ["CREATED"],
      [("CREATED", ["CLAIMED", "CANCELLED"]), ("CLAIMED", ["IN_PROGRESS", "CANCELLED", "FAILED"]),
        ("IN_PROGRESS", ["HELD", "COMPLETED", "CANCELLED", "FAILED"]),
        ("HELD", ["IN_PROGRESS", "COMPLETED", "CANCELLED", "FAILED"]), ("COMPLETED", []),
        ("CANCELLED", []), ("FAILED", [])]⟩,
    ⟨"deliverable", ["DRAFTING"],
      [("DRAFTING", ["VERA_REVIEW", "REJECTED"]), ("VERA_REVIEW", ["APPROVED", "REJECTED", "RETURNED"]),
        ("APPROVED", ["SUBMITTED"]), ("REJECTED", []), ("SUBMITTED", ["ACCEPTED", "RETURNED"]),
        ("ACCEPTED", []), ("RETURNED", ["DRAFTING", "VERA_REVIEW"])]⟩,
    ⟨"financial", ["EARNED", "SPENT"],
      [("EARNED", ["RECEIVABLE"]), ("RECEIVABLE", ["RECEIVED", "DISPUTED"]),
        ("RECEIVED", ["REFUNDED", "DISPUTED", "SPENT"]), ("REFUNDED", []),
        ("DISPUTED", ["RECEIVED", "REFUNDED"]), ("SPENT", [])]⟩,
    ⟨"hold", ["OPEN"], [("OPEN", ["RESOLVED", "CANCELLED"]), ("RESOLVED", []), ("CANCELLED", [])]⟩]

/-- The states of a subject type that the document lists. -/
def statesOf (subjectType : Text) : Option SubjectStates :=
  loadStates.find? fun s => subjectType = .valid s.subjectType

def SubjectStates.Lists (s : SubjectStates) (state : Text) : Prop :=
  ∃ t ∈ s.transitions, state = .valid t.1

instance (s : SubjectStates) (state : Text) : Decidable (s.Lists state) :=
  inferInstanceAs (Decidable (∃ t ∈ s.transitions, state = .valid t.1))

def SubjectStates.Leads (s : SubjectStates) (state next : Text) : Prop :=
  ∃ t ∈ s.transitions, state = .valid t.1 ∧ ∃ n ∈ t.2, next = .valid n

instance (s : SubjectStates) (state next : Text) : Decidable (s.Leads state next) :=
  inferInstanceAs (Decidable (∃ t ∈ s.transitions, state = .valid t.1 ∧ ∃ n ∈ t.2, next = .valid n))

/-! ## `validate_event` -/

def requiredEventFields : List String :=
  ["schema_version", "event_id", "event_type", "subject_type", "subject_id", "actor", "recorded_at",
    "correlation_id", "causation_id", "idempotency_key", "from_state", "to_state", "payload",
    "external_effect"]

def holdRequiredFrom : List (String × String) :=
  [("VERA_DECISION_REQUIRED", "vera"), ("PATRICK_ACTION_REQUIRED", "patrick"),
    ("PATRICK_DECISION_REQUIRED", "patrick"), ("AUTOMATION_EXCEPTION", "automation")]

variable (rt : WorksRuntime)

def isUtcIso8601 (value : PyValue) : Bool :=
  value.keyText.any fun t => t.codePoints.getLast? = some 'Z'.toNat &&
    rt.fromisoformat (t.codePoints.dropLast ++ "+00:00".toList.map Char.toNat)

/-- `_decimal`. -/
def decimal? (value : PyValue) : Option Rat :=
  match value.keyText with
  | none => none
  | some t =>
    if t.isEmpty then none
    else match rt.decimal t with
    | .finite r => some r
    | _ => none

/-- A check and the message of its failure. -/
def demand (holds : Bool) (message : String) : List String := if holds then [] else [message]

def positiveMoney (payload : PyDict) (field state : String) : List String :=
  demand ((decimal? rt (payload.get field)).any fun amount => 0 < amount)
    s!"financial {state} {field} must be greater than zero"

/-- The amount that `_nonnegative_money` returns. -/
def nonnegative? (payload : PyDict) (field : String) : Option Rat :=
  (decimal? rt (payload.get field)).filter fun amount => 0 ≤ amount

/-- What `_nonnegative_money` reports. -/
def nonnegativeMoney (payload : PyDict) (field state : String) : List String :=
  demand (nonnegative? rt payload field).isSome
    s!"financial {state} {field} must be a non-negative decimal string"

/-- The net is what the fees and the tax reserve leave, where all four are amounts. -/
def netAgrees (payload : PyDict) : Bool :=
  match nonnegative? rt payload "gross", nonnegative? rt payload "fees", nonnegative? rt payload "tax_reserve",
    nonnegative? rt payload "net" with
  | some gross, some fees, some taxReserve, some net => net = gross - fees - taxReserve
  | _, _, _, _ => true

/-- The currency check of `_validate_financial_payload`. -/
def currencyCode (value : PyValue) : Bool :=
  value.keyText.any fun t => t.codePoints.length = 3 && rt.isalpha t && rt.upper t = t

def validateFinancialPayload (state : String) (payload : PyDict) : List String :=
  demand (currencyCode rt (payload.get "currency"))
      s!"financial {state} currency must be a three-letter uppercase code" ++
    match state with
    | "EARNED" | "RECEIVABLE" => nonnegativeMoney rt payload "gross" state
    | "RECEIVED" =>
      nonnegativeMoney rt payload "gross" state ++ nonnegativeMoney rt payload "fees" state ++
        nonnegativeMoney rt payload "tax_reserve" state ++ nonnegativeMoney rt payload "net" state ++
        demand (netAgrees rt payload) "financial RECEIVED net must equal gross - fees - tax_reserve"
    | "REFUNDED" =>
      positiveMoney rt payload "amount" state ++
        demand (payload.get "reverses_event_id").isFilled
          "financial REFUNDED reverses_event_id must be a non-empty string"
    | "SPENT" =>
      positiveMoney rt payload "amount" state ++
        demand ((payload.text? "purpose").any fun t => !(rt.strip t).isEmpty)
          "financial SPENT purpose must be a non-empty string"
    | _ => []

def arrayField (payload : PyDict) (field : String) : Bool :=
  match payload.get? field with
  | none => true
  | some (.list _) => true
  | some _ => false

def validateHoldPayload (state : String) (payload : PyDict) : Except Failure (List String) := do
  if state ≠ "OPEN" then return []
  let kind := payload.get "hold_kind"
  checkHash kind
  let expectedActor := holdRequiredFrom.find? fun e => kind.isString e.1
  let kindText := rt.str kind
  let actors := match expectedActor with
    | none => []
    | some (_, actor) =>
      demand ((payload.get "required_from").isString actor) s!"{kindText} required_from must equal {actor}"
  return actors ++ demand (arrayField payload "alternatives") "hold alternatives must be an array" ++
    demand (arrayField payload "consequences") "hold consequences must be an array"

/-- The fields that must be non-empty strings. -/
def textFields : List String :=
  ["event_id", "event_type", "subject_id", "actor", "correlation_id", "idempotency_key"]

def payload? (event : PyDict) : Option PyDict :=
  match event.get "payload" with
  | .dict entries => some entries
  | _ => none

/-- The checks of the subject type and the state. -/
def validateState (event : PyDict) : Except Failure (List String) := do
  let subjectType := event.get "subject_type"
  checkHash subjectType
  let subjectTypeText := rt.str subjectType
  let toStateText := rt.str (event.get "to_state")
  match (event.text? "subject_type").bind statesOf with
  | none => return [s!"unsupported subject_type: {subjectTypeText}"]
  | some states =>
    return demand ((event.text? "to_state").any fun t => states.Lists t)
      s!"unsupported to_state for {subjectTypeText}: {toStateText}"

/-- The checks of the payload, by subject type and state. -/
def validatePayload (event : PyDict) : Except Failure (List String) :=
  match payload? event, event.text? "subject_type", event.text? "to_state" with
  | some payload, some (.valid "financial"), some (.valid state) =>
    if (statesOf (.valid "financial")).any fun s => s.Lists (.valid state) then
      .ok (validateFinancialPayload rt state payload)
    else .ok []
  | some payload, some (.valid "hold"), some (.valid state) =>
    if (statesOf (.valid "hold")).any fun s => s.Lists (.valid state) then
      validateHoldPayload rt state payload
    else .ok []
  | _, _, _ => .ok []

def validateEvent (event : PyDict) : Except Failure (List String) := do
  let missing := requiredEventFields.filter fun field => (event.get? field).isNone
  if missing ≠ [] then return missing.map fun field => s!"missing required field: {field}"
  let states ← validateState rt event
  let payload ← validatePayload rt event
  return demand ((event.get "schema_version").isString "event-v1") "schema_version must equal event-v1" ++
    states ++
    demand (isUtcIso8601 rt (event.get "recorded_at"))
      "recorded_at must be an ISO-8601 UTC timestamp ending in Z" ++
    demand (match event.get "external_effect" with | .bool _ => true | _ => false)
      "external_effect must be boolean" ++
    demand (payload? event).isSome "payload must be an object" ++
    (textFields.flatMap fun field => demand (event.get field).isFilled s!"{field} must be a non-empty string") ++
    demand (event.get "causation_id").isTextOrNone "causation_id must be a string or null" ++
    demand (event.get "from_state").isTextOrNone "from_state must be a string or null" ++ payload

/-! ## `validate_history` -/

/-- The fields of an event that passed `validate_event`. -/
structure WorksEvent where
  eventId : Text
  eventType : Text
  subjectType : Text
  subjectId : Text
  actor : Text
  recordedAt : Text
  causationId : Option Text
  idempotencyKey : Text
  fromState : Option Text
  toState : Text
  payload : PyDict

/-- A required string of an event. -/
def PyDict.text (event : PyDict) (field : String) : Text := (event.text? field).getD (.valid "")

def WorksEvent.of (event : PyDict) : WorksEvent where
  eventId := event.text "event_id"
  eventType := event.text "event_type"
  subjectType := event.text "subject_type"
  subjectId := event.text "subject_id"
  actor := event.text "actor"
  recordedAt := event.text "recorded_at"
  causationId := event.text? "causation_id"
  idempotencyKey := event.text "idempotency_key"
  fromState := event.text? "from_state"
  toState := event.text "to_state"
  payload := (payload? event).getD []

structure Lease where
  holder : PyValue
  claimEventId : Text
  claimedAt : PyValue
  expiresAt : PyValue

/-- What `validate_history` keeps. -/
structure HistoryState where
  seenEventIds : List Text
  seenIdempotencyKeys : List Text
  states : Text × Text → Option Text
  openHoldEvents : Text → Option WorksEvent
  leases : Text → Option Lease

def HistoryState.initial : HistoryState := ⟨[], [], fun _ => none, fun _ => none, fun _ => none⟩

def holdKinds : List String :=
  ["VERA_DECISION_REQUIRED", "PATRICK_ACTION_REQUIRED", "PATRICK_DECISION_REQUIRED",
    "AUTOMATION_EXCEPTION"]

def holdRequiredFields : List String :=
  ["hold_kind", "problem", "held_subject_type", "held_subject_id", "held_state", "required_from",
    "recommendation", "alternatives", "consequences", "inaction_effect", "resume_event_type"]

namespace WorksEvent

def subjectKey (e : WorksEvent) : Text × Text := (e.subjectType, e.subjectId)

def isAssignment (e : WorksEvent) : Bool := e.subjectType = .valid "assignment"

def isFinancial (e : WorksEvent) : Bool := e.subjectType = .valid "financial"

def isHold (e : WorksEvent) : Bool := e.subjectType = .valid "hold"

def opens (e : WorksEvent) : Bool := e.isHold && e.toState = .valid "OPEN"

def closes (e : WorksEvent) : Bool :=
  e.isHold && (e.toState = .valid "RESOLVED" || e.toState = .valid "CANCELLED")

def ends (e : WorksEvent) : Bool :=
  e.toState = .valid "COMPLETED" || e.toState = .valid "CANCELLED" || e.toState = .valid "FAILED"

def holder (e : WorksEvent) : PyValue := e.payload.get "holder"

def resolutionOf (e : WorksEvent) : PyValue := e.payload.get "resolution_of"

end WorksEvent

def textOf (t : Text) : String := rt.str (.str t)

def optionalText (t : Option Text) : String := rt.str (t.elim .none .str)

def checkKeys (s : HistoryState) (e : WorksEvent) : List String :=
  let eventId := textOf rt e.eventId
  let idem := textOf rt e.idempotencyKey
  demand (e.eventId ∉ s.seenEventIds) s!"duplicate event_id: {eventId}" ++
    demand (e.idempotencyKey ∉ s.seenIdempotencyKeys) s!"duplicate idempotency_key: {idem}"

def checkTransition (s : HistoryState) (e : WorksEvent) : List String :=
  let subjectType := textOf rt e.subjectType
  let subjectId := textOf rt e.subjectId
  let toState := textOf rt e.toState
  let expected := s.states e.subjectKey
  let expectedText := optionalText rt expected
  let suppliedText := optionalText rt e.fromState
  if expected ≠ e.fromState then
    [s!"stale from_state for {subjectType} {subjectId}: expected {expectedText}, got {suppliedText}"]
  else match expected with
  | none =>
    demand ((statesOf e.subjectType).any fun states => ∃ i ∈ states.initialStates, e.toState = .valid i)
      s!"illegal initial state for {subjectType} {subjectId}: {toState}"
  | some state =>
    demand ((statesOf e.subjectType).any fun states => states.Leads state e.toState)
      s!"illegal transition for {subjectType} {subjectId}: {expectedText} -> {toState}"

def nextLease (lease : Option Lease) (e : WorksEvent) : List String × Option Lease :=
  let assignmentId := textOf rt e.subjectId
  let holder := e.holder
  let expiresAt := e.payload.get "expires_at"
  let action := e.payload.get "lease_action"
  if action.isString "CLAIM" then
    match lease with
    | some lease =>
      let held := rt.str lease.holder
      ([s!"assignment {assignmentId} already leased to {held}"], some lease)
    | none =>
      if ¬ truthy holder then ([s!"assignment {assignmentId} claim missing holder"], none)
      else if ¬ truthy (e.payload.get "claimed_at") then
        ([s!"assignment {assignmentId} claim missing claimed_at"], none)
      else ([], some ⟨holder, e.eventId, e.payload.get "claimed_at", expiresAt⟩)
  else if action.isString "TRANSFER" then
    match lease with
    | none => ([s!"assignment {assignmentId} transfer has no active lease"], none)
    | some lease =>
      let held := rt.str lease.holder
      let previous := e.payload.get "previous_holder"
      let previousText := rt.str previous
      if ¬ rt.eq previous lease.holder then
        ([s!"assignment {assignmentId} transfer previous_holder mismatch: expected {held}, " ++
          s!"got {previousText}"], some lease)
      else if ¬ truthy holder then ([s!"assignment {assignmentId} transfer missing holder"], some lease)
      else ([], some ⟨holder, e.eventId, .str e.recordedAt, expiresAt⟩)
  else
    match lease, holder with
    | none, _ => ([], none)
    | some lease, .none => ([], some lease)
    | some lease, holder =>
      let held := rt.str lease.holder
      let holderText := rt.str holder
      (demand (rt.eq holder lease.holder)
        s!"assignment {assignmentId} lease holder mismatch: expected {held}, got {holderText}", some lease)

def stepLeases (s : HistoryState) (e : WorksEvent) : List String × (Text → Option Lease) :=
  if e.isAssignment then
    let (errors, lease) := nextLease rt (s.leases e.subjectId) e
    (errors, Function.update s.leases e.subjectId (if e.ends then none else lease))
  else ([], s.leases)

/-- What opens a hold must say. -/
def holdErrors (payload : PyDict) : Except Failure (List String) := do
  let missing := holdRequiredFields.filter fun field => (payload.get? field).isNone
  let kind := payload.get "hold_kind"
  let kindText := rt.str kind
  match kind with
  | .none => return missing.map fun field => s!"hold payload missing required field: {field}"
  | kind => do
    checkHash kind
    return (missing.map fun field => s!"hold payload missing required field: {field}") ++
      demand (holdKinds.any fun k => kind.isString k) s!"unsupported hold_kind: {kindText}"

/-- What closes a hold must agree with. -/
def resolutionErrors (e opening : WorksEvent) (resolutionOf : Text) : List String :=
  let eventId := textOf rt e.eventId
  let expectedType := rt.str (opening.payload.get "resume_event_type")
  let eventType := textOf rt e.eventType
  let expectedActor := rt.str (opening.payload.get "required_from")
  let actor := textOf rt e.actor
  let named := textOf rt resolutionOf
  let causation := optionalText rt e.causationId
  demand ((opening.payload.get "resume_event_type").keyText = some e.eventType)
      s!"hold resolution {eventId} event_type mismatch: expected {expectedType}, got {eventType}" ++
    demand ((opening.payload.get "required_from").keyText = some e.actor)
      s!"hold resolution {eventId} actor mismatch: expected {expectedActor}, got {actor}" ++
    demand (e.causationId = some resolutionOf)
      s!"hold resolution {eventId} causation_id mismatch: expected {named}, got {causation}"

def stepHolds (s : HistoryState) (e : WorksEvent) :
    Except Failure (List String × (Text → Option WorksEvent)) := do
  let eventId := textOf rt e.eventId
  let resolutionOf := rt.str e.resolutionOf
  if e.opens then
    let errors ← holdErrors rt e.payload
    return (errors, if errors = [] then Function.update s.openHoldEvents e.eventId (some e) else s.openHoldEvents)
  else if e.closes then
    if ¬ truthy e.resolutionOf then
      return ([s!"hold resolution {eventId} missing resolution_of"], s.openHoldEvents)
    checkHash e.resolutionOf
    match e.resolutionOf.keyText with
    | none => return ([s!"hold resolution {eventId} references non-open hold: {resolutionOf}"], s.openHoldEvents)
    | some name =>
      match s.openHoldEvents name with
      | none =>
        return ([s!"hold resolution {eventId} references non-open hold: {resolutionOf}"], s.openHoldEvents)
      | some opening =>
        let errors := resolutionErrors rt e opening name
        return (errors, if errors = [] then Function.update s.openHoldEvents name none else s.openHoldEvents)
  else return ([], s.openHoldEvents)

/-- One round of `validate_history`, of an event that passed `validate_event`. -/
def stepEvent (s : HistoryState) (e : WorksEvent) : Except Failure (List String × HistoryState) := do
  let (leaseErrors, leases) := stepLeases rt s e
  let (holdErrors, openHoldEvents) ← stepHolds rt s e
  return (checkKeys rt s e ++ checkTransition rt s e ++ leaseErrors ++ holdErrors,
    { seenEventIds := if e.eventId ∈ s.seenEventIds then s.seenEventIds else s.seenEventIds ++ [e.eventId]
      seenIdempotencyKeys :=
        if e.idempotencyKey ∈ s.seenIdempotencyKeys then s.seenIdempotencyKeys
        else s.seenIdempotencyKeys ++ [e.idempotencyKey]
      states := Function.update s.states e.subjectKey (some e.toState)
      openHoldEvents, leases })

/-- One round of `validate_history`. -/
def stepHistory (r : List String × HistoryState) (event : PyDict) : Except Failure (List String × HistoryState) := do
  let eventErrors ← validateEvent rt event
  if eventErrors ≠ [] then return (r.1 ++ eventErrors, r.2)
  let (errors, s) ← stepEvent rt r.2 (.of event)
  return (r.1 ++ errors, s)

/-- The errors that `validate_history` found, and what it kept. -/
def runHistory (events : List PyDict) : Except Failure (List String × HistoryState) :=
  events.foldlM (stepHistory rt) ([], .initial)

def validateHistory (events : List PyDict) : Except Failure (List String) :=
  (runHistory rt events).map Prod.fst

/-- The lease that `validate_history` keeps for an assignment after the last event. -/
def trackedLease (events : List PyDict) (assignmentId : Text) : Option Lease :=
  match runHistory rt events with
  | .ok r => r.2.leases assignmentId
  | .error _ => none

/-! ## Projections -/

def currentState (events : List WorksEvent) (subjectType subjectId : Text) : Option Text :=
  events.foldl (fun state e => if e.subjectKey = (subjectType, subjectId) then some e.toState else state) none

/-- `opens[event["event_id"]] = event`. -/
def assign (opens : List WorksEvent) (e : WorksEvent) : List WorksEvent :=
  if ∃ o ∈ opens, o.eventId = e.eventId then opens.map fun o => if o.eventId = e.eventId then e else o
  else opens ++ [e]

/-- One round of `open_holds`. -/
def stepOpens (opens : List WorksEvent) (e : WorksEvent) : List WorksEvent :=
  if e.opens then assign opens e
  else if e.closes ∧ truthy e.resolutionOf then
    opens.filter fun o => e.resolutionOf.keyText ≠ some o.eventId
  else opens

def openHolds (events : List WorksEvent) : List WorksEvent := events.foldl stepOpens []

/-- One round of `active_lease`. -/
def stepActive (assignmentId : Text) (lease : Option Lease) (e : WorksEvent) : Option Lease :=
  if ¬ e.isAssignment ∨ e.subjectId ≠ assignmentId then lease
  else
    let action := e.payload.get "lease_action"
    let expiresAt := e.payload.get "expires_at"
    let lease := match lease with
      | none =>
        if action.isString "CLAIM" ∧ truthy e.holder then
          some ⟨e.holder, e.eventId, e.payload.get "claimed_at", expiresAt⟩
        else none
      | some lease =>
        if action.isString "TRANSFER" ∧ truthy e.holder ∧ rt.eq (e.payload.get "previous_holder") lease.holder then
          some ⟨e.holder, e.eventId, .str e.recordedAt, expiresAt⟩
        else some lease
    if e.ends then none else lease

def activeLease (events : List WorksEvent) (assignmentId : Text) : Option Lease :=
  events.foldl (stepActive rt assignmentId) none

inductive DecisionQueue
  | veraDecisions | patrickActions | patrickDecisions | automationExceptions
  deriving DecidableEq

/-- The hold kind that a queue takes. -/
def DecisionQueue.kind : DecisionQueue → String
  | veraDecisions => "VERA_DECISION_REQUIRED"
  | patrickActions => "PATRICK_ACTION_REQUIRED"
  | patrickDecisions => "PATRICK_DECISION_REQUIRED"
  | automationExceptions => "AUTOMATION_EXCEPTION"

def decisionQueues (events : List WorksEvent) (queue : DecisionQueue) : List WorksEvent :=
  (openHolds events).filter fun hold => (hold.payload.get "hold_kind").isString queue.kind

structure LedgerRow where
  eventId : Text
  subjectId : Text
  state : Text
  currency : Option Text
  delta : Rat
  balance : Rat
  reference : Option Text
  deriving DecidableEq

/-- `_money`, of an amount that passed `validate_event`. -/
def money (value : PyValue) : Rat := (decimal? rt value).getD 0

/-- What `financial_ledger` keeps. -/
structure LedgerState where
  rows : List LedgerRow
  balance : Rat
  currency : Option Text
  receivedEventIds : List Text

def LedgerState.initial : LedgerState := ⟨[], 0, none, []⟩

def ledgerError (message : String) : Failure := ⟨.valueError, message⟩

/-- The change of the balance that an event makes, and the event it refers to. -/
def ledgerDelta (s : LedgerState) (e : WorksEvent) : Except Failure (Rat × Option Text) :=
  let eventId := textOf rt e.eventId
  let amount := money rt (e.payload.get "amount")
  let reference := e.payload.text? "reverses_event_id"
  let referenceText := optionalText rt reference
  if e.toState = .valid "RECEIVED" then .ok (money rt (e.payload.get "net"), none)
  else if e.toState = .valid "SPENT" then
    if s.balance < amount then
      .error (ledgerError s!"financial SPENT {eventId} exceeds available Vera Fund balance")
    else .ok (-amount, none)
  else if e.toState = .valid "REFUNDED" then
    if reference.all fun r => r ∉ s.receivedEventIds then
      .error (ledgerError
        s!"financial REFUNDED {eventId} references unknown prior RECEIVED event {referenceText}")
    else .ok (-amount, reference)
  else .ok (0, none)

/-- One round of `financial_ledger`. -/
def stepLedger (s : LedgerState) (e : WorksEvent) : Except Failure LedgerState := do
  if ¬ e.isFinancial then return s
  let currency := e.payload.text? "currency"
  if s.currency.isSome ∧ currency.isSome ∧ currency ≠ s.currency then
    throw (ledgerError "mixed currencies require separate ledger projections")
  let (delta, reference) ← ledgerDelta rt s e
  return { rows := s.rows ++ [⟨e.eventId, e.subjectId, e.toState, currency, delta, s.balance + delta, reference⟩]
           balance := s.balance + delta
           currency := s.currency.orElse fun _ => currency
           receivedEventIds :=
            if e.toState = .valid "RECEIVED" ∧ ¬ e.eventId.isEmpty then s.receivedEventIds ++ [e.eventId]
            else s.receivedEventIds }

def financialLedger (events : List WorksEvent) : Except Failure (List LedgerRow) :=
  (events.foldlM (stepLedger rt) .initial).map LedgerState.rows

def availableBalance (events : List WorksEvent) : Except Failure Rat :=
  (financialLedger rt events).map fun rows => (rows.getLast?.map LedgerRow.balance).getD 0

end VeraWorks

end VeraMono
