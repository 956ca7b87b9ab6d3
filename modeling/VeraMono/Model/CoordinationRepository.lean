import VeraMono.Framework.Checks
import VeraMono.Model.TaskExecution

/-!
# The coordination repository

`contracts.py` and `sqlite_repository.py` of the coordination bus: drafts of events, the
append-only chain of events with their acknowledgements and supersessions, and the verifier that
reads the chain back. The JSON columns of a row hold the values they decode to.
-/

namespace VeraMono

open Framework

/-! ## Contracts -/

def workstreams : List String :=
  ["workstream/memory", "workstream/time", "workstream/initiatives", "workstream/integration",
    "workstream/coordination", "workstream/identity", "workstream/project-architecture",
    "workstream/github-repo"]

def obsoleteWorkstreams : List String := ["workstream/initiative"]

/-- `EVENT_TYPES`. -/
def coordinationEventTypes : List String :=
  ["STATUS", "ISSUE", "ACKNOWLEDGEMENT", "REVIEW", "DECISION", "RESOLUTION"]

/-- `STATUSES`. -/
def coordinationStatuses : List String :=
  ["DRAFT", "READY_FOR_REVIEW", "IN_PROGRESS", "BLOCKED", "DEGRADED", "ACKNOWLEDGED",
    "CHANGES_REQUESTED", "APPROVED", "RESOLVED", "CANCELLED"]

def eventStatusPairs : List (String × String) :=
  [("STATUS", "DRAFT"), ("STATUS", "READY_FOR_REVIEW"), ("STATUS", "IN_PROGRESS"),
    ("STATUS", "BLOCKED"), ("STATUS", "DEGRADED"), ("STATUS", "CANCELLED"),
    ("ISSUE", "READY_FOR_REVIEW"), ("ISSUE", "BLOCKED"), ("ISSUE", "DEGRADED"),
    ("ACKNOWLEDGEMENT", "ACKNOWLEDGED"), ("REVIEW", "READY_FOR_REVIEW"),
    ("REVIEW", "CHANGES_REQUESTED"), ("REVIEW", "APPROVED"), ("DECISION", "APPROVED"),
    ("DECISION", "CANCELLED"), ("RESOLUTION", "RESOLVED"), ("RESOLUTION", "CANCELLED")]

def busError (message : String) : Failure := ⟨.valueError, message⟩

/-- A character that `validate_text` refuses. -/
def isControl (ch : Char) : Bool := ch.toNat < 32 && ch ≠ '\t' && ch ≠ '\n' && ch ≠ '\r'

def validateText (value name : String) : Except Failure Unit :=
  if ¬ nonblank value then .error (busError s!"{name} must be a non-empty string")
  else if value.toList.any isControl then
    .error (busError s!"{name} contains control characters")
  else .ok ()

def validateOptionalText (value : Option String) (name : String) : Except Failure Unit :=
  match value with
  | none => .ok ()
  | some value => validateText value name

def notSerializable (typeName : String) : Failure :=
  busError s!"value is not JSON-serializable: {typeName}"

mutual

def canonicalize : PyValue → Except Failure PyValue
  | .dict entries =>
    match stringKeys (canonicalizeEntries entries) with
    | some kvs => normalizedDict kvs
    | Option.none => .error (busError "JSON object keys must be strings")
  | .list items => (sequence (canonicalizeItems items)).map .list
  | .tuple items => (sequence (canonicalizeItems items)).map .list
  | .float Option.none => .error (busError "non-finite floats are not valid JSON")
  | .float (some r) => .ok (.float (some r))
  | .str t => .ok (.str t)
  | .int i => .ok (.int i)
  | .bool b => .ok (.bool b)
  | .none => .ok .none
  | .bytes _ => .error (notSerializable "bytes")
  | .set _ => .error (notSerializable "set")
  | .enum _ => .error (notSerializable "enum")
  | .path _ => .error (notSerializable "PosixPath")
  | .dataclass _ _ => .error (notSerializable "dataclass")
  | .other typeName => .error (notSerializable typeName)

def canonicalizeItems : List PyValue → List (Except Failure PyValue)
  | [] => []
  | v :: vs => canonicalize v :: canonicalizeItems vs

def canonicalizeEntries : List (PyValue × PyValue) → List (PyValue × Except Failure PyValue)
  | [] => []
  | (k, v) :: rest => (k, canonicalize v) :: canonicalizeEntries rest

end

def validateJsonObject (value : PyValue) (name : String) : Except Failure Unit :=
  match value with
  | .dict _ => (canonicalize value).map fun _ => ()
  | _ => .error (busError s!"{name} must be a JSON object")

structure CoordinationEventDraft where
  threadKey : String
  sourceBranch : String
  targetBranch : Option String
  eventType : String
  status : String
  objective : String
  summary : String
  activeIssue : Option String
  requestedPerspective : Option String
  supersedesEventId : Option String
  acknowledgesEventId : Option String
  payload : PyValue
  referenceData : PyValue

section Draft
variable (py : Stdlib)

def reprText (value : String) : String := py.repr (.str (.valid value))

def validateWorkstream (value name : String) : Except Failure Unit :=
  if value ∈ obsoleteWorkstreams then
    .error (busError
      s!"{name} uses obsolete route {reprText py value}; use 'workstream/initiatives'")
  else if value ∉ workstreams then
    let sorted := py.repr (.list ((workstreams.insertionSort (· ≤ ·)).map fun w => .str (.valid w)))
    .error (busError s!"{name} must be one of {sorted}")
  else .ok ()

def CoordinationEventDraft.validate (d : CoordinationEventDraft) : Except Failure Unit := do
  validateText d.threadKey "thread_key"
  validateWorkstream py d.sourceBranch "source_branch"
  match d.targetBranch with
  | some target => validateWorkstream py target "target_branch"
  | none => pure ()
  if d.eventType ∉ coordinationEventTypes then
    throw (busError s!"unsupported event_type {reprText py d.eventType}")
  if d.status ∉ coordinationStatuses then
    throw (busError s!"unsupported status {reprText py d.status}")
  if (d.eventType, d.status) ∉ eventStatusPairs then
    throw (busError s!"invalid event_type/status pair: {d.eventType}/{d.status}")
  validateText d.objective "objective"
  validateText d.summary "summary"
  validateOptionalText d.activeIssue "active_issue"
  validateOptionalText d.requestedPerspective "requested_perspective"
  validateOptionalText d.supersedesEventId "supersedes_event_id"
  validateOptionalText d.acknowledgesEventId "acknowledges_event_id"
  validateJsonObject d.payload "payload"
  validateJsonObject d.referenceData "reference_data"
  if d.eventType ∈ ["ACKNOWLEDGEMENT", "REVIEW", "RESOLUTION"] ∧ d.acknowledgesEventId.isNone then
    throw (busError s!"{d.eventType} requires acknowledges_event_id")
  if d.eventType = "ISSUE" ∧ d.activeIssue.isNone then
    throw (busError "ISSUE requires active_issue")
  if d.eventType = "REVIEW" ∧ d.requestedPerspective.isSome then
    throw (busError "REVIEW must answer, not request, a perspective")

end Draft

/-- The draft with its two objects canonical. -/
def CoordinationEventDraft.canonical (d : CoordinationEventDraft) :
    Except Failure CoordinationEventDraft := do
  let payload ← canonicalize d.payload
  let referenceData ← canonicalize d.referenceData
  return { d with payload, referenceData }

/-- An event without its sequence number, which is that of its row. -/
structure CoordinationEvent extends CoordinationEventDraft where
  eventId : String
  recordTime : String

/-- The documents that `canonical_hash` is applied to. -/
inductive BusBody (D : Type)
  | genesis
  | eventId (sequence : Nat) (draft : CoordinationEventDraft)
  | event (predecessorDigest : D) (sequence : Nat) (event : CoordinationEvent)

def hexDigits : List Char :=
  ['0', '1', '2', '3', '4', '5', '6', '7', '8', '9', 'a', 'b', 'c', 'd', 'e', 'f']

/-- `canonical_hash`: whether a document has UTF-8 bytes, their digest, and its 64 hex digits. -/
structure BusHashing (D : Type) where
  encodes : BusBody D → Bool
  canonicalHash : BusBody D → D
  hexdigest : D → String
  hexdigest_length : ∀ d, (hexdigest d).length = 64
  hexdigest_digits : ∀ d, ∀ c ∈ (hexdigest d).toList, c ∈ hexDigits

/-- A reading of the clock as `isoformat` writes it. -/
structure ClockText where
  text : String
  valid : validateText text "record_time" = .ok ()

/-! ## `SQLiteCoordinationRepository` -/

abbrev SQLiteCoordinationRepository (D : Type) := ChainLog CoordinationEvent D

def repositoryConflict (message : String) : Failure := ⟨.repositoryConflict, message⟩

def repositoryCorrupt (message : String) : Failure := ⟨.coordinationRepositoryCorrupt, message⟩

variable {D : Type} (K : BusHashing D) (py : Stdlib)

/-- The name of an event: the first 32 digits of a digest. -/
def coordinationEventId (sequence : Nat) (draft : CoordinationEventDraft) : String :=
  String.ofList ((K.hexdigest (K.canonicalHash (.eventId sequence draft))).toList.take 32)

/-- The repository files an event under its id. -/
def repositoryChain : Chaining CoordinationEvent D String Unit where
  key e := e.eventId
  payload _ := ()
  digest n d e := K.canonicalHash (.event d n e)
  genesis := K.canonicalHash .genesis

namespace SQLiteCoordinationRepository

def checkAcknowledged (draft : CoordinationEventDraft) (log : SQLiteCoordinationRepository D) :
    Except Failure Unit :=
  match draft.acknowledgesEventId with
  | none => .ok ()
  | some eventId =>
    match (repositoryChain K).lookup log eventId with
    | none => .error (repositoryConflict "acknowledged coordination event does not exist")
    | some original =>
      if original.body.threadKey ≠ draft.threadKey then
        .error (repositoryConflict "acknowledgement must stay in same thread")
      else .ok ()

def checkSuperseded (draft : CoordinationEventDraft) (log : SQLiteCoordinationRepository D) :
    Except Failure Unit :=
  match draft.supersedesEventId with
  | none => .ok ()
  | some eventId =>
    if draft.acknowledgesEventId = some eventId then
      .error (repositoryConflict "one reference cannot acknowledge and supersede")
    else match (repositoryChain K).lookup log eventId with
    | none => .error (repositoryConflict "superseded coordination event does not exist")
    | some prior =>
      if prior.body.threadKey ≠ draft.threadKey then
        .error (repositoryConflict "supersession must stay in same thread")
      else .ok ()

/-- The `INSERT` of `append`, which the unique columns and the index on
`supersedes_event_id` may refuse, and the update of the counters. -/
def insertEvent [DecidableEq D] (event : CoordinationEvent) (log : SQLiteCoordinationRepository D) :
    Except Failure (SQLiteCoordinationRepository D) :=
  if ((repositoryChain K).lookup log event.eventId).isSome ∨
      (∃ e ∈ log.entries, e.sequence = log.sequence + 1 ∨
        e.digest = ((repositoryChain K).next log event).digest ∨
        (event.supersedesEventId.isSome ∧ e.body.supersedesEventId = event.supersedesEventId)) then
    .error (repositoryConflict "coordination append uniqueness conflict")
  else .ok ((repositoryChain K).extend log event)

/-- `append`, at the time the clock gives. -/
def append [DecidableEq D] (draft : CoordinationEventDraft) (recordTime : ClockText)
    (log : SQLiteCoordinationRepository D) :
    Except Failure (CoordinationEvent × SQLiteCoordinationRepository D) := do
  draft.validate py
  checkAcknowledged K draft log
  checkSuperseded K draft log
  let canonical ← draft.canonical
  if ¬ K.encodes (.eventId (log.sequence + 1) canonical) then
    throw (busError "surrogates not allowed")
  let event : CoordinationEvent :=
    { canonical with
      eventId := coordinationEventId K (log.sequence + 1) canonical
      recordTime := recordTime.text }
  if ¬ K.encodes (.event log.head (log.sequence + 1) event) then
    throw (busError "surrogates not allowed")
  let log ← insertEvent K event log
  return (event, log)

/-! ### `verify_integrity` -/

def validateStoredAddress (value name : String) : Except Failure Unit := do
  validateText value name
  if 256 < value.length then throw (busError s!"{name} is too long")

/-- What `CoordinationEvent.from_row` checks. -/
def fromRow (e : CoordinationEvent) : Except Failure Unit := do
  if e.eventType ∉ coordinationEventTypes then
    throw (busError s!"unsupported stored event_type {reprText py e.eventType}")
  if e.status ∉ coordinationStatuses ∨ (e.eventType, e.status) ∉ eventStatusPairs then
    throw (busError s!"invalid stored event_type/status pair: {e.eventType}/{e.status}")
  validateStoredAddress e.sourceBranch "source_branch"
  match e.targetBranch with
  | some target => validateStoredAddress target "target_branch"
  | none => pure ()
  validateJsonObject e.payload "payload"
  validateJsonObject e.referenceData "reference_data"
  validateText e.eventId "event_id"
  validateText e.threadKey "thread_key"
  validateText e.objective "objective"
  validateText e.summary "summary"
  validateText e.recordTime "record_time"

/-- The check that an event refers to an earlier one of its thread. -/
def checkLineage (seen : List CoordinationEvent) (threadKey : String) (eventId : Option String)
    (message : String) : Except Failure Unit :=
  match eventId with
  | none => .ok ()
  | some eventId =>
    match seen.find? fun s => s.eventId = eventId with
    | none => .error (repositoryCorrupt message)
    | some s => if s.threadKey ≠ threadKey then .error (repositoryCorrupt message) else .ok ()

/-- The checks that `verify_integrity` makes of one event; `seen` has the newest first. -/
def checkEvent (seen : List CoordinationEvent) (e : CoordinationEvent) :
    Except Failure (List CoordinationEvent) := do
  fromRow py e
  if ∃ s ∈ seen, s.eventId = e.eventId then
    throw (repositoryCorrupt "duplicate coordination event identity")
  let draft ← e.toCoordinationEventDraft.canonical
  if coordinationEventId K (seen.length + 1) draft ≠ e.eventId then
    throw (repositoryCorrupt "coordination event identity mismatch")
  checkLineage seen e.threadKey e.acknowledgesEventId
    "coordination acknowledgement lineage is invalid"
  checkLineage seen e.threadKey e.supersedesEventId
    "coordination supersession lineage is invalid"
  if e.supersedesEventId.isSome ∧ ∃ s ∈ seen, s.supersedesEventId = e.supersedesEventId then
    throw (repositoryCorrupt "coordination event has multiple successors")
  return e :: seen

/-- The message of each fault `verify_integrity` finds. -/
def verifyFailure : VerifyFault Failure → Failure
  | .gap => repositoryCorrupt "coordination event sequence gap"
  | .predecessor => repositoryCorrupt "coordination predecessor digest mismatch"
  | .extra e => e
  | .digest => repositoryCorrupt "coordination event digest mismatch"
  | .metaSequence => repositoryCorrupt "coordination meta sequence mismatch"
  | .metaHead => repositoryCorrupt "coordination meta head mismatch"

/-- What `verify_integrity` finds in the rows and counters it read. -/
def verifyRows [DecidableEq D] (entries : List (Entry CoordinationEvent D)) (sequence : Nat)
    (head : D) : Except Failure D :=
  match (repositoryChain K).verify (checkEvent K py) [] entries sequence head with
  | .ok head => .ok head
  | .error f => .error (verifyFailure f)

end SQLiteCoordinationRepository

end VeraMono
