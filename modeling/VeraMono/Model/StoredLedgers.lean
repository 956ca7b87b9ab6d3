import VeraMono.Model.CanonicalJson
import VeraMono.Model.Ledgers
import VeraMono.Model.TaskExecution

/-!
# The ledgers as they are stored

`LifecycleJournal`, `OutboundExecutionAudit` and `TaskExecutionLedger` keep their
events in a table of numbers and texts, the payload of an event as the text of its
canonical JSON. Here a table may hold anything: `verifyChain` reads the rows back,
hashes the body of each event again and compares. The three classes are one
definition with a `StoredLedger` each: what an event is labelled with, what is
asked of its labels, and the schema, keys and messages of the class.
-/

namespace VeraMono

/-- What the ledgers take from Python: the standard library, `float` of a text and SHA-256. -/
structure PyRuntime where
  py : Stdlib
  pyFloat : String → Option Rat
  sha256 : ByteArray → String

/-- `sha256_hex` of a text. -/
def PyRuntime.sha256Text (R : PyRuntime) (text : String) : String := R.sha256 text.toByteArray

/-- A row of an `events` table; the text columns a ledger has of its own are its labels. -/
structure StoredRow (L : Type) where
  sequence : Int
  labels : L
  predecessorDigest : String
  eventDigest : String
  payloadJson : String
  deriving DecidableEq

/-- The `events` in order of sequence, and the two values of `meta`. -/
structure StoredTable (L : Type) where
  rows : List (StoredRow L)
  sequence : Int
  head : String
  deriving DecidableEq

/-- An event as `_row` reads it. -/
structure StoredEvent (L : Type) where
  sequence : Int
  labels : L
  predecessorDigest : String
  eventDigest : String
  payload : PyValue

/-- What sets one ledger apart; `A` is what its verifier remembers of the events so far. -/
structure StoredLedger (L A : Type) where
  name : String
  error : String → Failure
  schema : String
  genesis : String
  /-- The keys of the labels in the hashed body. -/
  labelKeys : List String
  labelValues : L → List String
  predecessorKey : String
  /-- The payload of a row, from its text. -/
  readPayload : PyRuntime → String → Except Failure PyValue
  start : A
  check : A → StoredEvent L → Except Failure A
  /-- What `append` asks of its arguments. -/
  checkLabels : L → Except Failure Unit
  mappingMessage : String
  /-- The query for an event to replay, and what of it must agree. -/
  sameKey : L → L → Bool
  agrees : L → L → Bool
  replayMessage : String
  labelValues_length : ∀ l, (labelValues l).length = labelKeys.length
  labelValues_injective : Function.Injective labelValues
  keys_nodup : ("schema" :: "sequence" :: (labelKeys ++ [predecessorKey, "payload"])).Nodup
  keys_plain : ∀ k ∈ predecessorKey :: labelKeys, keyHint k = .plain

/-- Item `i` of a sequence that a dictionary is made from: it has two items itself. -/
def pairOfItem (i : Nat) : PyValue → Except Failure (PyValue × PyValue)
  | .list [k, v] => .ok (k, v)
  | .dict [(k, _), (l, _)] => .ok (k, l)
  | .str t =>
    match t.codePoints with
    | [k, v] => .ok (.str (Text.ofCodePoints [k]), .str (Text.ofCodePoints [v]))
    | cs => .error (badLength cs.length)
  | .list items => .error (badLength items.length)
  | .dict entries => .error (badLength entries.length)
  | _ => .error ⟨.typeError, s!"cannot convert dictionary update sequence element #{i} to a sequence"⟩
where
  badLength (n : Nat) : Failure :=
    ⟨.valueError, s!"dictionary update sequence element #{i} has length {n}; 2 is required"⟩

/-- Adds an entry to a dictionary; a key that is not a string is kept for `normalize_value`
to refuse, unless it cannot be hashed. -/
def setItem (entries : List (PyValue × PyValue)) (entry : PyValue × PyValue) :
    Except Failure (List (PyValue × PyValue)) :=
  match entry.1 with
  | .str key => .ok (setKey key entry.2 entries)
  | .list _ => .error ⟨.typeError, "unhashable type: 'list'"⟩
  | .dict _ => .error ⟨.typeError, "unhashable type: 'dict'"⟩
  | _ => .ok (entries ++ [entry])

def notIterable (typeName : String) : Failure := ⟨.typeError, s!"'{typeName}' object is not iterable"⟩

/-- `dict` of a value that `json.loads` returned. -/
def pyDict : PyValue → Except Failure PyValue
  | .dict entries => .ok (.dict entries)
  | .list items =>
    (items.zipIdx.foldlM (fun entries (item : PyValue × Nat) => do
      setItem entries (← pairOfItem item.2 item.1)) []).map .dict
  | .str t =>
    if t.codePoints = [] then .ok (.dict []) else .error (pairOfItem.badLength 0 1)
  | .none => .error (notIterable "NoneType")
  | .bool _ => .error (notIterable "bool")
  | .int _ => .error (notIterable "int")
  | .float _ => .error (notIterable "float")
  | _ => .error (notIterable "object")

namespace StoredLedger

variable {L A : Type} (R : PyRuntime) (S : StoredLedger L A)

def bodyFields (sequence : Int) (labels : L) (predecessor : String) (payload : PyValue) :
    List (String × PyValue) :=
  ("schema", .str (.valid S.schema)) :: ("sequence", .int sequence) ::
    (S.labelKeys.zip ((S.labelValues labels).map fun v => .str (.valid v)) ++
      [(S.predecessorKey, .str (.valid predecessor)), ("payload", payload)])

/-- A dictionary with the given fields. -/
def dictOf (fields : List (String × PyValue)) : PyValue :=
  .dict (fields.map fun f => (.str (.valid f.1), f.2))

/-- `sha256_hex(canonical_json_bytes(body))`. -/
def bodyDigest (sequence : Int) (labels : L) (predecessor : String) (payload : PyValue) :
    Except Failure String :=
  (canonicalJsonBytes R.py (dictOf (S.bodyFields sequence labels predecessor payload))).map R.sha256

def row (r : StoredRow L) : Except Failure (StoredEvent L) :=
  (S.readPayload R r.payloadJson).map fun payload =>
    ⟨r.sequence, r.labels, r.predecessorDigest, r.eventDigest, payload⟩

def events (table : StoredTable L) : Except Failure (List (StoredEvent L)) :=
  table.rows.mapM (S.row R)

/-- What the verifier computes for an event it has read. -/
def observedDigest (e : StoredEvent L) : Except Failure String := do
  let payload ← pyDict e.payload
  S.bodyDigest R e.sequence e.labels e.predecessorDigest payload

/-- The loop of `verify_chain`. -/
def scan : Int → String → A → List (StoredRow L) → Except Failure (Int × String × A)
  | n, d, a, [] => .ok (n, d, a)
  | n, d, a, r :: rows => do
    let e ← S.row R r
    if e.sequence ≠ n + 1 then
      throw (S.error s!"{S.name} sequence gap")
    if e.predecessorDigest ≠ d then
      throw (S.error s!"{S.name} predecessor digest mismatch")
    let a ← S.check a e
    let observed ← S.observedDigest R e
    if observed ≠ e.eventDigest then
      throw (S.error s!"{S.name} event digest mismatch")
    scan (n + 1) observed a rows

def genesisHead : String := R.sha256Text S.genesis

def verifyChain (table : StoredTable L) : Except Failure String := do
  let (n, d, _) ← S.scan R 0 (S.genesisHead R) S.start table.rows
  if table.sequence ≠ n then
    throw (S.error s!"{S.name} meta sequence mismatch")
  if table.head ≠ d then
    throw (S.error s!"{S.name} meta head mismatch")
  return table.head

/-- A new ledger. -/
def empty : StoredTable L := ⟨[], 0, S.genesisHead R⟩

/-- `append`. The rows are in order of sequence, and a new one is the last. -/
def append (labels : L) (payload : PyValue) (table : StoredTable L) :
    Except Failure (StoredTable L) := do
  S.checkLabels labels
  match payload with
  | .dict _ =>
    let payloadJson ← canonicalJson R.py payload
    match table.rows.find? fun r => S.sameKey labels r.labels with
    | some replay =>
      let existing ← S.row R replay
      if !S.agrees labels existing.labels then
        throw (S.error S.replayMessage)
      let stored ← pyDict existing.payload
      if (← canonicalJson R.py stored) ≠ payloadJson then
        throw (S.error S.replayMessage)
      return table
    | none =>
      let digest ← S.bodyDigest R (table.sequence + 1) labels table.head payload
      if table.rows.any fun r => r.sequence = table.sequence + 1 then
        throw (integrityError "events.sequence")
      if table.rows.any fun r => r.eventDigest = digest then
        throw (integrityError "events.event_digest")
      return ⟨table.rows ++ [⟨table.sequence + 1, labels, table.head, digest, payloadJson⟩],
        table.sequence + 1, digest⟩
  | _ => throw (S.error S.mappingMessage)

/-- The table after a sequence of successful appends. -/
def appendAll (calls : List (L × PyValue)) (table : StoredTable L) : Except Failure (StoredTable L) :=
  calls.foldlM (fun table call => S.append R call.1 call.2 table) table

end StoredLedger

/-! ## `LifecycleJournal` -/

/-- The columns `transition_id` and `event_type`. -/
structure JournalLabels where
  transitionId : String
  eventType : String
  deriving DecidableEq

/-- `payload=json.loads(row["payload_json"])`, whatever it is. -/
def readJson (R : PyRuntime) (text : String) : Except Failure PyValue :=
  (jsonLoads (defaultHooks R.pyFloat) text).mapError (ScanFailure.toFailure text.toList)

def storedJournal : StoredLedger JournalLabels Unit where
  name := "lifecycle journal"
  error := journalError
  schema := "VERA_MONO_LIFECYCLE_EVENT_V1"
  genesis := "vera-mono-lifecycle-journal-genesis-v1"
  labelKeys := ["transition_id", "event_type"]
  labelValues l := [l.transitionId, l.eventType]
  predecessorKey := "predecessor_event_digest"
  readPayload := readJson
  start := ()
  check _ _ := .ok ()
  checkLabels l := do
    let _ ← requireText .lifecycleJournalError "transition_id" l.transitionId
    let _ ← requireText .lifecycleJournalError "event_type" l.eventType
  mappingMessage := "payload must be a mapping"
  sameKey l m := l = m
  agrees _ _ := true
  replayMessage := "journal event replay carries different payload"
  labelValues_length _ := rfl
  labelValues_injective l m h := by cases l; cases m; simp_all
  keys_nodup := by decide
  keys_plain := by decide +kernel

/-! ## `OutboundExecutionAudit` -/

/-- The columns `effect_id`, `effect_kind` and `event_type`. -/
structure AuditLabels where
  effectId : String
  effectKind : String
  eventType : String
  deriving DecidableEq

def readJsonObject (error : String → Failure) (label : String) (R : PyRuntime) (text : String) :
    Except Failure PyValue :=
  match jsonLoads (defaultHooks R.pyFloat) text with
  | .error (.decode _ _) => .error (error s!"{label} payload is invalid JSON")
  | .error (.raised failure) => .error failure
  | .ok (.dict entries) => .ok (.dict entries)
  | .ok _ => .error (error s!"{label} payload must be an object")

/-- `EVENT_TYPES` of the audit. -/
def auditEventTypes : List String :=
  ["AUTHORITY_VERIFIED", "RESERVED", "EXECUTING", "COMMITTED", "ATTEMPTED_UNKNOWN",
    "CANCELLED_PRE_DISPATCH", "RECONCILED_COMMITTED", "RECONCILED_NO_EFFECT"]

def terminalTypes : List String :=
  ["COMMITTED", "CANCELLED_PRE_DISPATCH", "RECONCILED_COMMITTED", "RECONCILED_NO_EFFECT"]

def allowedNext : Option String → List String
  | none => ["AUTHORITY_VERIFIED"]
  | some stage =>
    if stage = "AUTHORITY_VERIFIED" then ["RESERVED"]
    else if stage = "RESERVED" then ["EXECUTING", "CANCELLED_PRE_DISPATCH"]
    else if stage = "EXECUTING" then
      ["COMMITTED", "ATTEMPTED_UNKNOWN", "RECONCILED_COMMITTED", "RECONCILED_NO_EFFECT"]
    else if stage = "ATTEMPTED_UNKNOWN" then ["RECONCILED_COMMITTED", "RECONCILED_NO_EFFECT"]
    else []

def checkAuditStage (seen : List AuditLabels) (e : StoredEvent AuditLabels) :
    Except Failure (List AuditLabels) := do
  let prior := seen.find? fun l => l.effectId = e.labels.effectId
  if e.labels.eventType ∉ auditEventTypes then
    throw (auditError "outbound audit contains unsupported event type")
  if prior.any fun l => l.effectKind ≠ e.labels.effectKind then
    throw (auditError "outbound audit effect kind changed within one effect identity")
  if prior.any fun l => l.eventType ∈ terminalTypes then
    throw (auditError "outbound audit terminal effect has later events")
  if e.labels.eventType ∉ allowedNext (prior.map AuditLabels.eventType) then
    throw (auditError "outbound audit effect stage ordering is invalid")
  return e.labels :: seen

def storedAudit : StoredLedger AuditLabels (List AuditLabels) where
  name := "outbound audit"
  error := auditError
  schema := "VERA_MONO_OUTBOUND_EXECUTION_EVENT_V1"
  genesis := "vera-mono-outbound-execution-audit-genesis-v1"
  labelKeys := ["effect_id", "effect_kind", "event_type"]
  labelValues l := [l.effectId, l.effectKind, l.eventType]
  predecessorKey := "predecessor_digest"
  readPayload := readJsonObject auditError "outbound audit"
  start := []
  check := checkAuditStage
  checkLabels l := do
    let _ ← requireText .outboundAuditError "effect_id" l.effectId
    let _ ← requireText .outboundAuditError "effect_kind" l.effectKind
    if l.eventType ∉ auditEventTypes then
      throw (auditError s!"unsupported outbound audit event type: {l.eventType}")
  mappingMessage := "outbound audit payload must be a mapping"
  sameKey l m := l.effectId = m.effectId ∧ l.eventType = m.eventType
  agrees _ _ := true
  replayMessage := "outbound audit replay carries different payload"
  labelValues_length _ := rfl
  labelValues_injective l m h := by cases l; cases m; simp_all
  keys_nodup := by decide
  keys_plain := by decide +kernel

/-! ## `TaskExecutionLedger` -/

/-- The columns `event_id`, `task_id` and `event_type`. -/
structure TaskLabels where
  eventId : String
  taskId : String
  eventType : String
  deriving DecidableEq

/-- `EVENT_TYPES` of the task ledger. -/
def taskEventTypes : List String :=
  ["TASK_OPENED", "TASK_DEPENDENCY", "TASK_DEPENDENCY_CANCELLED", "TASK_DELEGATED",
    "TASK_DELEGATION_REASSIGNED", "TASK_DELEGATION_RETURNED", "TASK_DELEGATION_CANCELLED",
    "TASK_CORRECTION", "TASK_CHECKPOINT", "TASK_CLOSED"]

/-- The tasks opened and closed by the events read so far. -/
structure StoredTasks where
  opened : List String
  closed : List String

def checkTaskOrder (tasks : StoredTasks) (e : StoredEvent TaskLabels) : Except Failure StoredTasks := do
  let taskId := e.labels.taskId
  if e.labels.eventType ∉ taskEventTypes then
    throw (taskError "task journal contains unsupported event type")
  if taskId ∈ tasks.closed then
    throw (taskError "task journal contains event after closeout")
  if e.labels.eventType = "TASK_OPENED" then
    if taskId ∈ tasks.opened then
      throw (taskError "task contains multiple open events")
    return { tasks with opened := taskId :: tasks.opened }
  else if taskId ∉ tasks.opened then
    throw (taskError "task event appears before TASK_OPENED")
  else if e.labels.eventType = "TASK_CLOSED" then
    return { tasks with closed := taskId :: tasks.closed }
  else return tasks

def storedTasks : StoredLedger TaskLabels StoredTasks where
  name := "task journal"
  error := taskError
  schema := "VERA_MONO_TASK_EXECUTION_EVENT_V1"
  genesis := "vera-mono-task-execution-genesis-v1"
  labelKeys := ["event_id", "task_id", "event_type"]
  labelValues l := [l.eventId, l.taskId, l.eventType]
  predecessorKey := "predecessor_digest"
  readPayload := readJsonObject taskError "task event"
  start := ⟨[], []⟩
  check := checkTaskOrder
  checkLabels l := do
    let _ ← requireTaskText "event_id" l.eventId
    let _ ← requireTaskText "task_id" l.taskId
    if l.eventType ∉ taskEventTypes then
      throw (taskError s!"unsupported task event type: {l.eventType}")
  mappingMessage := "task event payload must be a mapping"
  sameKey l m := l.eventId = m.eventId
  agrees l m := l.taskId = m.taskId ∧ l.eventType = m.eventType
  replayMessage := "task event id replay carries different evidence"
  labelValues_length _ := rfl
  labelValues_injective l m h := by cases l; cases m; simp_all
  keys_nodup := by decide
  keys_plain := by decide +kernel

end VeraMono
