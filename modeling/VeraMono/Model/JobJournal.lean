import VeraMono.Framework.ChainLog
import VeraMono.Framework.Lockfree
import VeraMono.Framework.Table
import VeraMono.Model.Records

/-!
# The PC job journal

`journal.py` of the PC connection, with the checks of its `validation.py` and the text tuples of
its `canonical.py`: the local attempts of one host, each with the chain of its events. Every
writer is one transaction; `commit_effect_start` and `confirm_terminal_readback` read the attempt
before it begins, so that other processes may act in between.
-/

namespace VeraMono

open Framework

/-! ## Validation -/

/-- What the module takes from the standard library: whether `UUID(value)` parses a
text, the `ValueError` of `datetime.strptime` on a text of the right shape, and the hex
digest of SHA-256. -/
structure PcccRuntime where
  uuidParses : String → Bool
  strptimeFault : String → Option String
  sha256 : List UInt8 → String

def contractError (message : String) : Failure := ⟨.contractError, message⟩

def isLowerHex (c : Char) : Bool := c.isDigit || ('a' ≤ c && c ≤ 'f')

/-- Whether a text has the shape of a template, read one character at a time. -/
def fits (symbol : Char → Char → Bool) (template text : String) : Bool :=
  template.length = text.length && (template.toList.zip text.toList).all fun (t, c) => symbol t c

/-- `_RFC3339_MICRO_UTC`: a `0` of the template is any digit. -/
def timeSymbol (t c : Char) : Bool := if t = '0' then c.isDigit else c = t

/-- The canonical text of an RFC 4122 UUID: `x` is any hex digit, `v` one of its variant. -/
def uuidSymbol (t c : Char) : Bool :=
  if t = 'x' then isLowerHex c else if t = 'v' then c ∈ ['8', '9', 'a', 'b'] else c = t

def uuidV7 (rt : PcccRuntime) (value field : String) : Except Failure Unit := do
  if ¬ rt.uuidParses value then
    throw (contractError s!"{field} must be UUIDv7")
  if ¬ fits uuidSymbol "xxxxxxxx-xxxx-7xxx-vxxx-xxxxxxxxxxxx" value then
    throw (contractError s!"{field} must be canonical lowercase UUIDv7")

def sha256Hex (value field : String) : Except Failure Unit :=
  if value.length = 64 ∧ value.toList.all isLowerHex then .ok ()
  else .error (contractError s!"{field} must be lowercase SHA-256 hex")

def uint (value : Int) (field : String) (minimum maximum : Int) : Except Failure Unit :=
  if value < minimum ∨ value > maximum then
    .error (contractError s!"{field} must be between {minimum} and {maximum}")
  else .ok ()

def utcMicroseconds (rt : PcccRuntime) (value field : String) : Except Failure Unit :=
  if ¬ fits timeSymbol "0000-00-00T00:00:00.000000Z" value then
    .error (contractError s!"{field} must use UTC RFC3339 with exactly six fractional digits")
  else
    match rt.strptimeFault value with
    | some message => .error ⟨.valueError, message⟩
    | none => .ok ()

def int64Max : Int := 9223372036854775807

/-! ## Text tuples -/

def utf8 (text : String) : List UInt8 := text.toUTF8.toList

def encodeTextTuple (fields : List String) : List UInt8 :=
  utf8 s!"T1|{fields.length}|" ++ fields.flatMap fun field =>
    utf8 s!"{(utf8 field).length}:" ++ utf8 field

/-- `sha256_domain_text_tuple`, for a domain of one line. -/
def sha256DomainTextTuple (rt : PcccRuntime) (domain : String) (fields : List String) : String :=
  rt.sha256 (utf8 (domain ++ "\n") ++ encodeTextTuple fields)

/-! ## Attempts -/

inductive JournalState
  | claimed | preparing | effectStarted | resultObserved | recoveryRequired | completing
  | terminalConfirmed | abandoned
  deriving DecidableEq, Repr

def JournalState.value : JournalState → String
  | .claimed => "CLAIMED"
  | .preparing => "PREPARING"
  | .effectStarted => "EFFECT_STARTED"
  | .resultObserved => "RESULT_OBSERVED"
  | .recoveryRequired => "RECOVERY_REQUIRED"
  | .completing => "COMPLETING"
  | .terminalConfirmed => "TERMINAL_CONFIRMED"
  | .abandoned => "ABANDONED"

inductive JournalEvent
  | claimRecorded | preparationStarted | effectStartCommitted | resultRecorded | recoveryRequired
  | completionSubmitted | terminalReadbackConfirmed | attemptAbandoned
  deriving DecidableEq, Repr

def JournalEvent.value : JournalEvent → String
  | .claimRecorded => "CLAIM_RECORDED"
  | .preparationStarted => "PREPARATION_STARTED"
  | .effectStartCommitted => "EFFECT_START_COMMITTED"
  | .resultRecorded => "RESULT_RECORDED"
  | .recoveryRequired => "RECOVERY_REQUIRED"
  | .completionSubmitted => "COMPLETION_SUBMITTED"
  | .terminalReadbackConfirmed => "TERMINAL_READBACK_CONFIRMED"
  | .attemptAbandoned => "ATTEMPT_ABANDONED"

def terminalStates : List JournalState := [.terminalConfirmed, .abandoned]

def phaseOneOperations : List String :=
  ["PING", "GET_HOST_STATUS", "GET_GPU_STATUS", "LIST_PATH", "STAT_PATH", "HASH_FILE", "READ_TEXT",
    "SEARCH_TEXT", "GET_PROCESS_STATUS"]

structure AttemptIdentity where
  jobId : String
  attemptId : String
  hostId : String
  claimGeneration : Int
  leaseId : String
  leaseFence : Int
  jobDigest : String
  authorizationId : String
  authorizationRevision : Int
  issuerRevocationEpoch : Int
  hostRevocationEpoch : Int
  operationId : String
  operationVersion : Int
  retryClass : String
  sideEffectClass : String
  deriving DecidableEq

def AttemptIdentity.key (identity : AttemptIdentity) : String × String :=
  (identity.jobId, identity.attemptId)

def AttemptIdentity.validate (rt : PcccRuntime) (identity : AttemptIdentity) : Except Failure Unit := do
  uuidV7 rt identity.jobId "job_id"
  uuidV7 rt identity.attemptId "attempt_id"
  uuidV7 rt identity.hostId "host_id"
  uuidV7 rt identity.leaseId "lease_id"
  uuidV7 rt identity.authorizationId "authorization_id"
  uint identity.claimGeneration "claim_generation" 1 int64Max
  uint identity.leaseFence "lease_fence" 1 int64Max
  sha256Hex identity.jobDigest "job_digest"
  uint identity.authorizationRevision "authorization_revision" 1 int64Max
  uint identity.issuerRevocationEpoch "issuer_revocation_epoch" 0 int64Max
  uint identity.hostRevocationEpoch "host_revocation_epoch" 0 int64Max
  if identity.operationId ∉ phaseOneOperations then
    throw ⟨.journalError, "operation is not enabled in phase one"⟩
  uint identity.operationVersion "operation_version" 1 4294967295
  if identity.retryClass ∉ ["PURE_READ", "CONTENT_ADDRESSED_WRITE", "AT_MOST_ONCE"] then
    throw ⟨.journalError, "unsupported retry_class"⟩
  if identity.sideEffectClass ≠ "NONE" then
    throw ⟨.journalError, "enabled phase-one operations require side_effect_class NONE"⟩

/-- A row of `pccc_local_attempts`, which is also what every method returns. -/
structure AttemptProjection where
  identity : AttemptIdentity
  localState : JournalState
  stateVersion : Nat
  lastEventId : String
  lastEventDigest : String
  resultDigest : String
  terminalReceiptId : String
  terminalReceiptDigest : String
  serverRequestId : String
  serverReadbackReceiptId : String
  serverReadbackDigest : String
  serverTimeAnchor : String
  localMonotonicNs : Int
  createdAt : String
  updatedAt : String
  deriving DecidableEq

def AttemptProjection.key (row : AttemptProjection) : String × String := row.identity.key

/-! ## Events -/

/-- A row of `pccc_local_events` without its place in the chain; `prior` is `none` for
the text `NONE` of a claim. -/
structure LocalEvent where
  localEventId : String
  jobId : String
  attemptId : String
  eventType : JournalEvent
  prior : Option JournalState
  committed : JournalState
  stateVersion : Nat
  claimGeneration : Int
  leaseId : String
  leaseFence : Int
  payloadDigest : String
  serverTimeAnchor : String
  localMonotonicNs : Int
  recordTime : String
  deriving DecidableEq

abbrev LocalEntry := Entry LocalEvent String

def LocalEvent.attempt (event : LocalEvent) : String × String := (event.jobId, event.attemptId)

def zeroSha256 : String := String.ofList (List.replicate 64 '0')

def zeroUuid : String := "00000000-0000-0000-0000-000000000000"

def journalEventDomain : String := "VERA-PCCC-LOCAL-JOURNAL-EVENT-V1"

def eventDigest (rt : PcccRuntime) (sequence : Nat) (predecessor : String) (event : LocalEvent) :
    String :=
  sha256DomainTextTuple rt journalEventDomain
    [event.localEventId, event.jobId, event.attemptId, toString sequence, predecessor,
      event.eventType.value, (event.prior.map JournalState.value).getD "NONE", event.committed.value,
      toString event.stateVersion, toString event.claimGeneration, event.leaseId,
      toString event.leaseFence, event.payloadDigest, event.serverTimeAnchor,
      toString event.localMonotonicNs, event.recordTime]

def attemptChain (rt : PcccRuntime) : Chaining LocalEvent String String LocalEvent where
  key := LocalEvent.localEventId
  payload := id
  digest := eventDigest rt
  genesis := zeroSha256

/-- The events in the order they were inserted. -/
structure JournalStore where
  attempts : Table AttemptProjection.key
  events : Table fun entry : LocalEntry => entry.body.localEventId

def JournalStore.empty : JournalStore := ⟨.empty, .empty⟩

/-- The events of an attempt as they were inserted. -/
def JournalStore.eventsOf (s : JournalStore) (key : String × String) : List LocalEntry :=
  s.events.rows.filter fun entry => entry.body.attempt = key

/-- The columns of an attempt that `_transition` sets when it is given them. -/
structure JournalColumns where
  resultDigest : Option String := none
  terminalReceiptId : Option String := none
  terminalReceiptDigest : Option String := none
  serverRequestId : Option String := none
  serverReadbackReceiptId : Option String := none
  serverReadbackDigest : Option String := none
  deriving DecidableEq

def JournalColumns.named (columns : JournalColumns) : List (String × Option String) :=
  [("result_digest", columns.resultDigest), ("terminal_receipt_id", columns.terminalReceiptId),
    ("terminal_receipt_digest", columns.terminalReceiptDigest),
    ("server_request_id", columns.serverRequestId),
    ("server_readback_receipt_id", columns.serverReadbackReceiptId),
    ("server_readback_digest", columns.serverReadbackDigest)]

/-- What a caller passes to every method that writes an event: the keywords of the event, and the
columns among them, which every method but `record_claim` forwards to `_transition`. -/
structure EventArgs where
  localEventId : String
  payloadDigest : String
  serverTimeAnchor : String
  localMonotonicNs : Int
  recordTime : String
  columns : JournalColumns
  deriving DecidableEq

/-- What a method itself passes to `_transition`: the edge it takes, and the columns it sets. -/
structure JournalEdge extends JournalColumns where
  allowedStates : List JournalState
  eventType : JournalEvent
  committedState : JournalState

/-- The edge with the columns that the caller forwards. -/
def JournalEdge.given (edge : JournalEdge) (event : EventArgs) : JournalEdge :=
  { edge with
    resultDigest := edge.resultDigest <|> event.columns.resultDigest
    terminalReceiptId := edge.terminalReceiptId <|> event.columns.terminalReceiptId
    terminalReceiptDigest := edge.terminalReceiptDigest <|> event.columns.terminalReceiptDigest
    serverRequestId := edge.serverRequestId <|> event.columns.serverRequestId
    serverReadbackReceiptId := edge.serverReadbackReceiptId <|> event.columns.serverReadbackReceiptId
    serverReadbackDigest := edge.serverReadbackDigest <|> event.columns.serverReadbackDigest }

/-- A keyword that a method sets itself cannot be forwarded to `_transition`. -/
def JournalEdge.checkKeywords (edge : JournalEdge) (event : EventArgs) : Except Failure Unit :=
  match (edge.named.zip event.columns.named).find? fun p => p.1.2.isSome && p.2.2.isSome with
  | some p => .error ⟨.typeError,
      s!"pc_connection.journal.JobJournal._transition() got multiple values for keyword argument '{p.1.1}'"⟩
  | none => .ok ()

/-- `record_claim` has no keyword for a column. -/
def EventArgs.checkClaim (event : EventArgs) : Except Failure Unit :=
  match event.columns.named.find? fun p => p.2.isSome with
  | some p =>
    .error ⟨.typeError, s!"JobJournal.record_claim() got an unexpected keyword argument '{p.1}'"⟩
  | none => .ok ()

/-- Python's `new or old` on texts. -/
def orText (new : Option String) (old : String) : String :=
  match new with
  | none => old
  | some text => if text = "" then old else text

/-- The `UPDATE` of `_transition`. -/
def AttemptProjection.moved (row : AttemptProjection) (edge : JournalEdge) (event : EventArgs)
    (digest : String) : AttemptProjection where
  identity := row.identity
  localState := edge.committedState
  stateVersion := row.stateVersion + 1
  lastEventId := event.localEventId
  lastEventDigest := digest
  resultDigest := orText edge.resultDigest row.resultDigest
  terminalReceiptId := orText edge.terminalReceiptId row.terminalReceiptId
  terminalReceiptDigest := orText edge.terminalReceiptDigest row.terminalReceiptDigest
  serverRequestId := orText edge.serverRequestId row.serverRequestId
  serverReadbackReceiptId := orText edge.serverReadbackReceiptId row.serverReadbackReceiptId
  serverReadbackDigest := orText edge.serverReadbackDigest row.serverReadbackDigest
  serverTimeAnchor := event.serverTimeAnchor
  localMonotonicNs := event.localMonotonicNs
  createdAt := row.createdAt
  updatedAt := event.recordTime

/-- The row `record_claim` inserts. -/
def AttemptProjection.recorded (identity : AttemptIdentity) (event : EventArgs) (digest : String) :
    AttemptProjection where
  identity := identity
  localState := .claimed
  stateVersion := 1
  lastEventId := event.localEventId
  lastEventDigest := digest
  resultDigest := zeroSha256
  terminalReceiptId := zeroUuid
  terminalReceiptDigest := zeroSha256
  serverRequestId := zeroUuid
  serverReadbackReceiptId := zeroUuid
  serverReadbackDigest := zeroSha256
  serverTimeAnchor := event.serverTimeAnchor
  localMonotonicNs := event.localMonotonicNs
  createdAt := event.recordTime
  updatedAt := event.recordTime

namespace JobJournal

variable (rt : PcccRuntime)

def validateEventInputs (event : EventArgs) : Except Failure Unit := do
  uuidV7 rt event.localEventId "local_event_id"
  sha256Hex event.payloadDigest "payload_digest"
  if event.serverTimeAnchor ≠ "" then
    utcMicroseconds rt event.serverTimeAnchor "server_time_anchor"
  uint event.localMonotonicNs "local_monotonic_ns" 0 int64Max
  utcMicroseconds rt event.recordTime "record_time"

def localEvent (identity : AttemptIdentity) (event : EventArgs) (eventType : JournalEvent)
    (prior : Option JournalState) (committed : JournalState) (stateVersion : Nat) : LocalEvent where
  localEventId := event.localEventId
  jobId := identity.jobId
  attemptId := identity.attemptId
  eventType := eventType
  prior := prior
  committed := committed
  stateVersion := stateVersion
  claimGeneration := identity.claimGeneration
  leaseId := identity.leaseId
  leaseFence := identity.leaseFence
  payloadDigest := event.payloadDigest
  serverTimeAnchor := event.serverTimeAnchor
  localMonotonicNs := event.localMonotonicNs
  recordTime := event.recordTime

/-- An event with its place in the chain of its attempt. -/
def chained (sequence : Nat) (predecessor : String) (event : LocalEvent) : LocalEntry :=
  ⟨sequence, event, predecessor, eventDigest rt sequence predecessor event⟩

/-- The `INSERT` into `pccc_local_events`, with the unique keys of the table. -/
def insertEvent (entry : LocalEntry) (s : JournalStore) : Except Failure JournalStore :=
  if (s.events.get? entry.body.localEventId).isSome then
    .error ⟨.integrityError, "UNIQUE constraint failed: pccc_local_events.local_event_id"⟩
  else if (s.eventsOf entry.body.attempt).any fun other => other.sequence = entry.sequence then
    .error ⟨.integrityError, "UNIQUE constraint failed: pccc_local_events.job_id, " ++
      "pccc_local_events.attempt_id, pccc_local_events.event_sequence"⟩
  else .ok { s with events := s.events.insert entry }

/-- A transaction that gives the row it leaves. -/
abbrev Txn := JournalStore → Except Failure (AttemptProjection × JournalStore)

def recordClaim (identity : AttemptIdentity) (event : EventArgs) : Txn := fun s => do
  event.checkClaim
  identity.validate rt
  validateEventInputs rt event
  match s.attempts.get? identity.key with
  | some row =>
    if row.identity ≠ identity then
      throw ⟨.journalConflict, "LOCAL_JOURNAL_IDENTITY_CONFLICT"⟩
    return (row, s)
  | none =>
    let entry := chained rt 1 zeroSha256 (localEvent identity event .claimRecorded none .claimed 1)
    let row := AttemptProjection.recorded identity event entry.digest
    let s' ← insertEvent entry { s with attempts := s.attempts.insert row }
    return (row, s')

def transition (identity : AttemptIdentity) (event : EventArgs) (edge : JournalEdge) : Txn := fun s => do
  edge.checkKeywords event
  identity.validate rt
  validateEventInputs rt event
  match s.attempts.get? identity.key with
  | none => throw ⟨.journalStateError, "attempt is not journaled"⟩
  | some row =>
    if row.identity ≠ identity then
      throw ⟨.journalConflict, "LOCAL_JOURNAL_STALE_ATTEMPT"⟩
    let current := row.localState
    if current ∉ edge.allowedStates then
      throw ⟨.journalStateError, s!"illegal journal transition from {current.value}"⟩
    let sequence := row.stateVersion + 1
    let entry := chained rt sequence row.lastEventDigest
      (localEvent identity event edge.eventType (some current) edge.committedState sequence)
    let next := row.moved (edge.given event) event entry.digest
    let s' ← insertEvent entry { s with attempts := s.attempts.update next }
    return (next, s')

def startPreparation (identity : AttemptIdentity) (event : EventArgs) : Txn :=
  transition rt identity event
    { allowedStates := [.claimed], eventType := .preparationStarted, committedState := .preparing }

def recordResult (identity : AttemptIdentity) (resultDigest : String) (event : EventArgs) : Txn := fun s => do
  sha256Hex resultDigest "result_digest"
  transition rt identity event
    { allowedStates :=
        if identity.sideEffectClass = "NONE" then [.preparing] else [.effectStarted, .recoveryRequired]
      eventType := .resultRecorded
      committedState := .resultObserved
      resultDigest := some resultDigest } s

def requireRecovery (identity : AttemptIdentity) (event : EventArgs) : Txn :=
  transition rt identity event
    { allowedStates := [.claimed, .preparing, .effectStarted, .resultObserved, .completing]
      eventType := .recoveryRequired
      committedState := .recoveryRequired }

def submitCompletion (identity : AttemptIdentity) (receiptId receiptDigest serverRequestId : String)
    (event : EventArgs) : Txn := fun s => do
  uuidV7 rt receiptId "receipt_id"
  sha256Hex receiptDigest "receipt_digest"
  uuidV7 rt serverRequestId "server_request_id"
  transition rt identity event
    { allowedStates := [.resultObserved]
      eventType := .completionSubmitted
      committedState := .completing
      terminalReceiptId := some receiptId
      terminalReceiptDigest := some receiptDigest
      serverRequestId := some serverRequestId } s

def abandon (identity : AttemptIdentity) (event : EventArgs) : Txn :=
  transition rt identity event
    { allowedStates :=
        [.claimed, .preparing, .effectStarted, .resultObserved, .recoveryRequired, .completing]
      eventType := .attemptAbandoned
      committedState := .abandoned }

/-! ## Programs -/

abbrev JournalProg := Prog Empty JournalStore Failure

def get (jobId attemptId : String) : JournalProg (Option AttemptProjection) := do
  Prog.ofExcept (uuidV7 rt jobId "job_id")
  Prog.ofExcept (uuidV7 rt attemptId "attempt_id")
  Prog.read fun s => s.attempts.get? (jobId, attemptId)

/-- The states in which `commit_effect_start` asks for a reconciliation. -/
def alreadyStarted : List JournalState :=
  [.effectStarted, .resultObserved, .recoveryRequired, .completing, .terminalConfirmed]

/-- What `commit_effect_start` checks of the row it read. -/
def checkEffectStart (identity : AttemptIdentity) (current : Option AttemptProjection) :
    Except Failure Unit := do
  if current.any fun row => row.localState ∈ alreadyStarted then
    throw ⟨.alreadyStartedRequiresReconciliation, "ALREADY_STARTED_REQUIRES_RECONCILIATION"⟩
  if identity.sideEffectClass = "NONE" then
    throw ⟨.journalStateError, "side-effect-free operation may not commit EFFECT_STARTED"⟩

def commitEffectStart (identity : AttemptIdentity) (event : EventArgs) : JournalProg AttemptProjection := do
  let current ← get rt identity.jobId identity.attemptId
  Prog.ofExcept (checkEffectStart identity current)
  Prog.txn (transition rt identity event
    { allowedStates := [.preparing]
      eventType := .effectStartCommitted
      committedState := .effectStarted })

structure ReadbackArgs where
  serverReadbackReceiptId : String
  serverReadbackDigest : String
  expectedResultDigest : String
  expectedReceiptDigest : String
  deriving DecidableEq

/-- The arguments `confirm_terminal_readback` checks first. -/
def checkReadback (args : ReadbackArgs) : Except Failure Unit := do
  uuidV7 rt args.serverReadbackReceiptId "server_readback_receipt_id"
  sha256Hex args.serverReadbackDigest "server_readback_digest"
  sha256Hex args.expectedResultDigest "expected_result_digest"
  sha256Hex args.expectedReceiptDigest "expected_receipt_digest"

/-- What `confirm_terminal_readback` checks of the row it read. -/
def checkSubmitted (args : ReadbackArgs) (current : Option AttemptProjection) : Except Failure Unit := do
  match current with
  | none => throw ⟨.journalStateError, "completion was not submitted"⟩
  | some row =>
    if row.localState ≠ .completing then
      throw ⟨.journalStateError, "completion was not submitted"⟩
    if row.resultDigest ≠ args.expectedResultDigest ∨
        row.terminalReceiptDigest ≠ args.expectedReceiptDigest then
      throw ⟨.journalConflict, "LOCAL_JOURNAL_SERVER_DIVERGENCE"⟩

def confirmTerminalReadback (identity : AttemptIdentity) (args : ReadbackArgs) (event : EventArgs) :
    JournalProg AttemptProjection := do
  Prog.ofExcept (checkReadback rt args)
  let current ← get rt identity.jobId identity.attemptId
  Prog.ofExcept (checkSubmitted args current)
  Prog.txn (transition rt identity event
    { allowedStates := [.completing]
      eventType := .terminalReadbackConfirmed
      committedState := .terminalConfirmed
      serverReadbackReceiptId := some args.serverReadbackReceiptId
      serverReadbackDigest := some args.serverReadbackDigest })

inductive JournalOp
  | recordClaim
  | startPreparation
  | commitEffectStart
  | recordResult (resultDigest : String)
  | requireRecovery
  | submitCompletion (receiptId receiptDigest serverRequestId : String)
  | confirmTerminalReadback (args : ReadbackArgs)
  | abandon

structure JournalCall where
  identity : AttemptIdentity
  op : JournalOp
  event : EventArgs

def program (c : JournalCall) : JournalProg AttemptProjection :=
  match c.op with
  | .recordClaim => Prog.txn (recordClaim rt c.identity c.event)
  | .startPreparation => Prog.txn (startPreparation rt c.identity c.event)
  | .commitEffectStart => commitEffectStart rt c.identity c.event
  | .recordResult resultDigest => Prog.txn (recordResult rt c.identity resultDigest c.event)
  | .requireRecovery => Prog.txn (requireRecovery rt c.identity c.event)
  | .submitCompletion receiptId receiptDigest serverRequestId =>
    Prog.txn (submitCompletion rt c.identity receiptId receiptDigest serverRequestId c.event)
  | .confirmTerminalReadback args => confirmTerminalReadback rt c.identity args c.event
  | .abandon => Prog.txn (abandon rt c.identity c.event)

/-! ## Verification -/

def eventChainInvalid : Failure := ⟨.journalCorrupt, "LOCAL_JOURNAL_EVENT_CHAIN_INVALID"⟩

def projectionDivergence : Failure := ⟨.journalCorrupt, "LOCAL_JOURNAL_PROJECTION_DIVERGENCE"⟩

/-- The round of `_verify_integrity` for one attempt. -/
def verifyAttempt (s : JournalStore) (row : AttemptProjection) : Except Failure Unit :=
  let events := (s.eventsOf row.key).insertionSort fun a b => a.sequence ≤ b.sequence
  match (attemptChain rt).scan (fun () _ => (.ok () : Except Unit Unit)) 0 zeroSha256 () events with
  | .error _ => .error eventChainInvalid
  | .ok (count, predecessor, ()) =>
    match events.getLast? with
    | none => .error projectionDivergence
    | some last =>
      if row.stateVersion ≠ count ∨ row.lastEventDigest ≠ predecessor ∨
          row.localState ≠ last.body.committed then
        .error projectionDivergence
      else .ok ()

def verifyIntegrity (s : JournalStore) : Except Failure Unit :=
  s.attempts.rows.forM (verifyAttempt rt s)

end JobJournal

end VeraMono
