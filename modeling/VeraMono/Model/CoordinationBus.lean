import Mathlib.Logic.Function.Basic
import VeraMono.Model.CoordinationRepository

/-!
# The coordination bus

`core.py`, `temporal.py` and `verified_temporal.py` of the coordination bus: the write commands
and the inbox read of the public `CoordinationBus`, with the receipts they return. A command runs
over the repository, to which other processes append between any two of its queries.
-/

namespace VeraMono

open Framework

/-! ## Exceptions -/

/-- The class of an exception, as the handlers of `_receipted` tell them apart. -/
inductive BusErrorClass
  | permissionError | typeError | valueError | repositoryConflict | lookupError | runtimeError
  /-- An exception of none of these classes. -/
  | other
  deriving DecidableEq

structure BusException where
  kind : BusErrorClass
  message : String

/-- What a validator or the repository raised. -/
def Failure.toBus (e : Failure) : BusException where
  kind := match e.kind with
    | .valueError => .valueError
    | .typeError => .typeError
    | .repositoryConflict | .coordinationRepositoryCorrupt => .repositoryConflict
    | _ => .other
  message := e.message

def busValueError (message : String) : BusException := ⟨.valueError, message⟩

def busPermissionError (message : String) : BusException := ⟨.permissionError, message⟩

/-! ## Temporal evidence -/

/-- `datetime.fromisoformat` of a text: not a time, a time without an offset, or an instant. -/
inductive AwareParse
  | invalid
  | naive
  | instant (time : Rat)

structure TemporalEvidence where
  precision : String
  source : String
  verified : Bool
  value : Option String
  lowerBound : Option String
  upperBound : Option String
  referenceId : Option String
  deriving DecidableEq

def TemporalEvidence.unknown (source : String) : TemporalEvidence :=
  ⟨"UNKNOWN", source, false, none, none, none, none⟩

def temporalPrecisions : List String := ["EXACT", "BOUNDED", "APPROXIMATE", "UNKNOWN"]

def recordTimeSources : List String := ["DATABASE_RECORD_TIME", "COORDINATION_RECORD_TIME"]

structure TemporalEvidenceEnvelope where
  evidence : TemporalEvidence

/-- `TemporalEvidenceInput`, or an object of another type. -/
inductive TemporalEvidenceInput
  | none
  | evidence (evidence : TemporalEvidence)
  | envelope (envelope : TemporalEvidenceEnvelope)
  | other

inductive DecisionAuthorityInput
  | none
  | envelope

/-! ## Receipts -/

inductive BusOperation
  | readInbox | post | acknowledge | publishStatus | requestReview | resolveThread | exitCheckpoint
  deriving DecidableEq

def BusOperation.name : BusOperation → String
  | readInbox => "coordination_read_inbox"
  | post => "coordination_post"
  | acknowledge => "coordination_acknowledge"
  | publishStatus => "coordination_publish_status"
  | requestReview => "coordination_request_review"
  | resolveThread => "coordination_resolve_thread"
  | exitCheckpoint => "coordination_exit_checkpoint"

def BusOperation.upper (operation : BusOperation) : String :=
  String.ofList (operation.name.toList.map Char.toUpper)

inductive ResultClass
  | complete | denied | invalid | conflict | notFound
  deriving DecidableEq

def ResultClass.name : ResultClass → String
  | complete => "COMPLETE"
  | denied => "DENIED"
  | invalid => "INVALID"
  | conflict => "CONFLICT"
  | notFound => "NOT_FOUND"

structure SequencedEvent where
  eventSequence : Nat
  event : CoordinationEvent

/-- A `CoordinationReceipt` without its hash. -/
structure ReceiptBody where
  operation : BusOperation
  resultClass : ResultClass
  outcomeCode : String
  actorWorkstream : String
  threadKey : Option String
  eventId : Option String
  eventSequence : Option Nat
  targetBranch : Option String
  databaseWriteConfirmed : Bool
  acknowledgesEventId : Option String
  error : Option String
  limitations : List String

structure CoordinationReceipt extends ReceiptBody where
  resultHash : String

structure CoordinationResult where
  receipt : CoordinationReceipt
  events : List SequencedEvent

/-- What the page of a read says of itself. -/
structure Paging where
  cursorIn : Option Int
  cursorOut : Option Int
  pageLimit : Option Int
  hasMore : Option Bool

def Paging.none : Paging := ⟨Option.none, Option.none, Option.none, Option.none⟩

structure EvidencedTimes where
  entryTime : TemporalEvidence
  retrievalTime : TemporalEvidence
  eventTime : TemporalEvidence
  stateTime : TemporalEvidence

/-- `deterministic_body`. -/
structure TemporalBody where
  baseResultHash : String
  times : EvidencedTimes
  paging : Paging
  limitations : List String

structure TemporalCoordinationReceipt where
  base : CoordinationReceipt
  resultHash : String
  limitations : List String
  receiptTime : TemporalEvidence
  times : EvidencedTimes
  paging : Paging

structure TemporalCoordinationResult where
  receipt : TemporalCoordinationReceipt
  events : List SequencedEvent

/-- The documents whose digests name what evidence is about. -/
inductive SubjectBody
  | acknowledgement (eventId actorWorkstream threadKey summary : String) (payload referenceData : PyValue)
  | exitCheckpoint (workstream threadKey : String) (targetBranch : Option String)
      (objective summary : String) (material : Bool) (status : String)
      (activeIssue acknowledgesEventId : Option String) (referenceData : PyValue)
  | decision (actorWorkstream : String) (draft : CoordinationEventDraft)
  | receipt (receipt : CoordinationReceipt)

/-- The hashes of the bus. The UTF-8 encoder refuses the same texts of an event in whatever
document it stands. -/
structure BusRuntime (D : Type) where
  hashing : BusHashing D
  py : Stdlib
  aware : String → AwareParse
  resultHash : ReceiptBody → List SequencedEvent → String
  temporalHash : TemporalBody → String
  subjectHash : SubjectBody → String
  encodesObject : PyValue → Bool
  encodesResult : List SequencedEvent → Bool
  encodesResult_nil : encodesResult [] = true
  encodesResult_event : ∀ d n e, hashing.encodes (.event d n e) = true → encodesResult [⟨n, e⟩] = true

/-! ## The bus and its host -/

/-- What the host injects. A verifier answers by the role, the subject and how often it was
asked in that role; the provider by the subject and how often it was asked. -/
structure BusHost where
  evidenceVerifier : Option (String → String → Nat → Except BusException Bool)
  receiptTimeProvider : Option (String → Nat → Except BusException TemporalEvidenceInput)
  decisionAuthorityVerifier : Option (String → Except BusException Bool)
  now : ClockText

/-- The repository while a command runs. -/
structure BusState (D : Type) where
  log : SQLiteCoordinationRepository D
  /-- What other processes append, a batch before each query of the command. -/
  others : List (List (CoordinationEventDraft × ClockText))
  /-- How often the receipt time provider was asked. -/
  asked : Nat
  /-- How often the verifier was asked in a role. -/
  verified : String → Nat
  /-- What the command appended. -/
  written : List CoordinationEvent

/-- A step of a command: it may raise, and what it did to the repository stays. -/
def Bus (D α : Type) : Type := BusState D → Except BusException α × BusState D

namespace Bus

variable {D α β : Type}

protected def pure (a : α) : Bus D α := fun s => (.ok a, s)

protected def bind (x : Bus D α) (f : α → Bus D β) : Bus D β := fun s =>
  match x s with
  | (.ok a, s') => f a s'
  | (.error e, s') => (.error e, s')

protected def throw (e : BusException) : Bus D α := fun s => (.error e, s)

protected def tryCatch (x : Bus D α) (handle : BusException → Bus D α) : Bus D α := fun s =>
  match x s with
  | (.ok a, s') => (.ok a, s')
  | (.error e, s') => handle e s'

instance : Monad (Bus D) where
  pure := Bus.pure
  bind := Bus.bind

instance : MonadExcept BusException (Bus D) where
  throw := Bus.throw
  tryCatch := Bus.tryCatch

/-- A check of values. -/
def lift (r : Except Failure α) : Bus D α := fun s => (r.mapError Failure.toBus, s)

end Bus

section Repository
variable {D α : Type} [DecidableEq D] (K : BusHashing D) (py : Stdlib)

def appendOther (log : SQLiteCoordinationRepository D) (a : CoordinationEventDraft × ClockText) :
    SQLiteCoordinationRepository D :=
  match SQLiteCoordinationRepository.append K py a.1 a.2 log with
  | .ok r => r.2
  | .error _ => log

/-- The appends of other processes before a query. -/
def interleave (s : BusState D) : BusState D :=
  { s with log := (s.others.headD []).foldl (appendOther K py) s.log, others := s.others.tail }

namespace SQLiteCoordinationRepository

/-- A query. -/
def select (f : SQLiteCoordinationRepository D → Except Failure α) : Bus D α := fun s =>
  ((f (interleave K py s).log).mapError Failure.toBus, interleave K py s)

/-- `append`, with the sequence number of the event. -/
def appendDraft (now : ClockText) (draft : CoordinationEventDraft) : Bus D SequencedEvent := fun s =>
  let s := interleave K py s
  match append K py draft now s.log with
  | .ok (event, log) => (.ok ⟨log.sequence, event⟩, { s with log, written := s.written ++ [event] })
  | .error e => (.error e.toBus, s)

/-- `verify_integrity`. -/
def checkIntegrity : Bus D Unit := do
  let entries ← select K py fun log => .ok log.entries
  let counters ← select K py fun log => .ok (log.sequence, log.head)
  let _ ← Bus.lift (verifyRows K py entries counters.1 counters.2)

def eventFromRow (e : Entry CoordinationEvent D) : Except Failure SequencedEvent :=
  (fromRow py e.body).map fun _ => ⟨e.sequence, e.body⟩

def get (eventId : String) : Bus D (Option SequencedEvent) := do
  checkIntegrity K py
  select K py fun log =>
    match (repositoryChain K).lookup log eventId with
    | none => .ok none
    | some e => (eventFromRow py e).map some

def listThread (threadKey : String) : Bus D (List SequencedEvent) := do
  checkIntegrity K py
  select K py fun log => (log.entries.filter fun e => e.body.threadKey = threadKey).mapM (eventFromRow py)

/-- An event of the inbox of a target, past a cursor. -/
def inInbox (target : String) (after : Int) (e : Entry CoordinationEvent D) : Bool :=
  e.body.targetBranch = some target ∧ after < e.sequence

def acknowledged (target : String) (log : SQLiteCoordinationRepository D) (e : Entry CoordinationEvent D) :
    Bool :=
  log.entries.any fun response =>
    response.body.acknowledgesEventId = some e.body.eventId ∧ response.body.sourceBranch = target

/-- The rows of `read_inbox`. The entries are in order of sequence. -/
def inboxRows (target : String) (after : Int) (limit : Nat) (includeAcknowledged : Bool)
    (log : SQLiteCoordinationRepository D) : List (Entry CoordinationEvent D) :=
  (log.entries.filter fun e =>
    inInbox target after e && (includeAcknowledged || !acknowledged target log e)).take limit

def readInbox (target : String) (after : Int) (limit : Nat) (includeAcknowledged : Bool) :
    Bus D (List SequencedEvent) := do
  checkIntegrity K py
  select K py fun log => (inboxRows target after limit includeAcknowledged log).mapM (eventFromRow py)

end SQLiteCoordinationRepository

end Repository

end VeraMono
