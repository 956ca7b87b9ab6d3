import VeraMono.Framework.ChainLog
import VeraMono.Framework.Table
import VeraMono.Model.Records

/-!
# The ledgers

The outbound audit, the lifecycle journal and the recovery checkpoints are
digest-chained logs (`ChainLog`), each with its own key and replay rule; the
memory ledger keeps a chained head over a table of records; the coordination
command journal keeps a digest of its whole contents. Each function is one
SQLite transaction.
-/

namespace VeraMono

open Framework

variable {D : Type} (H : Hashing D)

def integrityError (constraint : String) : Failure :=
  ⟨.integrityError, s!"UNIQUE constraint failed: {constraint}"⟩

/-! ## `OutboundExecutionAudit` -/

/-- The audit files an event under its effect and stage. -/
def auditChain : Chaining (AuditBody D) D (String × AuditEventType) (AuditPayload D) where
  key b := (b.effectId, b.eventType)
  payload b := b.payload
  digest n d b := H.sha256 (.auditEvent n d b)
  genesis := H.sha256 .auditGenesis

abbrev OutboundExecutionAudit (D : Type) := ChainLog (AuditBody D) D

abbrev OutboundAuditEvent (D : Type) := Entry (AuditBody D) D

def auditError (message : String) : Failure := ⟨.outboundAuditError, message⟩

namespace OutboundExecutionAudit

variable [DecidableEq D]

def append (event : AuditBody D) (log : OutboundExecutionAudit D) :
    Except Failure (OutboundAuditEvent D × OutboundExecutionAudit D) := do
  let _ ← requireText .outboundAuditError "effect_id" event.effectId
  let _ ← requireText .outboundAuditError "effect_kind" event.effectKind
  match (auditChain H).append log event with
  | .ok r => .ok r
  | .error .replay => .error (auditError "outbound audit replay carries different payload")
  | .error .conflict => .error (integrityError "events.event_digest")

/-- `events(effect_id)`. -/
def events (effectId : String) (log : OutboundExecutionAudit D) : List (OutboundAuditEvent D) :=
  log.entries.filter fun e => e.body.effectId = effectId

def latest (effectId : String) (log : OutboundExecutionAudit D) : Option (OutboundAuditEvent D) :=
  (events effectId log).getLast?

end OutboundExecutionAudit

/-! ## `LifecycleJournal` -/

/-- The journal files an event under its transition and type. -/
def journalChain : Chaining (JournalBody D) D (String × JournalEventType) (JournalPayload D) where
  key b := (b.transitionId, b.eventType)
  payload b := b.payload
  digest n d b := H.sha256 (.journalEvent n d b)
  genesis := H.sha256 .journalGenesis

abbrev LifecycleJournal (D : Type) := ChainLog (JournalBody D) D

abbrev LifecycleEvent (D : Type) := Entry (JournalBody D) D

def journalError (message : String) : Failure := ⟨.lifecycleJournalError, message⟩

namespace LifecycleJournal

variable [DecidableEq D]

def append (event : JournalBody D) (log : LifecycleJournal D) :
    Except Failure (LifecycleEvent D × LifecycleJournal D) := do
  let _ ← requireText .lifecycleJournalError "transition_id" event.transitionId
  match (journalChain H).append log event with
  | .ok r => .ok r
  | .error .replay => .error (journalError "journal event replay carries different payload")
  | .error .conflict => .error (integrityError "events.event_digest")

/-- `latest(transition_id)`. -/
def latest (transitionId : String) (log : LifecycleJournal D) : Option (LifecycleEvent D) :=
  (log.entries.filter fun e => e.body.transitionId = transitionId).getLast?

def hasEvent (transitionId : String) (eventType : JournalEventType) (log : LifecycleJournal D) :
    Bool := ((journalChain H).lookup log (transitionId, eventType)).isSome

/-- The message of each fault `verify_chain` finds. -/
def verifyFailure : VerifyFault Empty → Failure
  | .gap => journalError "lifecycle journal sequence gap"
  | .predecessor => journalError "lifecycle journal predecessor digest mismatch"
  | .digest => journalError "lifecycle journal event digest mismatch"
  | .metaSequence => journalError "lifecycle journal meta sequence mismatch"
  | .metaHead => journalError "lifecycle journal meta head mismatch"

/-- `verify_chain`, on the rows and counters it read. -/
def verifyChain (entries : List (LifecycleEvent D)) (sequence : Nat) (head : D) :
    Except Failure D :=
  match (journalChain H).verify (fun (_ : Unit) _ => (.ok () : Except Empty Unit)) () entries
      sequence head with
  | .ok head => .ok head
  | .error f => .error (verifyFailure f)

end LifecycleJournal

/-! ## `NativeRecoveryCheckpointStore` -/

/-- What a replay of a checkpoint id must repeat. -/
structure CheckpointContent (D : Type) where
  runtimeId : String
  memoryHeadDigest : D
  controlSourceDigest : D
  commitments : List String
  unfinishedWork : List String
  deriving DecidableEq

/-- The store files a checkpoint under its id. -/
def checkpointChain : Chaining (CheckpointBody D) D String (CheckpointContent D) where
  key b := b.checkpointId
  payload b := ⟨b.runtimeId, b.memoryHeadDigest, b.controlSourceDigest, b.commitments,
    b.unfinishedWork⟩
  digest n d b := H.sha256 (.checkpoint n d b)
  genesis := H.sha256 .checkpointGenesis

abbrev NativeRecoveryCheckpointStore (D : Type) := ChainLog (CheckpointBody D) D

/-- A checkpoint: its generation is the sequence number of its entry. -/
abbrev NativeRecoveryCheckpoint (D : Type) := Entry (CheckpointBody D) D

def checkpointError (message : String) : Failure := ⟨.nativeCheckpointError, message⟩

namespace NativeRecoveryCheckpointStore

variable [DecidableEq D]

def fromRow (e : NativeRecoveryCheckpoint D) : Except Failure (NativeRecoveryCheckpoint D) :=
  if H.sha256 (.checkpoint e.sequence e.predecessor e.body) ≠ e.digest then
    .error (checkpointError "recovery checkpoint digest mismatch")
  else .ok e

def requireStringTuple (label : String) (value : List String) : Except Failure (List String) :=
  if "" ∈ value then
    .error (checkpointError s!"{label} must be a tuple of non-empty exact strings")
  else .ok value

def append (body : CheckpointBody D) (expectedHead : DigestText D)
    (log : NativeRecoveryCheckpointStore D) :
    Except Failure (NativeRecoveryCheckpoint D × NativeRecoveryCheckpointStore D) := do
  let _ ← requireText .nativeCheckpointError "checkpoint_id" body.checkpointId
  let _ ← requireText .nativeCheckpointError "runtime_id" body.runtimeId
  let expectedHead ← requireDigest .nativeCheckpointError "expected_head" expectedHead
  let _ ← requireStringTuple "commitments" body.commitments
  let _ ← requireStringTuple "unfinished_work" body.unfinishedWork
  let _ ← requireText .nativeCheckpointError "created_at" body.createdAt
  match (checkpointChain H).lookup log body.checkpointId with
  | some _ =>
    match (checkpointChain H).append log body with
    | .ok (e, log) => (fromRow H e).map fun e => (e, log)
    | .error _ =>
      .error (checkpointError "checkpoint_id replay carries different checkpoint content")
  | none =>
    if log.head ≠ expectedHead then
      .error ⟨.staleCheckpointHead, "stale expected recovery checkpoint head"⟩
    else match (checkpointChain H).append log body with
    | .ok r => .ok r
    | .error _ => .error (integrityError "checkpoints.checkpoint_digest")

def read (checkpointId : String) (log : NativeRecoveryCheckpointStore D) :
    Except Failure (NativeRecoveryCheckpoint D) :=
  match (checkpointChain H).lookup log checkpointId with
  | none => .error ⟨.keyError, checkpointId⟩
  | some e => fromRow H e

def readDigest (checkpointDigest : D) (log : NativeRecoveryCheckpointStore D) :
    Except Failure (NativeRecoveryCheckpoint D) :=
  match log.entries.find? fun e => e.digest = checkpointDigest with
  | none => .error ⟨.keyError, H.hex checkpointDigest⟩
  | some e => fromRow H e

def latest (log : NativeRecoveryCheckpointStore D) :
    Except Failure (Option (NativeRecoveryCheckpoint D)) :=
  match log.entries.getLast? with
  | none => .ok none
  | some e => (fromRow H e).map some

end NativeRecoveryCheckpointStore

/-! ## `MemoryLedger` -/

structure MemoryLedger (D : Type) where
  records : Table fun row : MemoryRow D => row.request.recordId
  operations : Table fun receipt : AdmissionReceipt D => receipt.request.operationId
  generation : Nat
  head : D

def memoryError (message : String) : Failure := ⟨.memoryLedgerError, message⟩

def AdmissionRequest.validate (request : AdmissionRequest) : Except Failure Unit := do
  let texts := [(request.recordId, "record_id"), (request.text, "text"),
    (request.sourceActor, "source_actor"), (request.authorityRef, "authority_ref"),
    (request.privacyRef, "privacy_ref"), (request.operationId, "operation_id"),
    (request.projectId, "project_id"), (request.governedIdentityId, "governed_identity_id")]
  match texts.find? fun tl => tl.1 = "" with
  | some (_, label) => .error (memoryError s!"{label} must be a non-empty exact string")
  | none =>
    if "" ∈ request.provenanceRefs then
      .error (memoryError "provenance_refs must be exact non-empty strings")
    else if ¬ request.provenanceRefs.Nodup then
      .error (memoryError "provenance_refs must be unique")
    else if request.supersedes = some "" then
      .error (memoryError "supersedes must be null or a non-empty exact string")
    else .ok ()

namespace MemoryLedger

variable [DecidableEq D]

/-- Marks the record that a request supersedes. -/
def supersede (request : AdmissionRequest) (records : Table fun row : MemoryRow D => row.request.recordId) :
    Except Failure (Table fun row : MemoryRow D => row.request.recordId) :=
  match request.supersedes with
  | none => .ok records
  | some id =>
    match records.get? id with
    | none => .error (memoryError "superseded predecessor is missing or non-current")
    | some row =>
      if row.superseded then
        .error (memoryError "superseded predecessor is missing or non-current")
      else .ok (records.update { row with superseded := true, supersededBy := some request.recordId })

/-- `admit`. -/
def admitRecord (config : LifecycleConfig) (request : AdmissionRequest) (expectedHead : DigestText D)
    (m : MemoryLedger D) : Except Failure (AdmissionReceipt D × MemoryLedger D) := do
  request.validate
  if request.projectId ≠ config.projectId ∨ request.governedIdentityId ≠ config.identityId then
    throw (memoryError "memory request project or identity mismatch")
  if expectedHead = .malformed "" then throw (memoryError "expected_head is required")
  let requestDigest := H.sha256 (.memoryRequest request)
  match m.operations.get? request.operationId with
  | some receipt =>
    if receipt.requestDigest ≠ requestDigest then
      .error (memoryError "operation_id replay carries a different request")
    else .ok (receipt, m)
  | none =>
    if expectedHead ≠ .lower m.head then
      .error ⟨.staleMemoryHead, "stale expected memory head"⟩
    else if (m.records.get? request.recordId).isSome then
      .error (memoryError "record_id already exists")
    else do
      let records ← supersede request m.records
      let recordDigest := H.sha256 (.memoryRecord request requestDigest)
      if ∃ row ∈ records.rows, row.recordDigest = recordDigest then
        throw (integrityError "records.record_digest")
      let generation := m.generation + 1
      let head := H.sha256 (.memoryHead m.head generation request.recordId recordDigest
        request.supersedes)
      let receipt := ⟨request, requestDigest, recordDigest, head, generation⟩
      return (receipt,
        { records := records.insert ⟨request, requestDigest, false, none, recordDigest⟩
          operations := m.operations.insert receipt
          generation, head })

end MemoryLedger

end VeraMono
