import VeraMono.Framework.Readers
import VeraMono.Model.Coordination
import VeraMono.Model.CoordinationRepository

/-!
# Processes that share a ledger

The four ledgers that one process verifies while others append to them. A call is a program over
one database: a write is a transaction, and a `SELECT` outside of one is an atom of its own, so
that the rows and the counters a verifier compares are read in separate atoms.
-/

namespace VeraMono

open Framework

variable {D : Type}

inductive LedgerCall (A : Type)
  | write (a : A)
  | verify

inductive LedgerReply (E D : Type)
  | written (e : E)
  | verified (digest : D)

def ledgerProgram {σ A E : Type} (write : A → Prog Empty σ Failure E) (verify : Prog Empty σ Failure D) :
    LedgerCall A → Prog Empty σ Failure (LedgerReply E D)
  | .write a => (write a).map .written
  | .verify => verify.map .verified

def verificationError {σ A E : Type} (P : Pool Empty σ Failure (LedgerReply E D) (LedgerCall A)) (i : Nat) :
    Option Failure :=
  match P.thread i with
  | some ⟨.verify, some (.raise e)⟩ => some e
  | _ => none

/-- `verify_chain` of a chained log: the rows, then the two queries of `_meta`. -/
def readChain {L σ B : Type} (log : σ → ChainLog B D)
    (verify : List (Entry B D) → Nat → D → Except Failure D) : Prog L σ Failure D := do
  let entries ← .read fun s => (log s).entries
  let sequence ← .read fun s => (log s).sequence
  let head ← .read fun s => (log s).head
  Prog.ofExcept (verify entries sequence head)

variable [DecidableEq D]

/-! ## The outbound audit and the lifecycle journal -/

theorem OutboundExecutionAudit.verifyChain_eq (H : Hashing D) :
    OutboundExecutionAudit.verifyChain H = readChain VeraState.audit (verifyRows H) := rfl

theorem verifyJournalChain_eq (R : Runtime D) :
    verifyJournalChain R = readChain VeraState.journal (LifecycleJournal.verifyChain R.hash) := rfl

/-- The calls of `OutboundExecutionAudit`. -/
def auditProgram (H : Hashing D) : LedgerCall (AuditBody D) →
    Prog Empty (OutboundExecutionAudit D) Failure (LedgerReply (OutboundAuditEvent D) D) :=
  ledgerProgram (fun event => .txn (OutboundExecutionAudit.append H event))
    (readChain id (OutboundExecutionAudit.verifyRows H))

/-- The calls of `LifecycleJournal`. -/
def journalProgram (H : Hashing D) : LedgerCall (JournalBody D) →
    Prog Empty (LifecycleJournal D) Failure (LedgerReply (LifecycleEvent D) D) :=
  ledgerProgram (fun event => .txn (LifecycleJournal.append H event))
    (readChain id (LifecycleJournal.verifyChain H))

/-! ## The coordination repository -/

/-- `verify_integrity`: the rows, then the one query of `_meta`. -/
def SQLiteCoordinationRepository.verifyIntegrity (K : BusHashing D) (py : Stdlib) :
    Prog Empty (SQLiteCoordinationRepository D) Failure D := do
  let entries ← .read ChainLog.entries
  let (sequence, head) ← .read fun log => (log.sequence, log.head)
  Prog.ofExcept (verifyRows K py entries sequence head)

/-- The calls of `SQLiteCoordinationRepository`: drafts are appended at the time of the clock. -/
def repositoryProgram (K : BusHashing D) (py : Stdlib) :
    LedgerCall (CoordinationEventDraft × ClockText) →
      Prog Empty (SQLiteCoordinationRepository D) Failure (LedgerReply CoordinationEvent D) :=
  ledgerProgram (fun a => .txn (SQLiteCoordinationRepository.append K py a.1 a.2))
    (SQLiteCoordinationRepository.verifyIntegrity K py)

/-! ## The coordination command journal -/

namespace CommandJournal

/-- `verify_integrity`: the counters, then the two queries of `_projection_state`. -/
def readIntegrity {L σ : Type} (H : Hashing D) (journal : σ → CommandJournal D) :
    Prog L σ Failure D := do
  let observed ← .read fun s =>
    ((journal s).bindingCount, (journal s).resultCount, (journal s).projectionDigest)
  let bindings ← .read fun s => (journal s).bindings.rows
  let results ← .read fun s => (journal s).results.rows
  let projection ← Prog.ofExcept (projectionState H bindings results)
  Prog.ofExcept (compareMeta observed projection)

theorem verifyIntegrity_eq (R : Runtime D) :
    verifyIntegrity R = readIntegrity R.hash VeraState.commands := rfl

/-- A journal before any command. -/
def empty (H : Hashing D) : CommandJournal D :=
  ⟨.empty, .empty, 0, 0, H.sha256 (.commandProjection [] [])⟩

/-- `_require_digest`: `D` has every text of 64 characters that `int(value, 16)` reads. -/
def requireDigest (label : String) : DigestText D → Except Failure D
  | .lower d => .ok d
  | .upper d => .ok d
  | .malformed s =>
    if s.length ≠ 64 then .error (commandError s!"{label} must be an exact SHA-256 digest")
    else .error (commandError s!"{label} must be hexadecimal")

structure BindArgs (D : Type) where
  commandId : String
  effectId : String
  command : String
  actorWorkstream : String
  lifecyclePermitDigest : DigestText D
  invocationDigest : DigestText D
  requestDigest : DigestText D

/-- The arguments of `record_result`, which does not look at the type of `command_id`. -/
structure ResultArgs (D : Type) where
  commandId : SqlText
  resultDigest : DigestText D
  resultClass : String
  databaseWriteConfirmed : Bool
  eventId : Option String
  eventSequence : Option Int

inductive Write (D : Type)
  | bind (args : BindArgs D)
  | recordResult (args : ResultArgs D)

inductive Row (D : Type)
  | binding (b : CommandBinding D)
  | result (r : CommandResult D)

variable (H : Hashing D)

def bindCandidate (a : BindArgs D) : Except Failure (CommandBinding D) := do
  let commandId ← requireText .coordinationCommandJournalError "command_id" a.commandId
  let effectId ← requireText .coordinationCommandJournalError "effect_id" a.effectId
  let command ← requireText .coordinationCommandJournalError "command" a.command
  let actorWorkstream ←
    requireText .coordinationCommandJournalError "actor_workstream" a.actorWorkstream
  let lifecyclePermitDigest ← requireDigest "lifecycle_permit_digest" a.lifecyclePermitDigest
  let invocationDigest ← requireDigest "invocation_digest" a.invocationDigest
  let requestDigest ← requireDigest "request_digest" a.requestDigest
  let binding : CommandBinding D :=
    { commandId, effectId, command, actorWorkstream, lifecyclePermitDigest, invocationDigest
      requestDigest, bindingDigest := requestDigest }
  return { binding with bindingDigest := bindingDigest H binding }

def checkEventSequence : Option Int → Except Failure (Option Nat)
  | none => .ok none
  | some n =>
    if n ≤ 0 then .error (commandError "event_sequence must be a positive integer or None")
    else if maxSafeInteger < n.natAbs then
      .error (canonicalizationError "Integers must fit the interoperable IEEE-754 safe range")
    else .ok (some n.toNat)

/-- The row that `record_result` inserts for a binding. -/
def resultCandidate (a : ResultArgs D) (binding : CommandBinding D) :
    Except Failure (CommandResult D) := do
  let resultDigest ← requireDigest "result_digest" a.resultDigest
  let resultClass ← requireText .coordinationCommandJournalError "result_class" a.resultClass
  if a.eventId = some "" then
    throw (commandError "event_id must be a non-empty exact string")
  let eventSequence ← checkEventSequence a.eventSequence
  let result : CommandResult D :=
    { commandId := binding.commandId, resultDigest, resultClass
      databaseWriteConfirmed := a.databaseWriteConfirmed, eventId := a.eventId, eventSequence
      resultRecordDigest := resultDigest }
  return { result with resultRecordDigest := resultRecordDigest H binding result }

def readGiven (given : SqlText) (j : CommandJournal D) : Except Failure (CommandBinding D) :=
  match given.stored with
  | some commandId => readBinding H commandId j
  | none => .error (keyError given.literal)

/-- The transaction of `record_result`: a stored row is compared with the id as it was given. -/
def recordGiven (given : SqlText) (r : CommandResult D) (j : CommandJournal D) :
    Except Failure (CommandResult D × CommandJournal D) :=
  if (j.results.get? r.commandId).isSome ∧ given ≠ .text r.commandId then
    .error (commandError "coordination command result replay diverged")
  else recordResult H r j

/-- `bind` and `record_result`. -/
def write : Write D → Prog Empty (CommandJournal D) Failure (Row D)
  | .bind a => do
    let _ ← readIntegrity H id
    let candidate ← Prog.ofExcept (bindCandidate H a)
    (Prog.txn (bind H candidate)).map .binding
  | .recordResult a => do
    let _ ← readIntegrity H id
    let binding ← .readM (readGiven H a.commandId)
    let candidate ← Prog.ofExcept (resultCandidate H a binding)
    (Prog.txn (recordGiven H a.commandId candidate)).map .result

/-- The calls of `CoordinationCommandJournal`. -/
def program : LedgerCall (Write D) →
    Prog Empty (CommandJournal D) Failure (LedgerReply (Row D) D) :=
  ledgerProgram (write H) (readIntegrity H id)

end CommandJournal

end VeraMono
