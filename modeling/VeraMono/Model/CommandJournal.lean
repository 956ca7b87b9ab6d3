import VeraMono.Model.EffectFence
import VeraMono.Model.Ledgers

/-!
# The coordination command journal

`coordination_command_journal.py`: the binding of each command id to its request
and permit digests, the result recorded for it, and a row of metadata with the
digest of everything in the two tables.
-/

namespace VeraMono

open Framework

variable {D : Type}

structure CommandJournal (D : Type) where
  bindings : Table (CommandBinding.commandId (D := D))
  results : Table (CommandResult.commandId (D := D))
  bindingCount : Nat
  resultCount : Nat
  projectionDigest : D

def commandError (message : String) : Failure := ⟨.coordinationCommandJournalError, message⟩

namespace CommandJournal

variable [DecidableEq D] (H : Hashing D)

def bindingDigest (b : CommandBinding D) : D :=
  H.sha256 (.commandBinding b.commandId b.effectId b.command b.actorWorkstream
    b.lifecyclePermitDigest b.invocationDigest b.requestDigest)

def resultRecordDigest (b : CommandBinding D) (r : CommandResult D) : D :=
  H.sha256 (.commandResult b.bindingDigest r.resultDigest r.resultClass r.databaseWriteConfirmed
    r.eventId r.eventSequence)

def sortBindings (rows : List (CommandBinding D)) : List (CommandBinding D) :=
  rows.insertionSort fun a b => a.commandId ≤ b.commandId

def sortResults (rows : List (CommandResult D)) : List (CommandResult D) :=
  rows.insertionSort fun a b => a.commandId ≤ b.commandId

def checkBindings : List (CommandBinding D) → Except Failure Unit
  | [] => .ok ()
  | b :: bs =>
    if bindingDigest H b ≠ b.bindingDigest then
      .error (commandError "coordination command binding digest mismatch")
    else checkBindings bs

def checkResults (bindings : List (CommandBinding D)) : List (CommandResult D) → Except Failure Unit
  | [] => .ok ()
  | r :: rs =>
    match bindings.find? fun b => b.commandId = r.commandId with
    | none => .error (commandError "coordination result has no command binding")
    | some b =>
      if resultRecordDigest H b r ≠ r.resultRecordDigest then
        .error (commandError "coordination command result digest mismatch")
      else checkResults bindings rs

/-- `_projection_state`, on the rows it read. -/
def projectionState (bindings : List (CommandBinding D)) (results : List (CommandResult D)) :
    Except Failure (Nat × Nat × D) := do
  checkBindings H (sortBindings bindings)
  checkResults H bindings (sortResults results)
  return (bindings.length, results.length,
    H.sha256 (.commandProjection (sortBindings bindings) (sortResults results)))

def writeMeta (j : CommandJournal D) : Except Failure (CommandJournal D) := do
  let (bindingCount, resultCount, projectionDigest) ←
    projectionState H j.bindings.rows j.results.rows
  return { j with bindingCount, resultCount, projectionDigest }

/-- The comparison at the end of `verify_integrity`. -/
def compareMeta (observed : Nat × Nat × D) (projection : Nat × Nat × D) : Except Failure D :=
  if observed.1 ≠ projection.1 then
    .error (commandError "coordination command binding count mismatch")
  else if observed.2.1 ≠ projection.2.1 then
    .error (commandError "coordination command result count mismatch")
  else if observed.2.2 ≠ projection.2.2 then
    .error (commandError "coordination command projection digest mismatch")
  else .ok projection.2.2

def bind (candidate : CommandBinding D) (j : CommandJournal D) :
    Except Failure (CommandBinding D × CommandJournal D) :=
  match j.bindings.get? candidate.commandId with
  | some observed =>
    if observed ≠ candidate then
      .error (commandError "coordination command id already binds different invocation")
    else .ok (observed, j)
  | none =>
    if ∃ b ∈ j.bindings.rows, b.effectId = candidate.effectId ∨
        b.bindingDigest = candidate.bindingDigest then
      .error (commandError "coordination command binding uniqueness conflict")
    else
      (writeMeta H { j with bindings := j.bindings.insert candidate }).map fun j => (candidate, j)

/-- The transaction of `record_result`. -/
def recordResult (candidate : CommandResult D) (j : CommandJournal D) :
    Except Failure (CommandResult D × CommandJournal D) :=
  match j.results.get? candidate.commandId with
  | some observed =>
    if observed ≠ candidate then
      .error (commandError "coordination command result replay diverged")
    else .ok (observed, j)
  | none =>
    if ∃ r ∈ j.results.rows, r.resultRecordDigest = candidate.resultRecordDigest then
      .error (integrityError "command_results.result_record_digest")
    else
      (writeMeta H { j with results := j.results.insert candidate }).map fun j => (candidate, j)

def readBinding (commandId : String) (j : CommandJournal D) : Except Failure (CommandBinding D) :=
  match j.bindings.get? commandId with
  | none => .error (keyError commandId)
  | some b =>
    if bindingDigest H b ≠ b.bindingDigest then
      .error (commandError "coordination command binding digest mismatch")
    else .ok b

/-- The second query of `read_result`. -/
def readResultRow (b : CommandBinding D) (j : CommandJournal D) :
    Except Failure (Option (CommandResult D)) :=
  match j.results.get? b.commandId with
  | none => .ok none
  | some r =>
    if resultRecordDigest H b r ≠ r.resultRecordDigest then
      .error (commandError "coordination command result digest mismatch")
    else .ok (some r)

end CommandJournal

end VeraMono
