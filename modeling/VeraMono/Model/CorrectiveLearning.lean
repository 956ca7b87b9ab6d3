import VeraMono.Framework.Readers
import VeraMono.Model.ResourceLease

/-!
# Corrective learning

`corrective_learning.py`: the stages of a correction, one row a stage, each with the digest of the
one before. `advance` reads the correction in one transaction and appends in another, which does
not look at the stage again; the table has a key for the sequence and one for the stage of a
correction.
-/

namespace VeraMono

open Framework

inductive CorrectiveStage
  | flag | understand | calibrate | know | unlearn | prevent
  deriving DecidableEq, Repr

def CorrectiveStage.value : CorrectiveStage → String
  | .flag => "FLAG"
  | .understand => "UNDERSTAND"
  | .calibrate => "CALIBRATE"
  | .know => "KNOW"
  | .unlearn => "UNLEARN"
  | .prevent => "PREVENT"

def correctiveStageOrder : List CorrectiveStage :=
  [.flag, .understand, .calibrate, .know, .unlearn, .prevent]

/-- What the digest of an event is taken of: the id is the one that the call was given. -/
structure CorrectionPayload (D : Type) where
  correctionId : SqlText
  failureSignatureId : String
  sequence : Nat
  stage : CorrectiveStage
  summary : String
  evidenceRefs : List String
  guardrailRefs : List String
  verificationRefs : List String
  previousDigest : Option D

structure CorrectionEvent (D : Type) extends CorrectionPayload D where
  eventDigest : D

/-- The event as its row reads. -/
def CorrectionEvent.storedAs {D : Type} (e : CorrectionEvent D) (correctionId : String) : CorrectionEvent D :=
  { e with correctionId := .text correctionId }

structure CorrectionState (D : Type) where
  correctionId : SqlText
  failureSignatureId : String
  events : List (CorrectionEvent D)

/-- `correction_events`, with its two keys. -/
structure CorrectionTable (D : Type) where
  rows : List (CorrectionEvent D)
  primary : (rows.map fun e => (e.correctionId, e.sequence)).Nodup
  unique : (rows.map fun e => (e.correctionId, e.stage)).Nodup

namespace CorrectiveLearning

variable {D : Type}

def learningError (message : String) : Failure := ⟨.valueError, message⟩

def refs (values : List String) (field : String) : Except Failure Unit :=
  if values = [] ∨ "" ∈ values then
    .error (learningError s!"{field} must contain non-empty exact strings")
  else if ¬ values.Nodup then .error (learningError s!"{field} must not contain duplicates")
  else .ok ()

/-! ## The table -/

def empty : CorrectionTable D := ⟨[], List.nodup_nil, List.nodup_nil⟩

/-- The rows of a correction as they were written. -/
def rowsOf (t : CorrectionTable D) (correctionId : String) : List (CorrectionEvent D) :=
  t.rows.filter fun e => e.correctionId = .text correctionId

/-- `SELECT * FROM correction_events WHERE correction_id=? ORDER BY sequence`. -/
def select (t : CorrectionTable D) (correctionId : String) : List (CorrectionEvent D) :=
  (rowsOf t correctionId).insertionSort fun a b => a.sequence ≤ b.sequence

/-- A row may be added to a list when its key is not taken. -/
theorem nodup_concat {α κ : Type} {key : α → κ} {rows : List α} {r : α} (h : (rows.map key).Nodup)
    (hr : key r ∉ rows.map key) : ((rows ++ [r]).map key).Nodup := by
  rw [List.map_append, List.map_singleton, ← List.concat_eq_append]
  exact h.concat hr

/-- `INSERT`: a row whose keys are taken is refused. -/
def insert (e : CorrectionEvent D) (t : CorrectionTable D) : Except Failure (CorrectionTable D) :=
  if hp : (e.correctionId, e.sequence) ∈ t.rows.map fun e => (e.correctionId, e.sequence) then
    .error ⟨.integrityError,
      "UNIQUE constraint failed: correction_events.correction_id, correction_events.sequence"⟩
  else if hu : (e.correctionId, e.stage) ∈ t.rows.map fun e => (e.correctionId, e.stage) then
    .error ⟨.integrityError,
      "UNIQUE constraint failed: correction_events.correction_id, correction_events.stage"⟩
  else .ok ⟨t.rows ++ [e], nodup_concat t.primary hp, nodup_concat t.unique hu⟩

variable [DecidableEq D] (digest : CorrectionPayload D → D)

/-! ## Reading -/

/-- A round of the loop of `_decode_rows`. -/
def decodeRow (failureSignatureId : String) (sequence : Nat) (previousDigest : Option D)
    (row : CorrectionEvent D) : Except Failure (CorrectionEvent D) := do
  if sequence ≥ correctiveStageOrder.length then
    throw (learningError "correction ledger contains excess stages")
  if correctiveStageOrder[sequence]? ≠ some row.stage then
    throw (learningError "correction ledger stage order is invalid")
  if row.failureSignatureId ≠ failureSignatureId then
    throw (learningError "correction ledger failure binding changed")
  let payload : CorrectionPayload D :=
    { row.toCorrectionPayload with failureSignatureId, sequence, previousDigest }
  if row.sequence ≠ sequence then throw (learningError "correction ledger sequence is invalid")
  if row.previousDigest ≠ previousDigest then
    throw (learningError "correction ledger digest chain is invalid")
  if row.eventDigest ≠ digest payload then
    throw (learningError "correction ledger event digest is invalid")
  return { payload with eventDigest := row.eventDigest }

def decodeFrom (failureSignatureId : String) :
    Nat → Option D → List (CorrectionEvent D) → Except Failure (List (CorrectionEvent D))
  | _, _, [] => .ok []
  | sequence, previousDigest, row :: rows => do
    let event ← decodeRow digest failureSignatureId sequence previousDigest row
    let events ← decodeFrom failureSignatureId (sequence + 1) (some event.eventDigest) rows
    return event :: events

/-- `_decode_rows`, for a first row and those after it. -/
def decodeRows (first : CorrectionEvent D) (rows : List (CorrectionEvent D)) :
    Except Failure (CorrectionState D) := do
  let events ← decodeFrom digest first.failureSignatureId 0 none (first :: rows)
  return ⟨first.correctionId, first.failureSignatureId, events⟩

def state (correctionId : String) (t : CorrectionTable D) : Except Failure (CorrectionState D) :=
  match select t correctionId with
  | [] => .error ⟨.keyError, correctionId⟩
  | first :: rows => decodeRows digest first rows

/-- `state`, with the id that the rows were found under. -/
def stateOf (given : SqlText) (t : CorrectionTable D) : Except Failure (String × CorrectionState D) :=
  match given.stored with
  | some correctionId => (state digest correctionId t).map fun current => (correctionId, current)
  | none => .error ⟨.keyError, given.literal⟩

/-! ## Writing -/

/-- The id as it was given, and the text that it is stored as. -/
structure AppendArgs where
  given : SqlText
  correctionId : String
  failureSignatureId : String
  stage : CorrectiveStage
  summary : String
  evidenceRefs : List String
  guardrailRefs : List String
  verificationRefs : List String
  requireNew : Bool

/-- The checks of `_append` before its transaction. -/
def checkAppend (args : AppendArgs) : Except Failure Unit := do
  if ¬ nonblank args.summary then throw (learningError "summary must be non-empty")
  refs args.evidenceRefs "evidence_refs"

/-- The sequence and the predecessor of the next event. -/
def position (args : AppendArgs) : List (CorrectionEvent D) → Except Failure (Nat × Option D)
  | [] => .ok (0, none)
  | first :: rows => do
    let existing ← decodeRows digest first rows
    if existing.failureSignatureId ≠ args.failureSignatureId then
      throw (learningError "correction_id cannot rebind failure signature")
    return (existing.events.length, existing.events.getLast?.map CorrectionEvent.eventDigest)

def newEvent (args : AppendArgs) (sequence : Nat) (previousDigest : Option D) : CorrectionEvent D :=
  let payload : CorrectionPayload D :=
    { correctionId := args.given
      failureSignatureId := args.failureSignatureId
      sequence
      stage := args.stage
      summary := String.ofList (strip args.summary.toList)
      evidenceRefs := args.evidenceRefs
      guardrailRefs := args.guardrailRefs
      verificationRefs := args.verificationRefs
      previousDigest }
  { payload with eventDigest := digest payload }

/-- The transaction of `_append`. -/
def append (args : AppendArgs) (t : CorrectionTable D) :
    Except Failure (CorrectionEvent D × CorrectionTable D) := do
  let rows := select t args.correctionId
  if args.requireNew ∧ rows ≠ [] then throw (learningError "correction_id is already bound")
  if ¬ args.requireNew ∧ rows = [] then throw ⟨.keyError, args.correctionId⟩
  let (sequence, previousDigest) ← position digest args rows
  let event := newEvent digest args sequence previousDigest
  let t ← insert (event.storedAs args.correctionId) t
  return (event, t)

def checkStart (correctionId failureSignatureId : String) : Except Failure Unit := do
  if correctionId = "" then throw (learningError "correction_id must be a non-empty exact string")
  if failureSignatureId = "" then
    throw (learningError "failure_signature_id must be a non-empty exact string")

def checkAdvance (current : CorrectionState D) (stage : CorrectiveStage)
    (guardrailRefs verificationRefs : List String) : Except Failure Unit :=
  match correctiveStageOrder[current.events.length]? with
  | none => .error (learningError "corrective learning cycle is already complete")
  | some expected =>
    if stage ≠ expected then
      .error (learningError s!"corrective stage must advance exactly to {expected.value}")
    else if stage = .prevent then do
      refs guardrailRefs "guardrail_refs"
      refs verificationRefs "verification_refs"
    else if guardrailRefs ≠ [] ∨ verificationRefs ≠ [] then
      .error (learningError "guardrail_refs and verification_refs belong only to PREVENT")
    else .ok ()

/-! ## Calls beside others -/

inductive CorrectionCall
  | start (correctionId failureSignatureId summary : String) (evidenceRefs : List String)
  | advance (given : SqlText) (stage : CorrectiveStage) (summary : String)
      (evidenceRefs guardrailRefs verificationRefs : List String)

/-- `_append`. -/
def appendProgram (args : AppendArgs) : Prog Empty (CorrectionTable D) Failure (CorrectionEvent D) := do
  Prog.ofExcept (checkAppend args)
  Prog.txn (append digest args)

/-- The transactions of a call. -/
def program : CorrectionCall → Prog Empty (CorrectionTable D) Failure (CorrectionEvent D)
  | .start correctionId failureSignatureId summary evidenceRefs => do
    Prog.ofExcept (checkStart correctionId failureSignatureId)
    appendProgram digest
      ⟨.text correctionId, correctionId, failureSignatureId, .flag, summary, evidenceRefs, [], [], true⟩
  | .advance given stage summary evidenceRefs guardrailRefs verificationRefs => do
    let (correctionId, current) ← Prog.readM (stateOf digest given)
    Prog.ofExcept (checkAdvance current stage guardrailRefs verificationRefs)
    appendProgram digest ⟨given, correctionId, current.failureSignatureId, stage, summary, evidenceRefs,
      guardrailRefs, verificationRefs, false⟩

end CorrectiveLearning

end VeraMono
