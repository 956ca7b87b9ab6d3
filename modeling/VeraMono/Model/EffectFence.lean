import VeraMono.Framework.Table
import VeraMono.Model.Records

/-!
# The effect fence and the currentness store

`effect_fence.py`: a table of effects, each used once, and a table of currentness
snapshots, one for each subject. Each function is one SQLite transaction, given
the table it works on.
-/

namespace VeraMono

open Framework

variable {D : Type}

abbrev EffectFence (D : Type) := Table (EffectReceipt.effectId (D := D))

namespace EffectState

def value : EffectState → String
  | .reserved => "RESERVED"
  | .executing => "EXECUTING"
  | .committed => "COMMITTED"
  | .attemptedUnknown => "ATTEMPTED_UNKNOWN"
  | .reconciledCommitted => "RECONCILED_COMMITTED"
  | .reconciledNoEffect => "RECONCILED_NO_EFFECT"
  | .cancelledPreDispatch => "CANCELLED_PRE_DISPATCH"

/-- The states the barrier of `assert_clear` waits for. -/
def unresolved (s : EffectState) : Bool :=
  s = .reserved ∨ s = .executing ∨ s = .attemptedUnknown

/-- A dispatched effect whose outcome is not known. -/
def ambiguous (s : EffectState) : Bool := s = .executing ∨ s = .attemptedUnknown

end EffectState

def fenceError (message : String) : Failure := ⟨.effectFenceError, message⟩

def keyError (key : String) : Failure := ⟨.keyError, key⟩

namespace EffectFence

/-- The digests an effect is reserved under. -/
structure EvidenceCut (D : Type) where
  requestDigest : DigestText D
  mechanicalPermitDigest : DigestText D
  authorityEvidenceDigest : DigestText D
  currentnessEvidenceDigest : DigestText D

variable [DecidableEq D]

/-- The receipt that a reservation inserts, once its arguments are checked. -/
def reservation (effectId : String) (cut : EvidenceCut D) : Except Failure (EffectReceipt D) := do
  let effectId ← requireText .effectFenceError "effect_id" effectId
  let request ← requireDigest .effectFenceError "request_digest" cut.requestDigest
  let permit ← requireDigest .effectFenceError "mechanical_permit_digest" cut.mechanicalPermitDigest
  let authority ← requireDigest .effectFenceError "authority_evidence_digest"
    cut.authorityEvidenceDigest
  let currentness ← requireDigest .effectFenceError "currentness_evidence_digest"
    cut.currentnessEvidenceDigest
  return ⟨effectId, request, .reserved, permit, authority, currentness, none, none⟩

def reserve (effectId : String) (cut : EvidenceCut D) (t : EffectFence D) :
    Except Failure (EffectReceipt D × EffectFence D) :=
  match reservation effectId cut with
  | .error e => .error e
  | .ok new =>
    match t.get? effectId with
    | some receipt =>
      if receipt.requestDigest = new.requestDigest ∧
          receipt.mechanicalPermitDigest = new.mechanicalPermitDigest ∧
          receipt.authorityEvidenceDigest = new.authorityEvidenceDigest ∧
          receipt.currentnessEvidenceDigest = new.currentnessEvidenceDigest then .ok (receipt, t)
      else .error (fenceError "effect_id already binds a different request or evidence cut")
    | none => .ok (new, t.insert new)

/-- The second transaction of `claim_dispatch`, after its `reserve`. -/
def claim (requested : EffectReceipt D) (t : EffectFence D) :
    Except Failure (EffectReceipt D × EffectFence D) :=
  match t.get? requested.effectId with
  | none => .error ⟨.typeError, "'NoneType' object is not subscriptable"⟩
  | some receipt =>
    if receipt.state ≠ .reserved then
      .error (fenceError
        s!"effect is single-use and cannot be dispatched from {receipt.state.value}")
    else
      .ok ({ requested with state := .executing, resultDigest := none,
                            reconciliationEvidenceDigest := none },
        t.update { receipt with state := .executing })

def settle (effectId : String) (resultDigest : Option (DigestText D)) (completionKnown : Bool)
    (t : EffectFence D) : Except Failure (EffectReceipt D × EffectFence D) := do
  let effectId ← requireText .effectFenceError "effect_id" effectId
  let resultDigest ← resultDigest.mapM (requireDigest .effectFenceError "result_digest")
  match t.get? effectId with
  | none => .error (keyError effectId)
  | some receipt =>
    if receipt.state ≠ .executing then .error (fenceError "only EXECUTING effects may settle")
    else if completionKnown ∧ resultDigest = none then
      .error (fenceError "known completion requires result_digest")
    else
      let settled := { receipt with
        state := if completionKnown then .committed else .attemptedUnknown, resultDigest }
      .ok ({ settled with reconciliationEvidenceDigest := none }, t.update settled)

def cancelBeforeDispatch (effectId : String) (t : EffectFence D) :
    Except Failure (EffectReceipt D × EffectFence D) := do
  let effectId ← requireText .effectFenceError "effect_id" effectId
  match t.get? effectId with
  | none => .error (keyError effectId)
  | some receipt =>
    if receipt.state ≠ .reserved then
      .error (fenceError "operator cancellation is forbidden after dispatch claim")
    else
      .ok ({ receipt with state := .cancelledPreDispatch, resultDigest := none,
                          reconciliationEvidenceDigest := none },
        t.update { receipt with state := .cancelledPreDispatch })

/-- The target state and digest of a reconciliation, once its arguments are checked. -/
def reconciliation (effectOccurred : Bool) (resultDigest : Option (DigestText D)) :
    Except Failure (EffectState × Option D) :=
  match effectOccurred, resultDigest with
  | true, none => .error (fenceError "known occurred effect requires result_digest")
  | true, some d =>
    (requireDigest .effectFenceError "result_digest" d).map fun d => (.reconciledCommitted, some d)
  | false, none => .ok (.reconciledNoEffect, none)
  | false, some _ =>
    .error (fenceError "known no-effect reconciliation must not carry result_digest")

def reconcileUnknown (effectId : String) (effectOccurred : Bool)
    (resultDigest : Option (DigestText D)) (evidence : DigestText D) (t : EffectFence D) :
    Except Failure (EffectReceipt D × EffectFence D) := do
  let effectId ← requireText .effectFenceError "effect_id" effectId
  let evidence ← requireDigest .effectFenceError "reconciliation_evidence_digest" evidence
  let target ← reconciliation effectOccurred resultDigest
  match t.get? effectId with
  | none => .error (keyError effectId)
  | some receipt =>
    if ¬ receipt.state.ambiguous then
      .error (fenceError "only ambiguous dispatched effects may be reconciled")
    else
      let reconciled := { receipt with
        state := target.1, resultDigest := target.2, reconciliationEvidenceDigest := some evidence }
      .ok (reconciled, t.update reconciled)

/-- `all`, in order of effect id. -/
def all (t : EffectFence D) : List (EffectReceipt D) :=
  t.rows.insertionSort fun a b => a.effectId ≤ b.effectId

def unresolved (t : EffectFence D) : List (EffectReceipt D) :=
  (all t).filter fun receipt => receipt.state.unresolved

def assertClear (t : EffectFence D) : Except Failure Unit :=
  match unresolved t with
  | [] => .ok ()
  | rs =>
    let summary := ", ".intercalate (rs.map fun r => s!"{r.effectId}:{r.state.value}")
    .error (fenceError ("unresolved external effect barrier is active: " ++ summary))

def read (effectId : String) (t : EffectFence D) : Except Failure (EffectReceipt D) :=
  match t.get? effectId with
  | none => .error (keyError effectId)
  | some receipt => .ok receipt

end EffectFence

/-! ## `AtomicCurrentnessStore` -/

abbrev CurrentnessStore (D : Type) := Table (CurrentnessRow.subjectId (D := D))

structure CurrentnessSnapshot (D : Type) where
  subjectId : String
  generation : Nat
  snapshotDigest : D
  payloadDigest : D
  deriving DecidableEq

namespace CurrentnessStore

variable [DecidableEq D] (H : Hashing D)

def nextRow (subjectId : String) (payload : CandidateValues D) (t : CurrentnessStore D) :
    CurrentnessRow D :=
  let generation := match t.get? subjectId with
    | none => 0
    | some row => row.generation + 1
  let payloadDigest := H.sha256 (.currentnessPayload payload)
  ⟨subjectId, generation, H.sha256 (.currentnessSnapshot subjectId generation payloadDigest),
    payloadDigest, payload⟩

def CurrentnessRow.snapshot (row : CurrentnessRow D) : CurrentnessSnapshot D :=
  ⟨row.subjectId, row.generation, row.snapshotDigest, row.payloadDigest⟩

def publish (subjectId : String) (payload : CandidateValues D) (expectedGeneration : Option Int)
    (t : CurrentnessStore D) : Except Failure (CurrentnessSnapshot D × CurrentnessStore D) :=
  if subjectId = "" then .error ⟨.valueError, "subject_id must be a non-empty exact string"⟩
  else if (t.get? subjectId).map (fun row => (row.generation : Int)) ≠ expectedGeneration then
    .error (fenceError "stale currentness generation")
  else
    let row := nextRow H subjectId payload t
    .ok (CurrentnessRow.snapshot row, t.upsert row)

def read (subjectId : String) (t : CurrentnessStore D) : Except Failure (CurrentnessSnapshot D) :=
  match t.get? subjectId with
  | none => .error (keyError subjectId)
  | some row =>
    if H.sha256 (.currentnessSnapshot row.subjectId row.generation row.payloadDigest) ≠
        row.snapshotDigest then .error (fenceError "currentness snapshot digest mismatch")
    else .ok (CurrentnessRow.snapshot row)

def readPayload (subjectId : String) (t : CurrentnessStore D) :
    Except Failure (CandidateValues D) :=
  match t.get? subjectId with
  | none => .error (keyError subjectId)
  | some row =>
    if H.sha256 (.currentnessPayload row.payload) ≠ row.payloadDigest then
      .error (fenceError "currentness payload digest mismatch")
    else .ok row.payload

end CurrentnessStore

end VeraMono
