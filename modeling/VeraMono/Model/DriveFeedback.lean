import Mathlib.Data.List.MinMax
import Mathlib.Data.Rat.Lemmas
import VeraMono.Framework.Transactions
import VeraMono.Framework.Table
import VeraMono.Model.Canonical

/-!
# Drive feedback

`DriveFeedbackStore` of `drive_feedback.py`, with levels that are exact: the checks of what
callers hand over, the four tables with their constraints, and the calls. A call touches the
tables in one transaction only, which commits or leaves them as they were.
-/

namespace VeraMono

open Framework

namespace DriveFeedback

def driveError (message : String) : Failure := ⟨.driveFeedbackError, message⟩

/-! ## Checks -/

def isAlphanumeric (c : Char) : Bool :=
  ('A' ≤ c && c ≤ 'Z') || ('a' ≤ c && c ≤ 'z') || ('0' ≤ c && c ≤ '9')

/-- `IDENTIFIER`. -/
def isIdentifier (s : String) : Bool :=
  match s.toList with
  | [] => false
  | c :: cs =>
    isAlphanumeric c && cs.length ≤ 127 &&
      cs.all fun c => isAlphanumeric c || c = '_' || c = '.' || c = ':' || c = '/' || c = '-'

/-- `_id`. -/
def identifier (label : String) : PyValue → Except Failure String
  | .str (.valid s) =>
    if isIdentifier s then .ok s else .error (driveError s!"{label} must be a bounded opaque identifier")
  | _ => .error (driveError s!"{label} must be a bounded opaque identifier")

def revision (label : String) : PyValue → Except Failure Nat
  | .int i =>
    if 0 ≤ i ∧ i < 2 ^ 63 - 1 then .ok i.toNat
    else .error (driveError s!"{label} must be a bounded nonnegative integer")
  | _ => .error (driveError s!"{label} must be a bounded nonnegative integer")

def level (label : String) : PyValue → Except Failure Rat
  | .int i =>
    if 0 ≤ i ∧ i ≤ 1 then .ok i else .error (driveError s!"{label} must be finite normalized level [0,1]")
  | .float (some r) =>
    if 0 ≤ r ∧ r ≤ 1 then .ok r else .error (driveError s!"{label} must be finite normalized level [0,1]")
  | _ => .error (driveError s!"{label} must be finite normalized level [0,1]")

/-- `DIGEST`. -/
def isDigest (s : String) : Bool :=
  s.toList.length = 64 && s.toList.all fun c => ('0' ≤ c && c ≤ '9') || ('a' ≤ c && c ≤ 'f')

def digest (label : String) : PyValue → Except Failure String
  | .str (.valid s) =>
    if isDigest s then .ok s else .error (driveError s!"{label} must be lowercase SHA-256 hex")
  | _ => .error (driveError s!"{label} must be lowercase SHA-256 hex")

def timestamp (label : String) : PyValue → Except Failure Nat
  | .int i =>
    if 0 < i ∧ i < 2 ^ 63 then .ok i.toNat
    else .error (driveError s!"{label} must be bounded positive milliseconds")
  | _ => .error (driveError s!"{label} must be bounded positive milliseconds")

def checkUnit : PyValue → Except Failure String
  | .str (.valid s) =>
    if s = "normalized" then .ok s else .error (driveError "only normalized absolute need levels supported")
  | _ => .error (driveError "only normalized absolute need levels supported")

/-! ## Observations and witnesses -/

inductive EffectStatus
  | effect | noEffect | failed
  deriving DecidableEq

/-- A `DriveObservation` as it was made. -/
structure RawObservation where
  eventId : PyValue
  attemptId : PyValue
  physicalEffectId : PyValue
  observerId : PyValue
  sourceSequence : PyValue
  observedAtMs : PyValue
  needId : PyValue
  expectedNeedRevision : PyValue
  absolutePostLevel : PyValue
  unit : PyValue
  goalId : PyValue
  choiceId : PyValue
  expectedGoalRevision : PyValue
  effectStatus : PyValue
  requestGoalCredit : PyValue
  evidenceDigest : PyValue

/-- The goal that an observation names, with its choice and its revision. -/
structure GoalBinding where
  goalId : String
  choiceId : String
  revision : Nat

structure DriveObservation where
  eventId : String
  attemptId : String
  physicalEffectId : String
  observerId : String
  sourceSequence : Nat
  observedAtMs : Nat
  needId : String
  expectedNeedRevision : Nat
  absolutePostLevel : Rat
  unit : String
  goal : Option GoalBinding
  effectStatus : EffectStatus
  requestGoalCredit : Bool
  evidenceDigest : String

/-- A `DriveWitness` as a verifier made it. -/
structure RawWitness where
  claimSha256 : PyValue
  observerId : PyValue
  attestationId : PyValue
  verifiedAtMs : PyValue

structure DriveWitness where
  claimSha256 : String
  observerId : String
  attestationId : String
  verifiedAtMs : Nat

structure DriveRuntime where
  /-- `_claim_sha256`. -/
  claimSha256 : RawObservation → String
  maxAgeMs : Nat
  futureSkewMs : Nat

/-- An identifier or `None`. -/
def optionalId (label : String) : PyValue → Except Failure (Option String)
  | .none => .ok none
  | value => (identifier label value).map some

def goalBinding (goalId choiceId : Option String) (expected : PyValue) : Except Failure (Option GoalBinding) :=
  match goalId, choiceId with
  | some goalId, some choiceId =>
    (revision "expected_goal_revision" expected).map fun r => some ⟨goalId, choiceId, r⟩
  | none, none =>
    match expected with
    | .none => .ok none
    | _ => .error (driveError "goal revision requires exact goal identity")
  | _, _ => .error (driveError "goal and choice must be bound together")

def effectStatus : PyValue → Except Failure EffectStatus
  | .str (.valid s) =>
    if s = "EFFECT" then .ok .effect
    else if s = "NO_EFFECT" then .ok .noEffect
    else if s = "FAILED" then .ok .failed
    else .error (driveError "unsupported effect_status")
  | _ => .error (driveError "unsupported effect_status")

def creditRequest : PyValue → Except Failure Bool
  | .bool b => .ok b
  | _ => .error (driveError "request_goal_credit must be boolean")

/-- `_validate`: the checked observation and its digest. -/
def validate (R : DriveRuntime) : Option RawObservation → Except Failure (DriveObservation × String)
  | none => .error (driveError "requires exact DriveObservation")
  | some raw => do
    let eventId ← identifier "event_id" raw.eventId
    let attemptId ← identifier "attempt_id" raw.attemptId
    let physicalEffectId ← identifier "physical_effect_id" raw.physicalEffectId
    let observerId ← identifier "observer_id" raw.observerId
    let needId ← identifier "need_id" raw.needId
    let goalId ← optionalId "goal_id" raw.goalId
    let choiceId ← optionalId "choice_id" raw.choiceId
    if goalId.isNone ≠ choiceId.isNone then throw (driveError "goal and choice must be bound together")
    let expectedNeedRevision ← revision "expected_need_revision" raw.expectedNeedRevision
    let goal ← goalBinding goalId choiceId raw.expectedGoalRevision
    let sourceSequence ← revision "source_sequence" raw.sourceSequence
    if sourceSequence = 0 then throw (driveError "source_sequence must be positive")
    let observedAtMs ← timestamp "observed_at_ms" raw.observedAtMs
    let absolutePostLevel ← level "absolute_post_level" raw.absolutePostLevel
    let unit ← checkUnit raw.unit
    let effectStatus ← effectStatus raw.effectStatus
    let requestGoalCredit ← creditRequest raw.requestGoalCredit
    let evidenceDigest ← digest "evidence_digest" raw.evidenceDigest
    let o : DriveObservation :=
      { eventId, attemptId, physicalEffectId, observerId, sourceSequence, observedAtMs, needId,
        expectedNeedRevision, absolutePostLevel, unit, goal, effectStatus, requestGoalCredit, evidenceDigest }
    return (o, R.claimSha256 raw)

def checkWitness (raw : RawWitness) : Except Failure DriveWitness := do
  let observerId ← identifier "witness.observer_id" raw.observerId
  let attestationId ← identifier "witness.attestation_id" raw.attestationId
  let claimSha256 ← digest "witness.claim_sha256" raw.claimSha256
  let verifiedAtMs ← timestamp "witness.verified_at_ms" raw.verifiedAtMs
  return { claimSha256, observerId, attestationId, verifiedAtMs }

/-! ## The store -/

/-- A row of `need_projection`. -/
structure NeedProjection where
  needId : String
  revision : Nat
  level : Rat
  unit : String

inductive GoalStatus
  | active | replaced | vetoed | satisfied
  deriving DecidableEq

/-- A row of `goal_projection`. -/
structure GoalProjection where
  goalId : String
  needId : String
  choiceId : String
  revision : Nat
  targetLevel : Rat
  status : GoalStatus
  creditedEventId : Option String

/-- A row of `outcome_receipt`. -/
structure OutcomeReceipt where
  eventId : String
  attemptId : String
  physicalEffectId : String
  evidenceDigest : String
  observerId : String
  sourceSequence : Nat
  observedAtMs : Nat
  claimSha256 : String
  witnessId : String
  needId : String
  needRevision : Nat
  goalCredit : Bool
  goalCreditReason : String

/-- What a row of `drive_outbox` says. -/
structure DriveOutboxItem where
  eventId : String
  claimSha256 : String
  needId : String
  needRevision : Nat
  goalCredit : Bool
  goalCreditReason : String

/-- A row of `drive_outbox`. -/
structure DriveOutboxRow where
  item : DriveOutboxItem
  delivered : Bool

def DriveOutboxRow.eventId (r : DriveOutboxRow) : String := r.item.eventId

structure DriveState where
  needs : Table NeedProjection.needId
  goals : Table GoalProjection.goalId
  receipts : Table OutcomeReceipt.eventId
  outbox : Table DriveOutboxRow.eventId

def DriveState.empty : DriveState := ⟨.empty, .empty, .empty, .empty⟩

inductive AdmissionStatus
  | hold | replayNoop | admitted
  deriving DecidableEq

structure DriveAdmission where
  eventId : String
  status : AdmissionStatus
  claimSha256 : String
  needRevision : Option Nat
  goalCredit : Bool
  goalCreditReason : String
  replayed : Bool

/-- How a call leaves its transaction without a commit. -/
inductive Exit
  | raised (failure : Failure)
  | held (admission : DriveAdmission)

def Exit.check {α : Type} (r : Except Failure α) : Except Exit α := r.mapError .raised

def orRaise {α : Type} (failure : Failure) : Option α → Except Exit α
  | some a => .ok a
  | none => .error (.raised failure)

/-! ## Writes -/

namespace DriveState

/-- A second active goal of a need. -/
def hasActive (s : DriveState) (needId : String) : Bool :=
  s.goals.rows.any fun g => g.needId = needId ∧ g.status = .active

/-- A new goal, which the keys and the index allow. -/
def insertGoal (s : DriveState) (g : GoalProjection) : Option DriveState :=
  if (s.goals.get? g.goalId).isSome ∨ (s.needs.get? g.needId).isNone ∨ s.hasActive g.needId then none
  else some { s with goals := s.goals.insert g }

/-- Whether two receipts break a key or an index. -/
def sameReceipt (r r' : OutcomeReceipt) : Bool :=
  r.eventId = r'.eventId || r.attemptId = r'.attemptId || r.physicalEffectId = r'.physicalEffectId ||
    r.evidenceDigest = r'.evidenceDigest || r.witnessId = r'.witnessId ||
    (r.observerId = r'.observerId && r.sourceSequence = r'.sourceSequence)

def insertReceipt (s : DriveState) (r : OutcomeReceipt) : Option DriveState :=
  if s.receipts.rows.any (sameReceipt r) then none else some { s with receipts := s.receipts.insert r }

def insertOutbox (s : DriveState) (item : DriveOutboxItem) : Option DriveState :=
  if (s.outbox.get? item.eventId).isSome ∨ (s.receipts.get? item.eventId).isNone then none
  else some { s with outbox := s.outbox.insert ⟨item, false⟩ }

/-- The update of a need at a revision; nothing where the revision is another. -/
def moveNeed (s : DriveState) (needId : String) (revision : Nat) (level : Rat) : Option DriveState :=
  match s.needs.get? needId with
  | none => none
  | some n =>
    if n.revision = revision then some { s with needs := s.needs.update { n with revision := n.revision + 1, level } }
    else none

/-- The goal of a binding, while it is active. -/
def boundGoal (s : DriveState) (b : GoalBinding) : Option GoalProjection :=
  (s.goals.get? b.goalId).filter fun g => g.choiceId = b.choiceId ∧ g.revision = b.revision ∧ g.status = .active

/-- The row that an event was credited to, other than a goal's. -/
def creditedElsewhere (s : DriveState) (goalId eventId : String) : Bool :=
  s.goals.rows.any fun g => g.goalId ≠ goalId ∧ g.creditedEventId = some eventId

def satisfyGoal (s : DriveState) (b : GoalBinding) (eventId : String) : Except Exit DriveState := do
  let g ← orRaise (driveError "goal projection CAS failed") (s.boundGoal b)
  if s.creditedElsewhere g.goalId eventId then
    throw (.raised (driveError "duplicate effect/attempt/evidence/observer identity"))
  return { s with
    goals := s.goals.update
      { g with status := .satisfied, revision := g.revision + 1, creditedEventId := some eventId } }

end DriveState

/-! ## Goals and needs -/

def registerNeed (needId initialLevel measure : PyValue) (s : DriveState) : Except Exit DriveState := do
  let needId ← Exit.check (identifier "need_id" needId)
  let normalized ← Exit.check (level "level" initialLevel)
  let measure ← Exit.check (checkUnit measure)
  match s.needs.get? needId with
  | none => return { s with needs := s.needs.insert ⟨needId, 0, normalized, measure⟩ }
  | some old =>
    if old.revision ≠ 0 ∨ old.level ≠ normalized ∨ old.unit ≠ measure then
      throw (.raised (driveError "need initialization conflicts with durable state"))
    return s

def registerGoal (goalId needId choiceId targetLevel : PyValue) (s : DriveState) : Except Exit DriveState := do
  let goalId ← Exit.check (identifier "goal_id" goalId)
  let needId ← Exit.check (identifier "need_id" needId)
  let choiceId ← Exit.check (identifier "choice_id" choiceId)
  let target ← Exit.check (level "target_level" targetLevel)
  orRaise (driveError "duplicate active goal or unknown need")
    (s.insertGoal ⟨goalId, needId, choiceId, 0, target, .active, none⟩)

def replaceGoal (oldGoalId newGoalId newChoiceId targetLevel : PyValue) (s : DriveState) :
    Except Exit DriveState := do
  let oldGoalId ← Exit.check (identifier "old_goal_id" oldGoalId)
  let newGoalId ← Exit.check (identifier "new_goal_id" newGoalId)
  let newChoiceId ← Exit.check (identifier "new_choice_id" newChoiceId)
  let target ← Exit.check (level "target_level" targetLevel)
  if oldGoalId = newGoalId then throw (.raised (driveError "goal replacement requires a new exact identity"))
  match (s.goals.get? oldGoalId).filter fun g => g.status = .active with
  | none => throw (.raised (driveError "only an active current goal can be replaced"))
  | some old =>
    let retired := s.goals.update { old with status := .replaced, revision := old.revision + 1 }
    orRaise ⟨.integrityError, "UNIQUE constraint failed"⟩
      ({ s with goals := retired }.insertGoal ⟨newGoalId, old.needId, newChoiceId, 0, target, .active, none⟩)

def vetoGoal (goalId : PyValue) (s : DriveState) : Except Exit DriveState := do
  let goalId ← Exit.check (identifier "goal_id" goalId)
  match (s.goals.get? goalId).filter fun g => g.status = .active with
  | none => throw (.raised (driveError "goal missing or no longer active"))
  | some g => return { s with goals := s.goals.update { g with status := .vetoed, revision := g.revision + 1 } }

/-- `ack_outbox`, and whether the row was not delivered before. -/
def ackOutbox (eventId : PyValue) (s : DriveState) : Except Exit (Bool × DriveState) := do
  let eventId ← Exit.check (identifier "event_id" eventId)
  match s.outbox.get? eventId with
  | none => throw (.raised ⟨.keyError, eventId⟩)
  | some r =>
    if r.delivered then return (false, s)
    else return (true, { s with outbox := s.outbox.update { r with delivered := true } })

/-! ## Admission -/

inductive FaultPoint
  | afterReceipt | afterNeed | afterGoal | afterOutbox

inductive VerifierAnswer
  | raised
  /-- A witness, or an object of another type. -/
  | answered (witness : Option RawWitness)

structure AdmitEnv where
  verifier : Option VerifierAnswer
  /-- The verifier calls back on its own thread. -/
  inside : Bool
  /-- The readings of the clock; nothing where it raises. -/
  clock : Option PyValue
  lockedClock : Option PyValue
  commitClock : Option PyValue
  fault : FaultPoint → Option Failure

def AdmitEnv.pass (env : AdmitEnv) (point : FaultPoint) : Except Exit Unit :=
  match env.fault point with
  | some failure => .error (.raised failure)
  | none => .ok ()

def readClock (reading : Option PyValue) : Option Nat :=
  reading.bind fun value => (timestamp "now_ms" value).toOption

variable (R : DriveRuntime)

/-- The observation is neither too old nor too far ahead. -/
def fresh (o : DriveObservation) (now : Nat) : Prop :=
  now ≤ o.observedAtMs + R.maxAgeMs ∧ o.observedAtMs ≤ now + R.futureSkewMs

instance (o : DriveObservation) (now : Nat) : Decidable (fresh R o now) := inferInstanceAs (Decidable (_ ∧ _))

/-- The witness speaks for the observation. -/
def bound (o : DriveObservation) (digest : String) (w : DriveWitness) (now : Nat) : Prop :=
  w.claimSha256 = digest ∧ w.observerId = o.observerId ∧ o.observedAtMs ≤ w.verifiedAtMs ∧
    w.verifiedAtMs ≤ now + R.futureSkewMs

instance (o : DriveObservation) (digest : String) (w : DriveWitness) (now : Nat) :
    Decidable (bound R o digest w now) := inferInstanceAs (Decidable (_ ∧ _))

def held (o : DriveObservation) (digest reason : String) : Exit :=
  .held ⟨o.eventId, .hold, digest, none, false, reason, false⟩

/-- What `admit` does before its transaction: the witness of the observation. -/
def witnessed (o : DriveObservation) (digest : String) (env : AdmitEnv) : Except Exit DriveWitness :=
  match env.verifier with
  | none => .error (held o digest "VERIFIER_UNAVAILABLE")
  | some answer =>
    if env.inside then .error (held o digest "VERIFIER_REENTRANCY")
    else match readClock env.clock with
    | none => .error (held o digest "CLOCK_UNAVAILABLE")
    | some now =>
      if ¬ fresh R o now then .error (held o digest "OBSERVATION_NOT_FRESH")
      else match answer with
      | .raised => .error (held o digest "VERIFIER_ERROR")
      | .answered none => .error (held o digest "WITNESS_UNAVAILABLE")
      | .answered (some raw) =>
        match checkWitness raw with
        | .error _ => .error (held o digest "INVALID_WITNESS")
        | .ok w =>
          if bound R o digest w now then .ok w else .error (held o digest "WITNESS_BINDING_MISMATCH")

def admissionTimeFailure (o : DriveObservation) (w : DriveWitness) (reading : Option PyValue) : Option String :=
  match readClock reading with
  | none => some "CLOCK_UNAVAILABLE"
  | some now =>
    if ¬ fresh R o now then some "OBSERVATION_NOT_FRESH"
    else if w.verifiedAtMs > now + R.futureSkewMs then some "WITNESS_BINDING_MISMATCH"
    else none

/-- The time is good, or the call holds. -/
def checkTime (o : DriveObservation) (digest : String) (w : DriveWitness) (reading : Option PyValue) :
    Except Exit Unit :=
  match admissionTimeFailure R o w reading with
  | some reason => .error (held o digest reason)
  | none => .ok ()

/-- The last receipt of an observer by its sequence. -/
def lastSource (s : DriveState) (observerId : String) : Option OutcomeReceipt :=
  (s.receipts.rows.filter fun r => r.observerId = observerId).argmax OutcomeReceipt.sourceSequence

/-- Behind what the observer sent before. -/
def outOfOrder (s : DriveState) (o : DriveObservation) : Bool :=
  (lastSource s o.observerId).any fun last =>
    o.sourceSequence ≤ last.sourceSequence ∨ o.observedAtMs < last.observedAtMs

def goalCredit (s : DriveState) (o : DriveObservation) (previous : Rat) : Except Exit (Bool × String) :=
  if ¬ o.requestGoalCredit then .ok (false, "NOT_REQUESTED")
  else match o.goal with
  | none => .ok (false, "GOAL_NOT_BOUND")
  | some b =>
    match s.goals.get? b.goalId with
    | none => .ok (false, "GOAL_NOT_CURRENT")
    | some g =>
      if g.needId ≠ o.needId then .error (.raised (driveError "goal and need identity mismatch"))
      else if g.status ≠ .active then .ok (false, "GOAL_NOT_ACTIVE")
      else if g.choiceId ≠ b.choiceId ∨ g.revision ≠ b.revision then .ok (false, "STALE_GOAL_BINDING")
      else if o.effectStatus ≠ .effect then .ok (false, "NO_VERIFIED_EFFECT")
      else if o.absolutePostLevel ≤ previous then .ok (false, "NO_NEED_IMPROVEMENT")
      else if o.absolutePostLevel < g.targetLevel then .ok (false, "TARGET_UNMET")
      else .ok (true, "EXACT_GOAL_SATISFIED")

def receiptOf (o : DriveObservation) (digest : String) (w : DriveWitness) (needRevision : Nat) (credit : Bool)
    (reason : String) : OutcomeReceipt where
  eventId := o.eventId
  attemptId := o.attemptId
  physicalEffectId := o.physicalEffectId
  evidenceDigest := o.evidenceDigest
  observerId := o.observerId
  sourceSequence := o.sourceSequence
  observedAtMs := o.observedAtMs
  claimSha256 := digest
  witnessId := w.attestationId
  needId := o.needId
  needRevision := needRevision
  goalCredit := credit
  goalCreditReason := reason

/-- What the outbox says of a receipt. -/
def OutcomeReceipt.item (r : OutcomeReceipt) : DriveOutboxItem :=
  ⟨r.eventId, r.claimSha256, r.needId, r.needRevision, r.goalCredit, r.goalCreditReason⟩

def duplicateIdentity : Failure := driveError "duplicate effect/attempt/evidence/observer identity"

def creditGoal (s : DriveState) (o : DriveObservation) (credit : Bool) : Except Exit DriveState :=
  if credit then
    match o.goal with
    | some b => s.satisfyGoal b o.eventId
    | none => .error (.raised (driveError "goal projection CAS failed"))
  else .ok s

/-- The writes of a receipt. -/
def record (o : DriveObservation) (receipt : OutcomeReceipt) (env : AdmitEnv) (s : DriveState) :
    Except Exit DriveState := do
  let s ← orRaise duplicateIdentity (s.insertReceipt receipt)
  env.pass .afterReceipt
  let s ← orRaise (driveError "need projection CAS failed")
    (s.moveNeed o.needId o.expectedNeedRevision o.absolutePostLevel)
  env.pass .afterNeed
  let s ← creditGoal s o receipt.goalCredit
  env.pass .afterGoal
  let s ← orRaise duplicateIdentity (s.insertOutbox receipt.item)
  env.pass .afterOutbox
  return s

def checkNeed (s : DriveState) (o : DriveObservation) (need : NeedProjection) : Except Exit Unit := do
  if need.revision ≠ o.expectedNeedRevision then throw (.raised (driveError "stale need revision"))
  if need.unit ≠ o.unit then throw (.raised (driveError "need measurement unit mismatch"))
  if o.effectStatus ≠ .effect ∧ need.level < o.absolutePostLevel then
    throw (.raised (driveError "failed/no-op effect cannot claim need improvement"))
  if outOfOrder s o then throw (.raised (driveError "replayed or out-of-order observer clock"))

def admitLocked (o : DriveObservation) (digest : String) (w : DriveWitness) (env : AdmitEnv) (s : DriveState) :
    Except Exit (DriveAdmission × DriveState) := do
  checkTime R o digest w env.lockedClock
  match s.receipts.get? o.eventId with
  | some old =>
    if old.claimSha256 ≠ digest then
      throw (.raised (driveError "same event ID with different observation"))
    return (⟨o.eventId, .replayNoop, digest, some old.needRevision, false, "REPLAY_NO_NEW_GOAL_CREDIT", true⟩, s)
  | none =>
    let need ← orRaise (driveError "unknown need projection") (s.needs.get? o.needId)
    checkNeed s o need
    let (credit, reason) ← goalCredit s o need.level
    let receipt := receiptOf o digest w (need.revision + 1) credit reason
    let s ← record o receipt env s
    checkTime R o digest w env.commitClock
    return (⟨o.eventId, .admitted, digest, some (need.revision + 1), credit, reason, false⟩, s)

/-! ## Calls -/

inductive DriveCall
  | registerNeed (needId level measure : PyValue)
  | registerGoal (goalId needId choiceId targetLevel : PyValue)
  | replaceGoal (oldGoalId newGoalId newChoiceId targetLevel : PyValue)
  | vetoGoal (goalId : PyValue)
  | admitObservation (observation : Option RawObservation) (env : AdmitEnv)
  | ackOutbox (eventId : PyValue)

/-- What a call returns; an admission with the observation and the witness it was about. -/
inductive DriveResult
  | done
  | acked (first : Bool)
  | admission (a : DriveAdmission) (o : DriveObservation) (w : DriveWitness)

/-- `admit`. -/
def admitObservation (observation : Option RawObservation) (env : AdmitEnv) (s : DriveState) :
    Except Exit (DriveResult × DriveState) := do
  let (o, digest) ← Exit.check (validate R observation)
  let w ← witnessed R o digest env
  let (a, s') ← admitLocked R o digest w env s
  return (.admission a o w, s')

/-- A call on the store that its transaction meets. -/
def perform : DriveCall → DriveState → Except Exit (DriveResult × DriveState)
  | .registerNeed needId level measure, s => (registerNeed needId level measure s).map fun s => (.done, s)
  | .registerGoal goalId needId choiceId targetLevel, s =>
    (registerGoal goalId needId choiceId targetLevel s).map fun s => (.done, s)
  | .replaceGoal oldGoalId newGoalId newChoiceId targetLevel, s =>
    (replaceGoal oldGoalId newGoalId newChoiceId targetLevel s).map fun s => (.done, s)
  | .vetoGoal goalId, s => (vetoGoal goalId s).map fun s => (.done, s)
  | .admitObservation observation env, s => admitObservation R observation env s
  | .ackOutbox eventId, s => (ackOutbox eventId s).map fun r => (.acked r.1, r.2)

end DriveFeedback

end VeraMono
