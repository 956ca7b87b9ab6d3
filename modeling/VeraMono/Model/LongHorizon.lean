import VeraMono.Framework.Rounds
import VeraMono.Framework.Transactions
import VeraMono.Model.Clock
import VeraMono.Model.TaskLedger

/-!
# Long-horizon plans

`long_horizon_plan.py`: the steps of a plan with their dependencies, the rows a
coordinator keeps of them, and the transactions that claim a step, complete a claim
and record the correction of a failed attempt.
-/

namespace VeraMono

open Framework

variable {T : Type}

/-! ## Plans -/

inductive StepState
  | pending | running | failedRetryable | succeeded | failedTerminal
  deriving DecidableEq, Repr

inductive Priority
  | p0 | p1 | p2 | p3 | p4
  deriving DecidableEq, Repr

/-- `_PRIORITY`. -/
def Priority.rank : Priority → Nat
  | .p0 => 0
  | .p1 => 1
  | .p2 => 2
  | .p3 => 3
  | .p4 => 4

structure PlanStep where
  stepId : String
  dependencies : List String
  priority : Priority
  familyId : String
  collisionKeys : List String
  maxAttempts : Int
  deriving DecidableEq

def valueError (message : String) : Failure := ⟨.valueError, message⟩

/-- The checks of `PlanStep.__post_init__`. -/
def PlanStep.check (step : PlanStep) : Except Failure Unit := do
  let _ ← requireText .valueError "step_id" step.stepId
  let _ ← requireText .valueError "family_id" step.familyId
  if "" ∈ step.dependencies then
    throw (valueError "dependencies must contain non-empty exact strings")
  if ¬ step.dependencies.Nodup then
    throw (valueError "dependencies must not contain duplicates")
  if "" ∈ step.collisionKeys then
    throw (valueError "collision_keys must contain non-empty exact strings")
  if ¬ step.collisionKeys.Nodup then
    throw (valueError "collision_keys must not contain duplicates")
  if step.maxAttempts < 1 then
    throw (valueError "max_attempts must be a positive exact integer")

/-- The check of one step against the ids of the plan. -/
def checkDependencies (py : Stdlib) (known : List String) (step : PlanStep) : Except Failure Unit := do
  let unknown := sortedSet (step.dependencies.filter (· ∉ known))
  if unknown ≠ [] then
    throw (valueError s!"unknown dependency for {step.stepId}: {pyList py unknown}")
  if step.stepId ∈ step.dependencies then
    throw (valueError "step cannot depend on itself")

/-- The loop of `_validate_acyclic`, which runs at most once for each step. -/
def resolves : Nat → List PlanStep → List String → Bool
  | _, [], _ => true
  | 0, _ :: _, _ => false
  | n + 1, remaining@(_ :: _), resolved =>
    let ready := remaining.filter fun step => step.dependencies.all (· ∈ resolved)
    !ready.isEmpty && resolves n (remaining.filter fun step => !step.dependencies.all (· ∈ resolved))
      (resolved ++ ready.map PlanStep.stepId)

/-- The `dependencies` of `_validate_acyclic`: of steps with one id, the last. -/
def dependenciesOf (steps : List PlanStep) (stepId : String) : List String :=
  ((steps.reverse.find? fun step => step.stepId = stepId).map PlanStep.dependencies).getD []

/-- `_validate_acyclic`, with the ids of the steps as the keys of `dependencies`; `none` when its
loop runs for more than `fuel` rounds. -/
def validateAcyclic (fuel : Nat) (steps : List PlanStep) : Option (Except Failure Unit) :=
  (resolveRounds (dependenciesOf steps) fuel (steps.map PlanStep.stepId).dedup []).map fun
    | true => .ok ()
    | false => .error (valueError "plan dependencies contain a cycle")

/-- The checks of `LongHorizonPlan.__post_init__`, after those of its steps. -/
def checkPlan (py : Stdlib) (planId objective : String) (steps : List PlanStep) :
    Except Failure Unit := do
  steps.forM PlanStep.check
  let _ ← requireText .valueError "plan_id" planId
  let _ ← requireText .valueError "objective" objective
  if steps = [] then
    throw (valueError "steps must be a non-empty tuple")
  if ¬ (steps.map PlanStep.stepId).Nodup then
    throw (valueError "step ids must be unique")
  steps.forM (checkDependencies py (steps.map PlanStep.stepId))
  if ¬ resolves steps.length steps [] then
    throw (valueError "plan dependencies contain a cycle")

structure LongHorizonPlan where
  planId : String
  objective : String
  steps : List PlanStep
  wellFormed : ∀ py, checkPlan py planId objective steps = .ok ()

/-- `_steps`. -/
def LongHorizonPlan.step? (plan : LongHorizonPlan) (stepId : String) : Option PlanStep :=
  plan.steps.find? fun step => step.stepId = stepId

structure PlanBudget where
  maxParallel : Int
  maxPerFamily : Int
  deriving DecidableEq

def PlanBudget.validate (budget : PlanBudget) : Except Failure Unit := do
  if budget.maxParallel < 1 then
    throw (valueError "max_parallel must be a positive exact integer")
  if budget.maxPerFamily < 1 then
    throw (valueError "max_per_family must be a positive exact integer")
  if budget.maxPerFamily > budget.maxParallel then
    throw (valueError "max_per_family cannot exceed max_parallel")

/-! ## The store -/

/-- A row of `long_horizon_steps`. -/
structure StepRow (T : Type) where
  stepId : String
  state : StepState
  attempts : Int
  fencingToken : Int
  generation : Int
  holder : Option String
  leaseExpiresAt : Option T
  lastFailureAttempt : Option Int
  deriving DecidableEq

/-- A row of `long_horizon_events`; its sequence is its place. -/
structure CompletionEvent where
  stepId : String
  attempt : Int
  outcome : StepState
  evidenceRef : String
  deriving DecidableEq

/-- A row of `long_horizon_corrections`. -/
structure StepCorrection where
  stepId : String
  failedAttempt : Int
  correctionRef : String
  deriving DecidableEq

def StepCorrection.key (c : StepCorrection) : String × Int := (c.stepId, c.failedAttempt)

structure PlanStore (T : Type) where
  rows : Table (StepRow.stepId (T := T))
  events : List CompletionEvent
  corrections : Table StepCorrection.key

/-- The row of a step that was never claimed. -/
def StepRow.fresh (stepId : String) : StepRow T := ⟨stepId, .pending, 0, 0, 0, none, none, none⟩

def StepRow.claimed (row : StepRow T) (holder : String) (expires : T) : StepRow T :=
  { row with
    state := .running
    attempts := row.attempts + 1
    fencingToken := row.fencingToken + 1
    generation := row.generation + 1
    holder := some holder
    leaseExpiresAt := some expires }

def StepRow.completed (row : StepRow T) (state : StepState) (lastFailureAttempt : Option Int) :
    StepRow T :=
  { row with
    state
    generation := row.generation + 1
    holder := none
    leaseExpiresAt := none
    lastFailureAttempt }

/-- The database of a new plan, as `_init_db` fills it. -/
def PlanStore.new (plan : LongHorizonPlan) : PlanStore T where
  rows := plan.steps.foldl (fun rows step => rows.insert (.fresh step.stepId)) .empty
  events := []
  corrections := .empty

/-! ## Selection -/

/-- Why a step is not claimed. -/
inductive DeferralReason
  | succeeded | failedTerminal | running | dependencyFailed | dependencies | correctionRequired
  | collision | globalBudget | familyBudget
  deriving DecidableEq, Repr

def DeferralReason.text : DeferralReason → String
  | .succeeded => "SUCCEEDED"
  | .failedTerminal => "FAILED_TERMINAL"
  | .running => "RUNNING"
  | .dependencyFailed => "DEPENDENCY_FAILED"
  | .dependencies => "DEPENDENCIES"
  | .correctionRequired => "CORRECTION_REQUIRED"
  | .collision => "COLLISION"
  | .globalBudget => "GLOBAL_BUDGET"
  | .familyBudget => "FAMILY_BUDGET"

/-- What the selection has decided so far. -/
structure Frontier where
  selected : List PlanStep
  deferred : List (PlanStep × DeferralReason)
  familyLoad : String → Int
  reserved : List String

structure StepClaim (T : Type) where
  planId : String
  stepId : String
  holder : String
  fencingToken : Int
  attempt : Int
  leaseExpiresAt : T
  deriving DecidableEq

structure StepRecord where
  stepId : String
  state : StepState
  attempts : Int
  fencingToken : Int
  generation : Int
  deriving DecidableEq

structure StepClaimArgs (T : Type) where
  stepId : String
  holder : String
  now : T
  ttl : T
  budget : Option PlanBudget
  occupiedCollisionKeys : List String

namespace LongHorizonCoordinator

variable (plan : LongHorizonPlan)

def rows (s : PlanStore T) : Except Failure (String → StepRow T) :=
  if SameKeys (s.rows.rows.map StepRow.stepId) (plan.steps.map PlanStep.stepId) then
    .ok fun stepId => (s.rows.get? stepId).getD (.fresh stepId)
  else .error (valueError "durable plan step membership is corrupt")

def hasCorrection (s : PlanStore T) (stepId : String) (failedAttempt : Int) : Bool :=
  (s.corrections.get? (stepId, failedAttempt)).isSome

def readyReason (s : PlanStore T) (rows : String → StepRow T) (step : PlanStep) :
    Option DeferralReason :=
  let row := rows step.stepId
  match row.state with
  | .succeeded => some .succeeded
  | .failedTerminal => some .failedTerminal
  | .running => some .running
  | .pending | .failedRetryable =>
    if step.dependencies.any fun d => (rows d).state = .failedTerminal then some .dependencyFailed
    else if step.dependencies.any fun d => (rows d).state ≠ .succeeded then some .dependencies
    else if row.state = .failedRetryable then
      match row.lastFailureAttempt with
      | none => some .correctionRequired
      | some failedAttempt =>
        if hasCorrection s step.stepId failedAttempt then none else some .correctionRequired
    else none

/-- The steps by priority, then in the order of the plan. -/
def sortedSteps : List PlanStep :=
  (plan.steps.zipIdx.insertionSort fun a b =>
    a.1.priority.rank < b.1.priority.rank ∨
      a.1.priority.rank = b.1.priority.rank ∧ a.2 ≤ b.2).map Prod.fst

/-- One round of the loop of `_plan_ready_with_db`. -/
def consider (s : PlanStore T) (rows : String → StepRow T) (budget : PlanBudget) (f : Frontier)
    (step : PlanStep) : Frontier :=
  let defer (reason : DeferralReason) : Frontier := { f with deferred := f.deferred ++ [(step, reason)] }
  match readyReason s rows step with
  | some reason => defer reason
  | none =>
    if step.collisionKeys.any (· ∈ f.reserved) then defer .collision
    else if f.selected.length ≥ budget.maxParallel then defer .globalBudget
    else if f.familyLoad step.familyId ≥ budget.maxPerFamily then defer .familyBudget
    else
      { selected := f.selected ++ [step]
        deferred := f.deferred
        familyLoad := Function.update f.familyLoad step.familyId (f.familyLoad step.familyId + 1)
        reserved := f.reserved ++ step.collisionKeys }

def planReadyWithDb (s : PlanStore T) (rows : String → StepRow T) (budget : PlanBudget)
    (occupiedCollisionKeys : List String) : Frontier :=
  (sortedSteps plan).foldl (consider s rows budget) ⟨[], [], fun _ => 0, occupiedCollisionKeys⟩

def validateOccupied (keys : List String) : Except Failure Unit :=
  if "" ∈ keys then
    .error (valueError "occupied_collision_keys must contain non-empty exact strings")
  else .ok ()

def planReady (budget : PlanBudget) (occupiedCollisionKeys : List String) (s : PlanStore T) :
    Except Failure Frontier := do
  budget.validate
  validateOccupied occupiedCollisionKeys
  let rows ← rows plan s
  return planReadyWithDb plan s rows budget occupiedCollisionKeys

/-! ## Transactions -/

variable [LinearOrder T] (clock : Clock T)

def finite (value : T) (field : String) : Except Failure T :=
  if clock.isFinite value then .ok value else .error (valueError s!"{field} must be finite")

/-- The budget of a claim that names none. -/
def effectiveBudget (budget : Option PlanBudget) : PlanBudget := budget.getD ⟨1, 1⟩

def claim (args : StepClaimArgs T) (s : PlanStore T) : Except Failure (StepClaim T × PlanStore T) := do
  match plan.step? args.stepId with
  | none => throw ⟨.keyError, args.stepId⟩
  | some step =>
    let _ ← requireText .valueError "holder" args.holder
    let _ ← finite clock args.now "now"
    let _ ← finite clock args.ttl "ttl"
    if args.ttl ≤ clock.zero then
      throw (valueError "ttl must be positive")
    let budget := effectiveBudget args.budget
    budget.validate
    validateOccupied args.occupiedCollisionKeys
    let rows ← rows plan s
    match readyReason s rows step with
    | some .dependencies => throw (valueError "step dependencies are not satisfied")
    | some reason => throw (valueError s!"step is not ready: {reason.text}")
    | none =>
      let frontier := planReadyWithDb plan s rows budget args.occupiedCollisionKeys
      if args.stepId ∉ frontier.selected.map PlanStep.stepId then
        throw (valueError "step is outside current budget selection")
      let row := rows args.stepId
      if row.attempts ≥ step.maxAttempts then
        throw (valueError "step attempt budget exhausted")
      let expires := clock.add args.now args.ttl
      let claimed := row.claimed args.holder expires
      return (⟨plan.planId, args.stepId, args.holder, claimed.fencingToken, claimed.attempts, expires⟩,
        { s with rows := s.rows.update claimed })

def holderText (holder : Option String) : String := holder.getD "None"

/-- The state a completion leads to, and the failed attempt it records. -/
def outcome (success : Bool) (attempt maxAttempts : Int) : StepState × Option Int :=
  if success then (.succeeded, none)
  else if attempt < maxAttempts then (.failedRetryable, some attempt)
  else (.failedTerminal, some attempt)

def complete (claim : StepClaim T) (success : Bool) (evidenceRef : String) (now : T)
    (s : PlanStore T) : Except Failure (StepRecord × PlanStore T) := do
  if claim.planId ≠ plan.planId then
    throw (valueError "claim plan identity mismatch")
  let _ ← requireText .valueError "evidence_ref" evidenceRef
  let _ ← finite clock now "now"
  match plan.step? claim.stepId with
  | none => throw ⟨.keyError, claim.stepId⟩
  | some step =>
    match s.rows.get? claim.stepId with
    | none => throw ⟨.assertionError, ""⟩
    | some row =>
      if row.state ≠ .running then
        throw (valueError "step claim is stale or no longer running")
      if holderText row.holder ≠ claim.holder ∨ row.fencingToken ≠ claim.fencingToken ∨
          row.attempts ≠ claim.attempt then
        throw (valueError "step claim fencing token is stale")
      if row.leaseExpiresAt.all fun expires => expires ≤ now then
        throw (valueError "step claim lease expired")
      let (state, lastFailureAttempt) := outcome success claim.attempt step.maxAttempts
      let completed := row.completed state lastFailureAttempt
      return (⟨claim.stepId, state, claim.attempt, claim.fencingToken, completed.generation⟩,
        { s with
          rows := s.rows.update completed
          events := s.events ++ [⟨claim.stepId, claim.attempt, state, evidenceRef⟩] })

omit [LinearOrder T] in
def applyCorrection (stepId correctionRef : String) (s : PlanStore T) :
    Except Failure (Unit × PlanStore T) := do
  if (plan.step? stepId).isNone then
    throw ⟨.keyError, stepId⟩
  let _ ← requireText .valueError "correction_ref" correctionRef
  match s.rows.get? stepId with
  | none => throw ⟨.assertionError, ""⟩
  | some row =>
    if row.state ≠ .failedRetryable then
      throw (valueError "correction requires FAILED_RETRYABLE step")
    match row.lastFailureAttempt with
    | none => throw (valueError "retryable failure lacks failed attempt identity")
    | some failedAttempt =>
      if (s.corrections.get? (stepId, failedAttempt)).isSome then
        throw (valueError "correction already recorded for failed attempt")
      return ((), { s with corrections := s.corrections.insert ⟨stepId, failedAttempt, correctionRef⟩ })

end LongHorizonCoordinator

inductive PlanCall (T : Type)
  | claim (args : StepClaimArgs T)
  | complete (claim : StepClaim T) (success : Bool) (evidenceRef : String) (now : T)
  | applyCorrection (stepId correctionRef : String)

inductive PlanReply (T : Type)
  | claimed (claim : StepClaim T)
  | recorded (record : StepRecord)
  | corrected

namespace LongHorizonCoordinator

variable [LinearOrder T] (clock : Clock T) (plan : LongHorizonPlan)

/-- A call of the coordinator. -/
def exec : PlanCall T → PlanStore T → Except Failure (PlanReply T × PlanStore T)
  | .claim args, s => (claim plan clock args s).map fun r => (.claimed r.1, r.2)
  | .complete c success evidenceRef now, s =>
    (complete plan clock c success evidenceRef now s).map fun r => (.recorded r.1, r.2)
  | .applyCorrection stepId correctionRef, s =>
    (applyCorrection plan stepId correctionRef s).map fun r => (.corrected, r.2)

end LongHorizonCoordinator

end VeraMono
