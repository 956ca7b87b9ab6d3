import VeraMono.Framework.Alone
import VeraMono.Model.CanonicalJson
import VeraMono.Model.LongHorizon

/-!
# The database of a long-horizon coordinator

`_init_db` of `long_horizon_plan.py`. The connection commits every statement by itself:
each `CREATE TABLE` of the script, the row of the plan, and each row of `executemany`
is durable before the next one begins.
-/

namespace VeraMono

open Framework

variable {T : Type}

/-! ## The plan as a text -/

def Priority.text : Priority → String
  | .p0 => "P0"
  | .p1 => "P1"
  | .p2 => "P2"
  | .p3 => "P3"
  | .p4 => "P4"

/-- A step of `_canonical_plan`, by the order of its keys. -/
def PlanStep.toJson (step : PlanStep) : Json :=
  .obj [("collision_keys", .arr (step.collisionKeys.map .str)),
    ("dependencies", .arr (step.dependencies.map .str)), ("family_id", .str step.familyId),
    ("max_attempts", .int step.maxAttempts), ("priority", .str step.priority.text),
    ("step_id", .str step.stepId)]

def canonicalPlan (plan : LongHorizonPlan) : String :=
  String.ofList (Json.dumps (.obj [("objective", .str plan.objective), ("plan_id", .str plan.planId),
    ("steps", .arr (plan.steps.map PlanStep.toJson))]))

/-- `plan_digest`, for a hex digest of the UTF-8 of a text. -/
def planDigest (sha256 : String → String) (plan : LongHorizonPlan) : String :=
  sha256 (canonicalPlan plan)

/-! ## The tables -/

/-- The row of `long_horizon_plan`. -/
structure PlanRow where
  planId : String
  planDigest : String
  objective : String
  canonicalJson : String
  deriving DecidableEq

/-- The tables that exist. The primary key of `long_horizon_plan` admits one row. -/
structure PlanDatabase (T : Type) where
  plan : Option (Option PlanRow)
  steps : Option (Table (StepRow.stepId (T := T)))
  events : Option (List CompletionEvent)
  corrections : Option (Table StepCorrection.key)

/-- A new file. -/
def PlanDatabase.empty : PlanDatabase T := ⟨none, none, none, none⟩

/-- What the coordinator works on, once its tables are there. -/
def PlanDatabase.store? (db : PlanDatabase T) : Option (PlanStore T) := do
  return ⟨← db.steps, ← db.events, ← db.corrections⟩

abbrev PlanProg (T α : Type) := Prog Empty (PlanDatabase T) Failure α

namespace LongHorizonCoordinator

abbrev Statement (T : Type) := PlanDatabase T → Except Failure (Unit × PlanDatabase T)

/-- `sqlite3.OperationalError` of a statement on a table that is not there. -/
def noSuchTable (name : String) : Failure := ⟨.operationalError, s!"no such table: {name}"⟩

/-- The script of `_init_db`, each statement with `IF NOT EXISTS`. -/
def schema : List (Statement T) :=
  [fun db => .ok ((), { db with plan := some (db.plan.getD none) }),
    fun db => .ok ((), { db with steps := some (db.steps.getD .empty) }),
    fun db => .ok ((), { db with events := some (db.events.getD []) }),
    fun db => .ok ((), { db with corrections := some (db.corrections.getD .empty) })]

/-- The `SELECT` of `_init_db`. -/
def selectPlan (db : PlanDatabase T) : Except Failure (Option PlanRow) :=
  match db.plan with
  | none => .error (noSuchTable "long_horizon_plan")
  | some row => .ok row

def insertPlan (row : PlanRow) : Statement T := fun db =>
  match db.plan with
  | none => .error (noSuchTable "long_horizon_plan")
  | some (some _) => .error ⟨.integrityError, "UNIQUE constraint failed: long_horizon_plan.singleton"⟩
  | some none => .ok ((), { db with plan := some (some row) })

def insertStep (step : PlanStep) : Statement T := fun db =>
  match db.steps with
  | none => .error (noSuchTable "long_horizon_steps")
  | some rows =>
    if (rows.get? step.stepId).isSome then
      .error ⟨.integrityError, "UNIQUE constraint failed: long_horizon_steps.step_id"⟩
    else .ok ((), { db with steps := some (rows.insert (.fresh step.stepId)) })

variable (sha256 : String → String) (plan : LongHorizonPlan)

/-- The row `_init_db` inserts of a plan. -/
def planRow : PlanRow := ⟨plan.planId, planDigest sha256 plan, plan.objective, canonicalPlan plan⟩

/-- Statements one after the other. -/
def executeAll : List (Statement T) → PlanProg T Unit
  | [] => pure ()
  | statement :: statements => do
    Prog.txn statement
    executeAll statements

def initDb : PlanProg T Unit := do
  executeAll schema
  match ← Prog.readM selectPlan with
  | none =>
    executeAll (insertPlan (planRow sha256 plan) :: plan.steps.map insertStep)
  | some row =>
    if row.planId ≠ plan.planId ∨ row.planDigest ≠ planDigest sha256 plan ∨
        row.canonicalJson ≠ canonicalPlan plan then
      throw (valueError "plan digest does not match durable plan identity")

end LongHorizonCoordinator

end VeraMono
