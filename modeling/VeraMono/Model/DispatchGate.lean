import VeraMono.Framework.Lockfree
import VeraMono.Framework.Table
import VeraMono.Model.Clock
import VeraMono.Model.Records

/-!
# The durable dispatch gate

`durable_dispatch_gate.py`: budgets and work leases of any number of lineages in
one database. A claim is one transaction; opening a gate and completing a work
item are a read and a write that commit separately, so that other workers may
act between them.
-/

namespace VeraMono

open Framework

variable {T : Type}

/-- A row of `dispatch_budgets`. -/
structure DispatchBudget where
  lineageId : String
  remainingActive : Int
  remainingRetries : Int
  remainingBackendJobs : Int
  generation : Int
  deriving DecidableEq

/-- A row of `dispatch_leases`. -/
structure DispatchLease (T : Type) where
  lineageId : String
  workId : String
  holder : String
  fencingToken : Int
  expiresAt : T
  completed : Bool
  deriving DecidableEq

def DispatchLease.key (l : DispatchLease T) : String × String := (l.lineageId, l.workId)

structure DispatchStore (T : Type) where
  budgets : Table DispatchBudget.lineageId
  leases : Table (DispatchLease.key (T := T))

/-- A database before any gate is opened. -/
def DispatchStore.empty : DispatchStore T := ⟨.empty, .empty⟩

structure DispatchAdmission (T : Type) where
  lineageId : String
  workId : String
  holder : String
  fencingToken : Int
  expiresAt : T
  budgetGeneration : Int
  remainingActive : Int
  remainingRetries : Int
  remainingBackendJobs : Int
  deriving DecidableEq

structure DispatchClaimArgs (T : Type) where
  workId : String
  holder : String
  now : T
  ttl : T
  expectedGeneration : Int
  retry : Bool

namespace DurableDispatchGate

def text (value field : String) : Except Failure String := requireText .valueError field value

/-- The constraints of `dispatch_budgets`. -/
def checkBudget (b : DispatchBudget) : Except Failure Unit :=
  if b.remainingActive < 0 ∨ b.remainingRetries < 0 ∨ b.remainingBackendJobs < 0 ∨ b.generation < 0 then
    .error ⟨.integrityError, "CHECK constraint failed"⟩
  else .ok ()

variable [LinearOrder T] (clock : Clock T) (lineageId : String)

def finite (value : T) (field : String) : Except Failure T :=
  if clock.isFinite value then .ok value else .error ⟨.valueError, s!"{field} must be finite"⟩

/-- The lease a claim writes, and whether its row is new. -/
def leaseOf (args : DispatchClaimArgs T) (expiresAt : T) :
    Option (DispatchLease T) → Except Failure (DispatchLease T)
  | none => .ok ⟨lineageId, args.workId, args.holder, 1, expiresAt, false⟩
  | some existing => do
    if existing.completed then
      throw ⟨.dispatchFenceError, "completed work cannot be reclaimed"⟩
    if args.now < existing.expiresAt then
      throw ⟨.dispatchFenceError, "active lease already exists"⟩
    return ⟨lineageId, args.workId, args.holder, existing.fencingToken + 1, expiresAt, false⟩

/-- The budget row after an admission. -/
def spend (retry : Bool) (b : DispatchBudget) : DispatchBudget where
  lineageId := b.lineageId
  remainingActive := b.remainingActive - 1
  remainingRetries := b.remainingRetries - (if retry then 1 else 0)
  remainingBackendJobs := b.remainingBackendJobs - 1
  generation := b.generation + 1

def claim (args : DispatchClaimArgs T) (s : DispatchStore T) :
    Except Failure (DispatchAdmission T × DispatchStore T) := do
  let _ ← text args.workId "work_id"
  let _ ← text args.holder "holder"
  let _ ← finite clock args.now "now"
  let _ ← finite clock args.ttl "ttl"
  if args.ttl ≤ clock.zero then
    throw ⟨.valueError, "ttl must be positive"⟩
  if args.expectedGeneration < 0 then
    throw ⟨.valueError, "expected_generation must be a non-negative integer"⟩
  match s.budgets.get? lineageId with
  | none => throw ⟨.valueError, "dispatch budget not found"⟩
  | some budget =>
    if budget.generation ≠ args.expectedGeneration then
      throw ⟨.dispatchFenceError, "dispatch budget generation mismatch"⟩
    if budget.remainingActive ≤ 0 then
      throw ⟨.dispatchFenceError, "active budget exhausted"⟩
    if budget.remainingBackendJobs ≤ 0 then
      throw ⟨.dispatchFenceError, "backend jobs budget exhausted"⟩
    if args.retry ∧ budget.remainingRetries ≤ 0 then
      throw ⟨.dispatchFenceError, "retry budget exhausted"⟩
    let expiresAt := clock.add args.now args.ttl
    let lease ← leaseOf lineageId args expiresAt (s.leases.get? (lineageId, args.workId))
    let next := spend args.retry budget
    checkBudget next
    return (⟨lineageId, args.workId, args.holder, lease.fencingToken, expiresAt, next.generation,
      next.remainingActive, next.remainingRetries, next.remainingBackendJobs⟩,
      { budgets := s.budgets.update next, leases := s.leases.upsert lease })

/-- The read of `complete`: whether the row is the admission's and its lease runs. -/
def completable (admission : DispatchAdmission T) (now : T) (s : DispatchStore T) : Bool :=
  match s.leases.get? (lineageId, admission.workId) with
  | none => false
  | some row => !row.completed && row.holder = admission.holder &&
      row.fencingToken = admission.fencingToken && now < row.expiresAt

/-- The `UPDATE` of `complete`, and whether it found its row. -/
def markCompleted (admission : DispatchAdmission T) (s : DispatchStore T) :
    Except Failure (Bool × DispatchStore T) :=
  match s.leases.get? (lineageId, admission.workId) with
  | none => .ok (false, s)
  | some row =>
    if row.holder = admission.holder ∧ row.fencingToken = admission.fencingToken ∧
        row.completed = false then
      .ok (true, { s with leases := s.leases.update { row with completed := true } })
    else .ok (false, s)

end DurableDispatchGate

/-! ## Programs -/

abbrev GateProg (T : Type) := Prog Empty (DispatchStore T) Failure

inductive GateReply (T : Type)
  | opened
  | admitted (admission : DispatchAdmission T)
  | completed (done : Bool)

/-- The calls of a gate: its construction with the budgets it is given, and its methods. -/
inductive GateOp (T : Type)
  | open (remainingActive remainingRetries remainingBackendJobs : Option Int)
  | claim (args : DispatchClaimArgs T)
  | complete (admission : DispatchAdmission T) (now : T)

structure GateCall (T : Type) where
  lineageId : String
  op : GateOp T

namespace DurableDispatchGate

/-- The `INSERT` of `__init__`. -/
def insertBudget (b : DispatchBudget) (s : DispatchStore T) :
    Except Failure (Unit × DispatchStore T) :=
  match s.budgets.get? b.lineageId with
  | some _ => .error ⟨.integrityError, "UNIQUE constraint failed"⟩
  | none => .ok ((), { s with budgets := s.budgets.insert b })

/-- The budgets a new gate starts with. -/
def initialBudget (lineageId : String) :
    Option Int → Option Int → Option Int → Except Failure DispatchBudget
  | some active, some retries, some backend =>
    if active < 0 ∨ retries < 0 ∨ backend < 0 then
      .error ⟨.valueError, "dispatch budgets must be non-negative"⟩
    else .ok ⟨lineageId, active, retries, backend, 0⟩
  | _, _, _ => .error ⟨.valueError, "new dispatch gate requires initial budgets"⟩

/-- `__init__`. -/
def openGate (lineageId : String) (active retries backend : Option Int) : GateProg T Unit := do
  let _ ← Prog.ofExcept (text lineageId "lineage_id")
  let known ← Prog.read fun s => (s.budgets.get? lineageId).isSome
  if known then return ()
  let budget ← Prog.ofExcept (initialBudget lineageId active retries backend)
  Prog.txn (insertBudget budget)

variable [LinearOrder T] (clock : Clock T)

def complete (lineageId : String) (admission : DispatchAdmission T) (now : T) : GateProg T Bool := do
  let _ ← Prog.ofExcept (finite clock now "now")
  let found ← Prog.read (completable lineageId admission now)
  if found then Prog.txn (markCompleted lineageId admission) else return false

def program (c : GateCall T) : GateProg T (GateReply T) :=
  match c.op with
  | .open active retries backend =>
    (openGate c.lineageId active retries backend).map fun _ => .opened
  | .claim args => (Prog.txn (claim clock c.lineageId args)).map .admitted
  | .complete admission now => (complete clock c.lineageId admission now).map .completed

end DurableDispatchGate

end VeraMono
