import VeraMono.Framework.Pool
import VeraMono.Model.Coordination

/-!
# The system

`Call` lists the entry points of the state directory that touch the modelled
stores, and `program` gives each its program. A run of the system is a run of the
pool over `program`: any number of processes, each in the middle of some call.
-/

namespace VeraMono

open Framework

variable {D : Type} [DecidableEq D]

inductive Call (D : Type)
  | dispatch (trust : Bool) (args : DispatchArgs D)
  | invoke (args : InvokeArgs D)
  | cancelReservedEffect (effectId : String)
  | cancelReservedCommand (commandId : String) (repositoryConsistent : Bool)
  | reconcile (args : ReconcileArgs D)
  /-- `VeraStateDirectory.open`, which every restart runs. -/
  | openState
  /-- `VeraStateDirectory.reconstruct`. -/
  | reconstruct
  /-- `VeraStateDirectory.resume_context`. -/
  | resumeContext
  | acceptedActionPermit
  | validateActionPermit (permit : AcceptedLifecyclePermit D)
  | checkpoint (args : CheckpointArgs D)
  | admitRecord (request : AdmissionRequest) (expectedHead : DigestText D)
  /-- The control sources are replaced. -/
  | replaceControlSource (digest : D)

/-- What a call returns. -/
inductive Reply (D : Type)
  | effect (result : OutboundEffectResult D)
  | receipt (receipt : EffectReceipt D)
  | assessment (assessment : CommandRecoveryAssessment D)
  | consistency (consistency : OutboundExecutionAudit.Consistency D)
  | reconstruction (reconstruction : LifecycleReconstruction D)
  | permit (permit : AcceptedLifecyclePermit D)
  | checkpoint (receipt : NativeLifecycleReceipt D)
  | admission (receipt : AdmissionReceipt D)
  | none

variable (R : Runtime D)

/-- `VeraStateDirectory.open`, once the stores exist. -/
def openState : Op D (OutboundExecutionAudit.Consistency D) :=
  Op.withLock .lifecycle (OutboundExecutionAudit.repairFromFence R.hash)

def reconstructState : Op D (LifecycleReconstruction D) := do
  let _ ← openState R
  reconstruct R true

/-- `VeraStateDirectory.resume_context`, without the contexts of the other stores. -/
def resumeContext : Op D (LifecycleReconstruction D) := do
  let _ ← openState R
  let context ← reconstruct R true
  let _ ← openState R
  return context

def replaceControlSource (digest : D) : Op D Unit :=
  .txn fun s => .ok ((), { s with controlSourceDigest := digest })

def program : Call D → Op D (Reply D)
  | .dispatch trust args => (dispatchVerified R trust args).map .effect
  | .invoke args => (invoke R args).map .effect
  | .cancelReservedEffect effectId => (cancelReservedEffect R effectId).map .receipt
  | .cancelReservedCommand commandId repositoryConsistent =>
    (cancelReservedCommand R commandId repositoryConsistent).map .assessment
  | .reconcile args => (reconcile R args).map .receipt
  | .openState => (openState R).map .consistency
  | .reconstruct => (reconstructState R).map .reconstruction
  | .resumeContext => (resumeContext R).map .reconstruction
  | .acceptedActionPermit => (acceptedActionPermit R).map .permit
  | .validateActionPermit permit => (validateActionPermit R permit).map .permit
  | .checkpoint args => (checkpoint R args).map .checkpoint
  | .admitRecord request expectedHead =>
    (Op.onMemory (MemoryLedger.admitRecord R.hash R.config request expectedHead)).map .admission
  | .replaceControlSource digest => (replaceControlSource digest).map fun _ => .none

abbrev VeraPool (D : Type) := Pool Lock (VeraState D) Failure (Reply D) (Call D)

/-- The pool after a list of events, from a new state directory. -/
def VeraPool.run (controlSourceDigest : D) (es : List (Event (Call D))) : VeraPool D :=
  Pool.run (program R) (Pool.init (VeraState.initial R.hash controlSourceDigest)) es

end VeraMono
