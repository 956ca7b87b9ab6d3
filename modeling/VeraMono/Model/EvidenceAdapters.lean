import VeraMono.Model.TaskSample

/-!
# The verification adapters of a task

The `verify` operations of seven adapters have one shape: the task is read and refused when it is
closed, then the requirement, the transport and the permit are looked up, the transport is called,
and what it answers is appended to the store of the adapter. Only the reading of the task and the
append touch what `close_task` is about, and neither takes the lock of the task ledger.
-/

namespace VeraMono.EvidenceAdapters

inductive Adapter
  | source | installation | route | runtimeConsumption | behaviorEffect | behaviorAttestation
  | independentReview
  deriving DecidableEq

namespace Adapter

def closedMessage : Adapter → String
  | source => "closed task cannot append new source verification evidence"
  | installation => "closed task cannot append installation verification"
  | route => "closed task cannot append route verification"
  | runtimeConsumption => "closed task cannot append runtime consumption verification"
  | behaviorEffect => "closed task cannot append behavior/effect verification"
  | behaviorAttestation => "closed task cannot append behavior attestation"
  | independentReview => "closed task cannot append independent review"

/-- The surface that the packet must declare; the source adapter asks for none. -/
def surface : Adapter → Option String
  | source => none
  | installation => some "install/registration"
  | route => some "current route"
  | runtimeConsumption => some "runtime consumption"
  | behaviorEffect | behaviorAttestation | independentReview => some "behavior/effect"

end Adapter

/-- What a `verify` raises: a failure of the task ledger, or the error of its adapter. -/
inductive AdapterFault
  | ledger (failure : Failure)
  | adapter (adapter : Adapter) (message : String)
  deriving DecidableEq

/-- A call of `verify`: the adapter, the task and what else identifies the requirement. The task
of a mutation is the one that its binding names. -/
structure VerifyCall where
  adapter : Adapter
  taskId : String
  requirement : List String
  deriving DecidableEq

structure EvidenceReceipt (ρ : Type) where
  taskId : String
  content : ρ
  deriving DecidableEq

inductive VerifyPhase (D ω : Type)
  | admitted (task : TaskState D)
  | prepared (task : TaskState D)
  | observed (task : TaskState D) (observation : ω)

structure Verification (D ω : Type) where
  call : VerifyCall
  phase : VerifyPhase D ω

/-- The stores, and the `verify` that each thread is in. -/
structure EvidenceState (D ω ρ : Type) where
  tasks : TaskLedger D
  receipts : Adapter → List (EvidenceReceipt ρ)
  running : Nat → Option (Verification D ω)

/-- What the adapters run on: a store's `append` answers with the receipt that it adds, with
nothing where it has that receipt already, or raises. -/
structure AdapterRuntime (D ω ρ : Type) where
  tasks : TaskRuntime D
  append : VerifyCall → (packetDigest : D) → ω → List (EvidenceReceipt ρ) →
    Except AdapterFault (Option ρ)

variable {D ω ρ : Type} [DecidableEq D] (A : AdapterRuntime D ω ρ)

def readOpenTask (call : VerifyCall) (tasks : TaskLedger D) : Except AdapterFault (TaskState D) :=
  match TaskLedger.read A.tasks call.taskId tasks with
  | .error failure => .error (.ledger failure)
  | .ok task =>
    if task.closed then .error (.adapter call.adapter call.adapter.closedMessage)
    else match call.adapter.surface with
    | none => .ok task
    | some surface =>
      if surface ∈ task.packet.relevantSurfaces then .ok task
      else .error (.adapter call.adapter s!"task packet does not declare {surface} surface")

/-- A step: a thread begins a `verify` with the transaction that reads the task, looks up what it
needs, calls the transport or appends; or a command of the task ledger is run, `close_task` among
them. -/
inductive Move (ω : Type)
  | begin (thread : Nat) (call : VerifyCall)
  | prepare (thread : Nat) (outcome : Except AdapterFault Unit)
  | observe (thread : Nat) (answer : Except AdapterFault ω)
  | append (thread : Nat)
  | command (command : TaskCommand)

namespace EvidenceState

/-- A thread goes on with its `verify`, or has left it. -/
def set (s : EvidenceState D ω ρ) (thread : Nat) (v : Option (Verification D ω)) :
    EvidenceState D ω ρ :=
  { s with running := Function.update s.running thread v }

/-- A store with one more receipt. -/
def add (s : EvidenceState D ω ρ) (call : VerifyCall) (content : ρ) : EvidenceState D ω ρ :=
  let extended := s.receipts call.adapter ++ [⟨call.taskId, content⟩]
  { s with receipts := Function.update s.receipts call.adapter extended }

def receiptsOf (s : EvidenceState D ω ρ) (adapter : Adapter) (taskId : String) :
    List (EvidenceReceipt ρ) :=
  (s.receipts adapter).filter fun receipt => receipt.taskId = taskId

end EvidenceState

/-- The state that a step leaves; what a thread is not ready for changes nothing. -/
def step (s : EvidenceState D ω ρ) : Move ω → EvidenceState D ω ρ
  | .begin thread call =>
    match s.running thread, readOpenTask A call s.tasks with
    | none, .ok task => s.set thread (some ⟨call, .admitted task⟩)
    | _, _ => s
  | .prepare thread outcome =>
    match s.running thread, outcome with
    | some ⟨call, .admitted task⟩, .ok () => s.set thread (some ⟨call, .prepared task⟩)
    | some ⟨_, .admitted _⟩, .error _ => s.set thread none
    | _, _ => s
  | .observe thread answer =>
    match s.running thread, answer with
    | some ⟨call, .prepared task⟩, .ok observation => s.set thread (some ⟨call, .observed task observation⟩)
    | some ⟨_, .prepared _⟩, .error _ => s.set thread none
    | _, _ => s
  | .append thread =>
    match s.running thread with
    | some ⟨call, .observed task observation⟩ =>
      match A.append call (packetDigest A.tasks task.packet) observation (s.receipts call.adapter) with
      | .ok (some content) => (s.add call content).set thread none
      | _ => s.set thread none
    | _ => s
  | .command command => { s with tasks := (command.run A.tasks s.tasks).2 }

/-- A new state directory. -/
def initial : EvidenceState D ω ρ := ⟨(taskChain A.tasks).empty, fun _ => [], fun _ => none⟩

/-- The state that a sequence of steps leaves. -/
def run (moves : List (Move ω)) : EvidenceState D ω ρ := moves.foldl (step A) (initial A)

end VeraMono.EvidenceAdapters
