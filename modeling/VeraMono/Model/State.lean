import Mathlib.Data.Fintype.Basic
import VeraMono.Framework.Prog
import VeraMono.Model.CommandJournal

/-!
# The state directory

`VeraState` is the state root that `VeraStateDirectory` opens: the SQLite stores under it, the
digest of the control sources, and `world`, the log of what the calls did outside the stores
(which effects their callbacks started and finished, and which permits were handed out). `Lock`
names the two inter-process locks.
-/

namespace VeraMono

open Framework

inductive Lock
  | lifecycle
  | trust
  deriving DecidableEq

instance : Fintype Lock := ⟨{.lifecycle, .trust}, fun l => by cases l <;> decide⟩

/-- What leaves the state directory. -/
inductive WorldEvent (D : Type)
  | executeStarted (effectId : String)
  | executeReturned (effectId : String)
  | executeRaised (effectId : String)
  | permitMinted (permit : AcceptedLifecyclePermit D)
  deriving DecidableEq

structure VeraState (D : Type) where
  fence : EffectFence D
  audit : OutboundExecutionAudit D
  checkpoints : NativeRecoveryCheckpointStore D
  currentness : CurrentnessStore D
  journal : LifecycleJournal D
  memory : MemoryLedger D
  commands : CommandJournal D
  controlSourceDigest : D
  world : List (WorldEvent D)

abbrev Op (D α : Type) := Prog Lock (VeraState D) Failure α

variable {D α : Type}

/-- A new state directory. -/
def VeraState.initial (H : Hashing D) (controlSourceDigest : D) : VeraState D where
  fence := .empty
  audit := (auditChain H).empty
  checkpoints := (checkpointChain H).empty
  currentness := .empty
  journal := (journalChain H).empty
  memory := ⟨.empty, .empty, 0, H.sha256 .memoryGenesis⟩
  commands := ⟨.empty, .empty, 0, 0, H.sha256 (.commandProjection [] [])⟩
  controlSourceDigest := controlSourceDigest
  world := []

namespace Op

def onFence (f : EffectFence D → Except Failure (α × EffectFence D)) : Op D α :=
  .txn fun s => (f s.fence).map fun r => (r.1, { s with fence := r.2 })

def onAudit (f : OutboundExecutionAudit D → Except Failure (α × OutboundExecutionAudit D)) :
    Op D α := .txn fun s => (f s.audit).map fun r => (r.1, { s with audit := r.2 })

/-- A transaction of the recovery checkpoint store. -/
def onCheckpoints (f : NativeRecoveryCheckpointStore D →
    Except Failure (α × NativeRecoveryCheckpointStore D)) : Op D α :=
  .txn fun s => (f s.checkpoints).map fun r => (r.1, { s with checkpoints := r.2 })

def onCurrentness (f : CurrentnessStore D → Except Failure (α × CurrentnessStore D)) : Op D α :=
  .txn fun s => (f s.currentness).map fun r => (r.1, { s with currentness := r.2 })

def onJournal (f : LifecycleJournal D → Except Failure (α × LifecycleJournal D)) : Op D α :=
  .txn fun s => (f s.journal).map fun r => (r.1, { s with journal := r.2 })

def onMemory (f : MemoryLedger D → Except Failure (α × MemoryLedger D)) : Op D α :=
  .txn fun s => (f s.memory).map fun r => (r.1, { s with memory := r.2 })

/-- A transaction of the coordination command journal. -/
def onCommands (f : CommandJournal D → Except Failure (α × CommandJournal D)) : Op D α :=
  .txn fun s => (f s.commands).map fun r => (r.1, { s with commands := r.2 })

/-- Something that happens outside the stores. -/
def emit (e : WorldEvent D) : Op D Unit := .txn fun s => .ok ((), { s with world := e :: s.world })

/-- An error of pure code. -/
def lift (r : Except Failure α) : Op D α := .ofExcept r

/-- `PortableFileLock` as a context manager. -/
def withLock (l : Lock) (body : Op D α) : Op D α :=
  Prog.withLock l ⟨.portableLockError, "failed to acquire portable lock"⟩ body

end Op

end VeraMono
