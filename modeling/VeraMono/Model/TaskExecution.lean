import VeraMono.Framework.ChainLog
import VeraMono.Model.Canonical

/-!
# The task execution ledger

`TaskExecutionLedger` keeps the life of every task in one digest-chained log: a task is opened
with its packet, collects dependencies, delegations, corrections and checkpoints, and is closed.
Nothing but events is stored.
-/

namespace VeraMono

open Framework

variable {D : Type}

def taskError (message : String) : Failure := ⟨.taskExecutionError, message⟩

/-! ## Texts -/

/-- `value.strip()` is not empty. -/
def nonblank (value : String) : Bool := value.toList.any fun c => !isWhitespace c

/-- `_require_text`. -/
def requireTaskText (label value : String) : Except Failure String :=
  if nonblank value then .ok value
  else .error (taskError s!"{label} must be a non-empty exact string")

def requireTexts (label : String) (values : List String) : Except Failure (List String) :=
  if values.all nonblank then .ok values
  else .error (taskError s!"{label}[] must be a non-empty exact string")

def sortedSet (values : List String) : List String := values.eraseDups.insertionSort (· ≤ ·)

/-- What follows the first occurrence of a separator. -/
def afterFirst (separator : List Char) : List Char → Option (List Char)
  | [] => none
  | c :: cs =>
    if separator.isPrefixOf (c :: cs) then some ((c :: cs).drop separator.length)
    else afterFirst separator cs

def splitLast (separator text : String) : String :=
  match afterFirst separator.toList text.toList with
  | some rest => String.ofList rest
  | none => text

/-! ## Packets -/

def closeoutSurfaces : List String :=
  ["source", "build/package", "install/registration", "current route", "runtime consumption",
    "behavior/effect", "docs/rules", "memory/privacy", "workspace/coordination"]

def closeoutStates : List String :=
  ["verified-current", "changed-and-verified", "pending", "out-of-scope", "not-applicable"]

structure TaskPacket where
  purpose : String
  subject : String
  completionState : String
  evidenceRequirements : List String
  writableScope : List String
  nonTargets : List String
  forbiddenShortcutsOrEffects : List String
  priorityOrder : List String
  unknowns : List String
  returnShape : List String
  relevantSurfaces : List String
  deriving DecidableEq

def TaskPacket.validate (p : TaskPacket) : Except Failure Unit := do
  let _ ← requireTaskText "purpose" p.purpose
  let _ ← requireTaskText "subject" p.subject
  let _ ← requireTaskText "completion_state" p.completionState
  let _ ← requireTexts "evidence_requirements" p.evidenceRequirements
  let _ ← requireTexts "writable_scope" p.writableScope
  let _ ← requireTexts "non_targets" p.nonTargets
  let _ ← requireTexts "forbidden_shortcuts_or_effects" p.forbiddenShortcutsOrEffects
  let _ ← requireTexts "priority_order" p.priorityOrder
  let _ ← requireTexts "unknowns" p.unknowns
  let _ ← requireTexts "return_shape" p.returnShape
  let surfaces ← requireTexts "relevant_surfaces" p.relevantSurfaces
  let unknown := (sortedSet surfaces).filter fun surface => surface ∉ closeoutSurfaces
  if surfaces = [] then
    .error (taskError "substantial task packet must declare relevant closeout surfaces")
  else if ¬ surfaces.Nodup then .error (taskError "relevant_surfaces contains duplicates")
  else if unknown ≠ [] then
    .error (taskError ("unknown closeout surfaces: " ++ ", ".intercalate unknown))
  else .ok ()

/-! ## Events -/

/-- What a delegation event repeats of its delegation: `assigneeRef` is the prior
assignee in a reassignment. -/
structure DelegationBinding (D : Type) where
  delegationId : String
  taskSubject : String
  packetDigest : D
  repository : String
  ref : String
  subject : String
  assigneeRef : String
  deriving DecidableEq

structure TaskCheckpoint (D : Type) where
  subject : String
  subjectDigest : D
  completedEvidence : List String
  blockers : List String
  protectedEffectsStillGated : List String
  nextFrontier : String
  correctionIdsAddressed : List String
  methodChange : Option String
  regressionGuard : Option String
  blockerClassification : Option String
  lifecycleEvidenceDigest : String
  deriving DecidableEq

/-- The payload of each event type. The keys of `returnValues` are those of the
delegation's return shape and the keys of `surfaces` those of the packet, in their
order. -/
inductive TaskPayload (D : Type)
  | opened (packet : TaskPacket) (packetDigest : D) (lifecycleEvidenceDigest : String)
  | dependency (dependencyId subject : String) (packetDigest : D) (kind targetId : String)
  | dependencyCancelled (dependencyId subject : String) (packetDigest : D)
      (kind targetId reason : String)
  | delegated (binding : DelegationBinding D)
      (allowedEffects prohibitedEffects returnShape evidenceRefs : List String)
  | delegationReassigned (binding : DelegationBinding D) (newAssigneeRef : String)
      (evidenceRefs : List String)
  | delegationReturned (binding : DelegationBinding D) (summary : String)
      (returnValues : List (String × String)) (resultEvidenceRefs : List String)
  | delegationCancelled (binding : DelegationBinding D) (reason : String)
      (evidenceRefs : List String)
  | correction (correctionId subject : String) (packetDigest : D)
      (summary obsoleteRoute requiredChange currentOwnerRef : String)
      (provenanceRefs : List String)
  | checkpoint (content : TaskCheckpoint D)
  | closed (surfaces : List (String × String)) (evidenceRefs blockers : List String)
      (claimCeiling nextFrontier lifecycleEvidenceDigest : String)
  deriving DecidableEq

/-- An event before it is chained. -/
structure TaskBody (D : Type) where
  eventId : String
  taskId : String
  payload : TaskPayload D
  deriving DecidableEq

abbrev TaskEvent (D : Type) := Entry (TaskBody D) D

inductive TaskDocument (D : Type)
  | genesis
  | packet (p : TaskPacket)
  | subject (text : String)
  | event (sequence : Nat) (predecessor : D) (body : TaskBody D)

structure TaskRuntime (D : Type) where
  /-- `sha256_hex` of the canonical bytes of a document. -/
  sha256 : TaskDocument D → D
  py : Stdlib
  /-- Whether `int(value, 16)` parses. -/
  hexInteger : String → Bool

variable (rt : TaskRuntime D)

/-- `packet_digest` of a packet that validates. -/
def packetDigest (p : TaskPacket) : D := rt.sha256 (.packet p)

/-- `_require_digest`. -/
def requireTaskDigest (label value : String) : Except Failure String :=
  if value.length ≠ 64 then .error (taskError s!"{label} must be an exact SHA-256 digest")
  else if rt.hexInteger value then .ok value.toLower
  else .error (taskError s!"{label} must be hexadecimal")

/-! ## The state of a task -/

def taskDependencyKinds : List String := ["EFFECT", "COORDINATION_COMMAND", "PROVIDER_EFFECT"]

structure TaskDependency (D : Type) where
  dependencyId : String
  kind : String
  targetId : String
  eventDigest : D
  deriving DecidableEq

structure TaskDependencyCancellation (D : Type) where
  dependencyId : String
  reason : String
  eventDigest : D
  deriving DecidableEq

/-- `TASK_DELEGATION_STATUSES`. -/
inductive DelegationStatus
  | active | returned | cancelled
  deriving DecidableEq, Repr

structure TaskDelegation (D : Type) where
  delegationId : String
  repository : String
  ref : String
  subject : String
  assigneeRef : String
  allowedEffects : List String
  prohibitedEffects : List String
  returnShape : List String
  evidenceRefs : List String
  status : DelegationStatus
  terminalSummary : Option String
  terminalEvidenceRefs : List String
  returnValues : Option (List (String × String))
  eventDigest : D
  deriving DecidableEq

def TaskDelegation.active (d : TaskDelegation D) : Bool := d.status = .active

def TaskDelegation.scopeKey (d : TaskDelegation D) : String × String × String :=
  (d.repository, d.ref, d.subject)

structure TaskCorrection (D : Type) where
  correctionId : String
  summary : String
  obsoleteRoute : String
  requiredChange : String
  currentOwnerRef : String
  provenanceRefs : List String
  eventDigest : D
  deriving DecidableEq

structure TaskCloseout (D : Type) where
  closeoutId : String
  surfaces : List (String × String)
  evidenceRefs : List String
  blockers : List String
  claimCeiling : String
  nextFrontier : String
  lifecycleEvidenceDigest : String
  eventDigest : D
  deriving DecidableEq

/-- What `read` has folded the events of a task into. -/
structure TaskHistory (D : Type) where
  packet : TaskPacket
  openedLifecycleEvidenceDigest : String
  latestCheckpoint : Option (TaskCheckpoint D)
  dependencies : List (TaskDependency D)
  dependencyCancellations : List (TaskDependencyCancellation D)
  delegations : List (TaskDelegation D)
  corrections : List (TaskCorrection D)
  unresolvedCorrectionIds : List String
  closeout : Option (TaskCloseout D)
  deriving DecidableEq

structure TaskState (D : Type) extends TaskHistory D where
  taskId : String
  journalHeadDigest : D
  deriving DecidableEq

namespace TaskHistory

def closed (h : TaskHistory D) : Bool := h.closeout.isSome

def cancelledDependencyIds (h : TaskHistory D) : List String :=
  h.dependencyCancellations.map fun c => c.dependencyId

def activeDependencies (h : TaskHistory D) : List (TaskDependency D) :=
  h.dependencies.filter fun d => d.dependencyId ∉ h.cancelledDependencyIds

def activeDelegations (h : TaskHistory D) : List (TaskDelegation D) :=
  h.delegations.filter fun d => d.active

def delegation? (h : TaskHistory D) (delegationId : String) : Option (TaskDelegation D) :=
  h.delegations.find? fun d => d.delegationId = delegationId

def delegation (h : TaskHistory D) (delegationId : String) :
    Except Failure (TaskDelegation D) :=
  match h.delegation? delegationId with
  | some d => .ok d
  | none => .error ⟨.keyError, delegationId⟩

def setDelegation (h : TaskHistory D) (d : TaskDelegation D) : TaskHistory D :=
  { h with delegations := h.delegations.map fun x =>
      if x.delegationId = d.delegationId then d else x }

end TaskHistory

end VeraMono
