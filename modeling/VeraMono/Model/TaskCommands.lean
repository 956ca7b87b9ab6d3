import VeraMono.Model.TaskLedger

/-!
# The commands of the task ledger

Each command reads the task, checks its arguments and the state, and decides on
one event; `TaskCommand.run` files that event and reads the task again. An event
id is made of the arguments alone, so a command that repeats an earlier one word
for word is answered from the event there is.
-/

namespace VeraMono

open Framework

variable {D : Type}

/-- What a command decides: the state it answers with at once, or the event it files. -/
inductive Decision (D : Type)
  | answer (state : TaskState D)
  | file (event : TaskBody D)

variable [DecidableEq D] (rt : TaskRuntime D)

namespace TaskLedger

def openTask (taskId : String) (packet : TaskPacket) (lifecycleEvidenceDigest : String)
    (log : TaskLedger D) : Except Failure (Decision D) := do
  packet.validate
  let _ ← requireTaskText "task_id" taskId
  let _ ← requireTaskDigest rt "lifecycle_evidence_digest" lifecycleEvidenceDigest
  match events taskId log with
  | ⟨_, ⟨_, _, .opened ..⟩, _, _⟩ :: _ | [] =>
    return .file ⟨s!"{taskId}:OPEN", taskId,
      .opened packet (packetDigest rt packet) lifecycleEvidenceDigest⟩
  | _ => throw (taskError "task history does not begin with TASK_OPENED")

def bindDependency (taskId dependencyId kind targetId : String) (log : TaskLedger D) :
    Except Failure (Decision D) := do
  let state ← read rt taskId log
  if state.closed then throw (taskError "closed task cannot accept dependency")
  let _ ← requireTaskText "dependency_id" dependencyId
  let _ ← requireTaskText "target_id" targetId
  if kind ∉ taskDependencyKinds then
    throw (taskError s!"unsupported task dependency kind: {pyText rt.py kind}")
  match state.dependencies.find? fun d => d.dependencyId = dependencyId with
  | some existing =>
    if existing.kind ≠ kind ∨ existing.targetId ≠ targetId then
      throw (taskError "task dependency identity is already bound differently")
    return .answer state
  | none =>
    if ∃ d ∈ state.dependencies, d.kind = kind ∧ d.targetId = targetId then
      throw (taskError "task dependency target is already bound")
    let states ← tasks rt log
    let owners := states.flatMap fun other =>
      if other.taskId = taskId then []
      else (other.dependencies.filter fun d => d.kind = kind ∧ d.targetId = targetId).map
        fun d => (other.taskId, d.dependencyId)
    match owners with
    | (owner, ownerDependency) :: _ =>
      throw (taskError s!"task dependency target is already owned by {owner}:{ownerDependency}")
    | [] =>
      return .file ⟨s!"{taskId}:DEPENDENCY:{dependencyId}", taskId,
        .dependency dependencyId state.packet.subject (packetDigest rt state.packet) kind targetId⟩

def cancelDependency (taskId dependencyId reason : String) (log : TaskLedger D) :
    Except Failure (Decision D) := do
  let state ← read rt taskId log
  if state.closed then throw (taskError "closed task cannot cancel dependency")
  let _ ← requireTaskText "dependency_id" dependencyId
  let _ ← requireTaskText "reason" reason
  match state.activeDependencies.find? fun d => d.dependencyId = dependencyId with
  | none => throw (taskError "task dependency is not active")
  | some d =>
    return .file ⟨s!"{taskId}:DEPENDENCY_CANCELLED:{dependencyId}", taskId,
      .dependencyCancelled dependencyId state.packet.subject (packetDigest rt state.packet) d.kind
        d.targetId reason⟩

def delegateWork (taskId delegationId repository ref subject assigneeRef : String)
    (allowedEffects prohibitedEffects returnShape evidenceRefs : List String)
    (log : TaskLedger D) : Except Failure (Decision D) := do
  let state ← read rt taskId log
  if state.closed then throw (taskError "closed task cannot delegate work")
  let _ ← requireTaskText "delegation_id" delegationId
  let _ ← requireTaskText "repository" repository
  let _ ← requireTaskText "ref" ref
  let _ ← requireTaskText "delegated subject" subject
  let _ ← requireTaskText "assignee_ref" assigneeRef
  let _ ← requireTexts "allowed_effects" allowedEffects
  let _ ← requireTexts "prohibited_effects" prohibitedEffects
  let _ ← requireTexts "return_shape" returnShape
  let _ ← requireTexts "evidence_refs" evidenceRefs
  if returnShape = [] then throw (taskError "delegation requires an explicit return shape")
  if evidenceRefs = [] then throw (taskError "delegation requires binding evidence refs")
  let overlap := (sortedSet allowedEffects).filter fun effect => effect ∈ prohibitedEffects
  if overlap ≠ [] then
    throw (taskError ("delegation effect is both allowed and prohibited: " ++
      ", ".intercalate overlap))
  if (state.delegation? delegationId).isSome then
    throw (taskError "delegation identity is already used by this task")
  let states ← tasks rt log
  let owners := states.flatMap fun other =>
    (other.activeDelegations.filter fun d => d.scopeKey = (repository, ref, subject)).map
      fun d => (other.taskId, d)
  match owners with
  | (owner, d) :: _ =>
    throw (taskError ("delegated subject is already owned by " ++
      s!"{owner}:{d.delegationId}:{d.assigneeRef}"))
  | [] =>
    return .file ⟨s!"{taskId}:DELEGATED:{delegationId}", taskId,
      .delegated ⟨delegationId, state.packet.subject, packetDigest rt state.packet, repository, ref,
        subject, assigneeRef⟩ allowedEffects prohibitedEffects returnShape evidenceRefs⟩

/-- The active delegation that a command is about; `verb` says what it may be. -/
def activeDelegation (state : TaskState D) (delegationId verb : String) :
    Except Failure (TaskDelegation D) := do
  let d ← state.delegation delegationId
  if ¬ d.active then throw (taskError s!"only active delegation may be {verb}")
  return d

/-- What an event of a delegation's life repeats. -/
def bindingOf (state : TaskState D) (d : TaskDelegation D) : DelegationBinding D :=
  ⟨d.delegationId, state.packet.subject, packetDigest rt state.packet, d.repository, d.ref,
    d.subject, d.assigneeRef⟩

def reassignDelegation (taskId delegationId reassignmentId newAssigneeRef : String)
    (evidenceRefs : List String) (log : TaskLedger D) : Except Failure (Decision D) := do
  let state ← read rt taskId log
  if state.closed then throw (taskError "closed task cannot reassign delegation")
  let d ← activeDelegation state delegationId "reassigned"
  let _ ← requireTaskText "reassignment_id" reassignmentId
  let _ ← requireTaskText "new_assignee_ref" newAssigneeRef
  if newAssigneeRef = d.assigneeRef then
    throw (taskError "delegation reassignment must change assignee")
  let _ ← requireTexts "evidence_refs" evidenceRefs
  if evidenceRefs = [] then
    throw (taskError "delegation reassignment requires evidence refs")
  return .file ⟨s!"{taskId}:DELEGATION_REASSIGNED:{delegationId}:{reassignmentId}", taskId,
    .delegationReassigned (bindingOf rt state d) newAssigneeRef evidenceRefs⟩

def returnDelegation (taskId delegationId returnId summary : String)
    (returnValues : List (String × String)) (resultEvidenceRefs : List String)
    (log : TaskLedger D) : Except Failure (Decision D) := do
  let state ← read rt taskId log
  if state.closed then throw (taskError "closed task cannot accept delegation return")
  let d ← activeDelegation state delegationId "returned"
  let _ ← requireTaskText "return_id" returnId
  let _ ← requireTaskText "delegation return summary" summary
  let observed := returnValues.map Prod.fst
  if ¬ SameKeys observed d.returnShape then
    let missing := (sortedSet d.returnShape).filter fun key => key ∉ observed
    let extra := (sortedSet observed).filter fun key => key ∉ d.returnShape
    throw (taskError ("delegation return values do not match return shape; " ++
      s!"missing={pyList rt.py missing}, extra={pyList rt.py extra}"))
  let values ← shapedValues d.returnShape returnValues
  let _ ← requireTexts "result_evidence_refs" resultEvidenceRefs
  if resultEvidenceRefs = [] then
    throw (taskError "delegation return requires result evidence refs")
  return .file ⟨s!"{taskId}:DELEGATION_RETURNED:{delegationId}:{returnId}", taskId,
    .delegationReturned (bindingOf rt state d) summary values resultEvidenceRefs⟩

def cancelDelegation (taskId delegationId cancellationId reason : String)
    (evidenceRefs : List String) (log : TaskLedger D) : Except Failure (Decision D) := do
  let state ← read rt taskId log
  if state.closed then throw (taskError "closed task cannot cancel delegation")
  let d ← activeDelegation state delegationId "cancelled"
  let _ ← requireTaskText "cancellation_id" cancellationId
  let _ ← requireTaskText "delegation cancellation reason" reason
  let _ ← requireTexts "evidence_refs" evidenceRefs
  if evidenceRefs = [] then
    throw (taskError "delegation cancellation requires evidence refs")
  return .file ⟨s!"{taskId}:DELEGATION_CANCELLED:{delegationId}:{cancellationId}", taskId,
    .delegationCancelled (bindingOf rt state d) reason evidenceRefs⟩

def recordCorrection (taskId correctionId summary obsoleteRoute requiredChange
    currentOwnerRef : String) (provenanceRefs : List String) (log : TaskLedger D) :
    Except Failure (Decision D) := do
  let state ← read rt taskId log
  if state.closed then throw (taskError "closed task cannot accept correction")
  let _ ← requireTaskText "correction_id" correctionId
  let _ ← requireTaskText "summary" summary
  let _ ← requireTaskText "obsolete_route" obsoleteRoute
  let _ ← requireTaskText "required_change" requiredChange
  let _ ← requireTaskText "current_owner_ref" currentOwnerRef
  let _ ← requireTexts "provenance_refs" provenanceRefs
  if provenanceRefs = [] then
    throw (taskError "correction lineage requires provenance_refs")
  return .file ⟨s!"{taskId}:CORRECTION:{correctionId}", taskId,
    .correction correctionId state.packet.subject (packetDigest rt state.packet) summary
      obsoleteRoute requiredChange currentOwnerRef provenanceRefs⟩

def requireOptionalText (label : String) : Option String → Except Failure Unit
  | none => .ok ()
  | some value => (requireTaskText label value).map fun _ => ()

/-- The arguments of `checkpoint` that its event repeats. -/
structure CheckpointContent where
  completedEvidence : List String
  blockers : List String
  protectedEffectsStillGated : List String
  nextFrontier : String
  lifecycleEvidenceDigest : String
  correctionIdsAddressed : List String
  methodChange : Option String
  regressionGuard : Option String
  blockerClassification : Option String

/-- The checkpoint that a call submits for a task with a packet. -/
def CheckpointContent.submitted (c : CheckpointContent) (packet : TaskPacket) : TaskCheckpoint D where
  subject := packet.subject
  subjectDigest := rt.sha256 (.subject packet.subject)
  completedEvidence := c.completedEvidence
  blockers := c.blockers
  protectedEffectsStillGated := c.protectedEffectsStillGated
  nextFrontier := c.nextFrontier
  correctionIdsAddressed := c.correctionIdsAddressed
  methodChange := c.methodChange
  regressionGuard := c.regressionGuard
  blockerClassification := c.blockerClassification
  lifecycleEvidenceDigest := c.lifecycleEvidenceDigest

def checkpoint (taskId checkpointId : String) (c : CheckpointContent) (log : TaskLedger D) :
    Except Failure (Decision D) := do
  let state ← read rt taskId log
  if state.closed then throw (taskError "closed task cannot accept checkpoint")
  let _ ← requireTaskText "checkpoint_id" checkpointId
  let _ ← requireTaskText "next_frontier" c.nextFrontier
  let _ ← requireTaskDigest rt "lifecycle_evidence_digest" c.lifecycleEvidenceDigest
  let addressed ← requireTexts "correction_ids_addressed" c.correctionIdsAddressed
  if ∃ id ∈ addressed, id ∉ state.unresolvedCorrectionIds then
    throw (taskError "checkpoint addresses correction that is not unresolved")
  if ∃ id ∈ state.unresolvedCorrectionIds, id ∉ addressed then
    throw (taskError ("next checkpoint after correction must address all unresolved " ++
      "corrections"))
  requireOptionalText "method_change" c.methodChange
  requireOptionalText "regression_guard" c.regressionGuard
  requireOptionalText "blocker_classification" c.blockerClassification
  let submitted := c.submitted rt state.packet
  if addressed ≠ [] ∧ ¬ submitted.responses.any (· ≠ "") then
    throw (taskError ("correction recurrence requires method change, regression guard, or " ++
      "blocker classification"))
  let _ ← requireTexts "completed_evidence" c.completedEvidence
  let _ ← requireTexts "blockers" c.blockers
  let _ ← requireTexts "protected_effects_still_gated" c.protectedEffectsStillGated
  return .file ⟨s!"{taskId}:CHECKPOINT:{checkpointId}", taskId, .checkpoint submitted⟩

def closeTask (taskId closeoutId : String) (surfaces : List (String × String))
    (evidenceRefs blockers : List String)
    (claimCeiling nextFrontier lifecycleEvidenceDigest : String) (log : TaskLedger D) :
    Except Failure (Decision D) := do
  let state ← read rt taskId log
  if state.closed then throw (taskError "task is already closed")
  if state.unresolvedCorrectionIds ≠ [] then
    throw (taskError ("task has unresolved correction recurrence gate: " ++
      ", ".intercalate state.unresolvedCorrectionIds))
  if state.activeDelegations ≠ [] then
    throw (taskError ("task has active delegated subjects: " ++
      ", ".intercalate (state.activeDelegations.map fun d => d.delegationId)))
  let _ ← requireTaskText "closeout_id" closeoutId
  let _ ← requireTaskText "claim_ceiling" claimCeiling
  let _ ← requireTaskText "next_frontier" nextFrontier
  let _ ← requireTaskDigest rt "lifecycle_evidence_digest" lifecycleEvidenceDigest
  let _ ← requireTexts "evidence_refs" evidenceRefs
  if evidenceRefs = [] then
    throw (taskError "task closeout requires executed/readback evidence")
  let _ ← requireTexts "blockers" blockers
  if blockers ≠ [] then throw (taskError "task with unresolved blockers cannot be closed")
  let normalized ← validateSurfaces rt state.packet surfaces
  return .file ⟨s!"{taskId}:CLOSE:{closeoutId}", taskId,
    .closed normalized evidenceRefs [] claimCeiling nextFrontier lifecycleEvidenceDigest⟩

/-- A delegation as one saw it: what its holder may act under. -/
structure TaskDelegationRef (D : Type) where
  taskId : String
  delegationId : String
  repository : String
  ref : String
  subject : String
  assigneeRef : String
  bindingEventDigest : D
  deriving DecidableEq

def delegationRef (state : TaskState D) (delegationId : String) :
    Except Failure (TaskDelegationRef D) := do
  let d ← state.delegation delegationId
  if ¬ d.active then throw ⟨.keyError, delegationId⟩
  return ⟨state.taskId, d.delegationId, d.repository, d.ref, d.subject, d.assigneeRef,
    d.eventDigest⟩

def validateDelegationRef (ref : TaskDelegationRef D) (actorRef : Option String)
    (log : TaskLedger D) : Except Failure (TaskDelegationRef D) := do
  requireOptionalText "actor_ref" actorRef
  let state ← read rt ref.taskId log
  if state.closed then throw (taskError "delegation reference belongs to closed task")
  match state.delegation? ref.delegationId with
  | none => throw (taskError "delegation reference is not known to task")
  | some d =>
    if ¬ d.active then throw (taskError "delegation reference is no longer active")
    let fields := [("repository", decide (ref.repository = d.repository)),
      ("ref", decide (ref.ref = d.ref)), ("subject", decide (ref.subject = d.subject)),
      ("assignee_ref", decide (ref.assigneeRef = d.assigneeRef)),
      ("binding_event_digest", decide (ref.bindingEventDigest = d.eventDigest))]
    match fields.find? fun field => !field.2 with
    | some (key, _) => throw (taskError s!"delegation reference is stale at field: {key}")
    | none =>
      if actorRef.any fun actor => actor ≠ d.assigneeRef then
        throw (taskError "actor does not own the active delegated subject")
      return ref

end TaskLedger

inductive TaskCommand
  | openTask (taskId : String) (packet : TaskPacket) (lifecycleEvidenceDigest : String)
  | bindDependency (taskId dependencyId kind targetId : String)
  | cancelDependency (taskId dependencyId reason : String)
  | delegateWork (taskId delegationId repository ref subject assigneeRef : String)
      (allowedEffects prohibitedEffects returnShape evidenceRefs : List String)
  | reassignDelegation (taskId delegationId reassignmentId newAssigneeRef : String)
      (evidenceRefs : List String)
  | returnDelegation (taskId delegationId returnId summary : String)
      (returnValues : List (String × String)) (resultEvidenceRefs : List String)
  | cancelDelegation (taskId delegationId cancellationId reason : String)
      (evidenceRefs : List String)
  | recordCorrection (taskId correctionId summary obsoleteRoute requiredChange
      currentOwnerRef : String) (provenanceRefs : List String)
  | checkpoint (taskId checkpointId : String) (content : TaskLedger.CheckpointContent)
  | closeTask (taskId closeoutId : String) (surfaces : List (String × String))
      (evidenceRefs blockers : List String)
      (claimCeiling nextFrontier lifecycleEvidenceDigest : String)

namespace TaskCommand

def taskId : TaskCommand → String
  | .openTask t .. | .bindDependency t .. | .cancelDependency t .. | .delegateWork t ..
  | .reassignDelegation t .. | .returnDelegation t .. | .cancelDelegation t ..
  | .recordCorrection t .. | .checkpoint t .. | .closeTask t .. => t

/-- A command up to the event it files. -/
def decision (log : TaskLedger D) : TaskCommand → Except Failure (Decision D)
  | .openTask t p d => TaskLedger.openTask rt t p d log
  | .bindDependency t i k g => TaskLedger.bindDependency rt t i k g log
  | .cancelDependency t i r => TaskLedger.cancelDependency rt t i r log
  | .delegateWork t i p r s a al pr sh ev =>
    TaskLedger.delegateWork rt t i p r s a al pr sh ev log
  | .reassignDelegation t i r a ev => TaskLedger.reassignDelegation rt t i r a ev log
  | .returnDelegation t i r s v ev => TaskLedger.returnDelegation rt t i r s v ev log
  | .cancelDelegation t i c r ev => TaskLedger.cancelDelegation rt t i c r ev log
  | .recordCorrection t i s o r w ev => TaskLedger.recordCorrection rt t i s o r w ev log
  | .checkpoint t i c => TaskLedger.checkpoint rt t i c log
  | .closeTask t i s ev b c n d => TaskLedger.closeTask rt t i s ev b c n d log

/-- A command: what it answers or raises, and the ledger it leaves. -/
def run (c : TaskCommand) (log : TaskLedger D) : Except Failure (TaskState D) × TaskLedger D :=
  match c.decision rt log with
  | .error e => (.error e, log)
  | .ok (.answer state) => (.ok state, log)
  | .ok (.file event) =>
    match TaskLedger.append rt event log with
    | .error e => (.error e, log)
    | .ok (_, log) => (TaskLedger.read rt c.taskId log, log)

/-- The ledger that a sequence of commands leaves. -/
def runAll (cs : List TaskCommand) : TaskLedger D :=
  cs.foldl (fun log c => (c.run rt log).2) (taskChain rt).empty

end TaskCommand

end VeraMono
