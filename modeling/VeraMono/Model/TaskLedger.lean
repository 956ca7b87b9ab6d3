import VeraMono.Model.Ledgers
import VeraMono.Model.TaskExecution

/-!
# Reading and appending task events

Each event type has its rule in the fold of `read`, written against what was
folded before it. `verifyChain` checks the whole log; `append` files one event.
-/

namespace VeraMono

open Framework

variable {D : Type} [DecidableEq D] (rt : TaskRuntime D)

/-- How Python prints a string, and a list of them. -/
def pyText (py : Stdlib) (value : String) : String := py.repr (.str (.valid value))

def pyList (py : Stdlib) (values : List String) : String :=
  py.repr (.list (values.map fun value => .str (.valid value)))

/-- Two lists with the same elements. -/
def SameKeys (xs ys : List String) : Prop := (∀ x ∈ xs, x ∈ ys) ∧ ∀ y ∈ ys, y ∈ xs

instance (xs ys : List String) : Decidable (SameKeys xs ys) := by
  unfold SameKeys; infer_instance

def valueOf (values : List (String × String)) (key : String) : String :=
  (values.lookup key).getD ""

def validateSurfaces (packet : TaskPacket) (surfaces : List (String × String)) :
    Except Failure (List (String × String)) :=
  let expected := packet.relevantSurfaces
  let observed := surfaces.map Prod.fst
  if ¬ SameKeys observed expected then
    let missing := (sortedSet expected).filter fun s => s ∉ observed
    let extra := (sortedSet observed).filter fun s => s ∉ expected
    .error (taskError ("closeout surfaces do not match task packet; " ++
      s!"missing={pyList rt.py missing}, extra={pyList rt.py extra}"))
  else
    match expected.find? fun s => valueOf surfaces s ∉ closeoutStates ∨
        valueOf surfaces s = "pending" with
    | some s =>
      if valueOf surfaces s ∉ closeoutStates then
        .error (taskError
          s!"invalid closeout state for {s}: {pyText rt.py (valueOf surfaces s)}")
      else .error (taskError s!"relevant closeout surface remains pending: {s}")
    | none => .ok (expected.map fun s => (s, valueOf surfaces s))

/-- `{key: _require_text(values[key]) for key in shape}`. -/
def shapedValues (shape : List String) (values : List (String × String)) :
    Except Failure (List (String × String)) :=
  match shape.find? fun key => !nonblank (valueOf values key) with
  | some key => .error (taskError s!"return_values[{key}] must be a non-empty exact string")
  | none => .ok (shape.eraseDups.map fun key => (key, valueOf values key))

/-! ## The fold -/

def requirePacket (h : TaskHistory D) (subjectLabel label subject : String) (digest : D) :
    Except Failure Unit :=
  if subject ≠ h.packet.subject then
    .error (taskError s!"{subjectLabel} diverges from task packet")
  else if digest ≠ packetDigest rt h.packet then
    .error (taskError s!"{label} packet digest mismatch")
  else .ok ()

/-- A binding repeats the packet and the delegation as it stands. -/
def BoundTo (h : TaskHistory D) (d : TaskDelegation D) (b : DelegationBinding D) : Prop :=
  b = ⟨b.delegationId, h.packet.subject, packetDigest rt h.packet, d.repository, d.ref, d.subject,
    d.assigneeRef⟩

instance (h : TaskHistory D) (d : TaskDelegation D) (b : DelegationBinding D) :
    Decidable (BoundTo rt h d b) := by unfold BoundTo; infer_instance

/-- The active delegation that an event of its life presupposes. -/
def activePredecessor (h : TaskHistory D) (label delegationId : String) :
    Except Failure (TaskDelegation D) :=
  match h.delegation? delegationId with
  | none => .error (taskError s!"delegation {label} lacks active predecessor")
  | some d =>
    if d.active then .ok d else .error (taskError s!"delegation {label} lacks active predecessor")

def openEvent (e : TaskEvent D) : Except Failure (TaskHistory D) :=
  match e.body.payload with
  | .opened packet digest lifecycleEvidenceDigest => do
    packet.validate
    if digest ≠ packetDigest rt packet then throw (taskError "task packet digest mismatch")
    let opened ← requireTaskDigest rt "opened lifecycle evidence digest" lifecycleEvidenceDigest
    return ⟨packet, opened, none, [], [], [], [], [], none⟩
  | _ => .error (taskError "task history does not begin with TASK_OPENED")

def foldDependency (h : TaskHistory D) (eventDigest : D) (dependencyId subject : String)
    (digest : D) (kind targetId : String) : Except Failure (TaskHistory D) := do
  let _ ← requireTaskText "dependency_id" dependencyId
  requirePacket rt h "dependency subject" "dependency" subject digest
  let _ ← requireTaskText "dependency kind" kind
  if kind ∉ taskDependencyKinds then
    throw (taskError s!"unsupported persisted task dependency kind: {pyText rt.py kind}")
  let _ ← requireTaskText "dependency target_id" targetId
  if ∃ d ∈ h.dependencies, d.dependencyId = dependencyId then
    throw (taskError "duplicate dependency identity in task history")
  if ∃ d ∈ h.dependencies, d.kind = kind ∧ d.targetId = targetId then
    throw (taskError "duplicate dependency target in task history")
  return { h with dependencies := h.dependencies ++ [⟨dependencyId, kind, targetId, eventDigest⟩] }

def foldDependencyCancelled (h : TaskHistory D) (eventDigest : D) (dependencyId subject : String)
    (digest : D) (kind targetId reason : String) : Except Failure (TaskHistory D) := do
  let _ ← requireTaskText "dependency_id" dependencyId
  requirePacket rt h "dependency cancellation subject" "dependency cancellation" subject digest
  match h.dependencies.find? fun d => d.dependencyId = dependencyId with
  | none => throw (taskError "dependency cancellation appears before binding")
  | some d =>
    if dependencyId ∈ h.cancelledDependencyIds then
      throw (taskError "duplicate dependency cancellation in task history")
    if kind ≠ d.kind ∨ targetId ≠ d.targetId then
      throw (taskError "dependency cancellation target binding mismatch")
    let _ ← requireTaskText "dependency cancellation reason" reason
    return { h with dependencyCancellations :=
      h.dependencyCancellations ++ [⟨dependencyId, reason, eventDigest⟩] }

def foldDelegated (h : TaskHistory D) (eventDigest : D) (b : DelegationBinding D)
    (allowedEffects prohibitedEffects returnShape evidenceRefs : List String) :
    Except Failure (TaskHistory D) := do
  let _ ← requireTaskText "delegation_id" b.delegationId
  requirePacket rt h "delegation task subject" "delegation" b.taskSubject b.packetDigest
  if (h.delegation? b.delegationId).isSome then
    throw (taskError "duplicate delegation identity in task history")
  let allowed ← requireTexts "allowed_effects" allowedEffects
  let prohibited ← requireTexts "prohibited_effects" prohibitedEffects
  if ∃ effect ∈ allowed, effect ∈ prohibited then
    throw (taskError "persisted delegation has conflicting effect policy")
  let returns ← requireTexts "return_shape" returnShape
  let evidence ← requireTexts "evidence_refs" evidenceRefs
  if returns = [] ∨ evidence = [] then
    throw (taskError "persisted delegation lacks return shape or evidence")
  let repository ← requireTaskText "delegation repository" b.repository
  let ref ← requireTaskText "delegation ref" b.ref
  let subject ← requireTaskText "delegation subject" b.subject
  let assigneeRef ← requireTaskText "delegation assignee_ref" b.assigneeRef
  return { h with delegations := h.delegations ++
    [⟨b.delegationId, repository, ref, subject, assigneeRef, allowed, prohibited, returns, evidence,
      .active, none, [], none, eventDigest⟩] }

def foldReassigned (h : TaskHistory D) (eventDigest : D) (b : DelegationBinding D)
    (newAssigneeRef : String) (evidenceRefs : List String) : Except Failure (TaskHistory D) := do
  let _ ← requireTaskText "delegation_id" b.delegationId
  let d ← activePredecessor h "reassignment" b.delegationId
  if ¬ BoundTo rt h d b then throw (taskError "delegation reassignment binding mismatch")
  let newAssignee ← requireTaskText "new_assignee_ref" newAssigneeRef
  if newAssignee = d.assigneeRef then
    throw (taskError "persisted delegation reassignment did not change assignee")
  let evidence ← requireTexts "evidence_refs" evidenceRefs
  if evidence = [] then throw (taskError "persisted delegation reassignment lacks evidence")
  return h.setDelegation { d with
    assigneeRef := newAssignee
    evidenceRefs := (d.evidenceRefs ++ evidence).eraseDups
    status := .active
    terminalSummary := none
    terminalEvidenceRefs := []
    returnValues := none
    eventDigest }

def foldReturned (h : TaskHistory D) (eventDigest : D) (b : DelegationBinding D) (summary : String)
    (returnValues : List (String × String)) (resultEvidenceRefs : List String) :
    Except Failure (TaskHistory D) := do
  let _ ← requireTaskText "delegation_id" b.delegationId
  let d ← activePredecessor h "terminal event" b.delegationId
  if ¬ BoundTo rt h d b then throw (taskError "delegation terminal binding mismatch")
  let summary ← requireTaskText "delegation return summary" summary
  if ¬ SameKeys (returnValues.map Prod.fst) d.returnShape then
    throw (taskError "persisted delegation return values do not match return shape")
  let values ← shapedValues d.returnShape returnValues
  let evidence ← requireTexts "result_evidence_refs" resultEvidenceRefs
  if evidence = [] then throw (taskError "delegation terminal event lacks evidence")
  return h.setDelegation { d with
    status := .returned
    terminalSummary := some summary
    terminalEvidenceRefs := evidence
    returnValues := some values
    eventDigest }

def foldDelegationCancelled (h : TaskHistory D) (eventDigest : D) (b : DelegationBinding D)
    (reason : String) (evidenceRefs : List String) : Except Failure (TaskHistory D) := do
  let _ ← requireTaskText "delegation_id" b.delegationId
  let d ← activePredecessor h "terminal event" b.delegationId
  if ¬ BoundTo rt h d b then throw (taskError "delegation terminal binding mismatch")
  let reason ← requireTaskText "delegation cancellation reason" reason
  let evidence ← requireTexts "evidence_refs" evidenceRefs
  if evidence = [] then throw (taskError "delegation terminal event lacks evidence")
  return h.setDelegation { d with
    status := .cancelled
    terminalSummary := some reason
    terminalEvidenceRefs := evidence
    returnValues := none
    eventDigest }

def foldCorrection (h : TaskHistory D) (correctionId subject : String) (digest : D)
    (c : TaskCorrection D) : Except Failure (TaskHistory D) := do
  let _ ← requireTaskText "correction_id" correctionId
  requirePacket rt h "correction subject" "correction" subject digest
  let _ ← requireTaskText "correction summary" c.summary
  let _ ← requireTaskText "obsolete_route" c.obsoleteRoute
  let _ ← requireTaskText "required_change" c.requiredChange
  let _ ← requireTaskText "current_owner_ref" c.currentOwnerRef
  let refs ← requireTexts "provenance_refs" c.provenanceRefs
  if refs = [] then throw (taskError "persisted correction lacks provenance refs")
  if ∃ c' ∈ h.corrections, c'.correctionId = correctionId then
    throw (taskError "duplicate correction identity in task history")
  return { h with
    corrections := h.corrections ++ [c]
    unresolvedCorrectionIds := h.unresolvedCorrectionIds ++ [correctionId] }

/-- What a checkpoint says of the corrections it addresses. -/
def TaskCheckpoint.responses (c : TaskCheckpoint D) : List String :=
  [c.methodChange, c.regressionGuard, c.blockerClassification].filterMap id

def foldCheckpoint (h : TaskHistory D) (c : TaskCheckpoint D) :
    Except Failure (TaskHistory D) := do
  let addressed ← requireTexts "correction_ids_addressed" c.correctionIdsAddressed
  if ∃ id ∈ addressed, id ∉ h.unresolvedCorrectionIds then
    throw (taskError "checkpoint addresses non-unresolved correction")
  if ∃ id ∈ h.unresolvedCorrectionIds, id ∉ addressed then
    throw (taskError "checkpoint failed correction recurrence gate")
  if addressed ≠ [] ∧ ¬ c.responses.any nonblank then
    throw (taskError ("checkpoint correction response is missing changed method, regression " ++
      "guard, or blocker classification"))
  return { h with
    unresolvedCorrectionIds := h.unresolvedCorrectionIds.filter fun id => id ∉ addressed
    latestCheckpoint := some c }

def foldClosed (h : TaskHistory D) (e : TaskEvent D) (surfaces : List (String × String))
    (evidenceRefs blockers : List String)
    (claimCeiling nextFrontier lifecycleEvidenceDigest : String) :
    Except Failure (TaskHistory D) := do
  let surfaces ← validateSurfaces rt h.packet surfaces
  if blockers ≠ [] then throw (taskError "persisted closed task contains blockers")
  let digest ← requireTaskDigest rt "closeout lifecycle evidence digest" lifecycleEvidenceDigest
  return { h with closeout := some ⟨splitLast ":CLOSE:" e.body.eventId, surfaces, evidenceRefs,
    blockers, claimCeiling, nextFrontier, digest, e.digest⟩ }

/-- One round of the loop of `read`. -/
def foldEvent (h : TaskHistory D) (e : TaskEvent D) : Except Failure (TaskHistory D) :=
  if h.closed then .error (taskError "task history continues after TASK_CLOSED")
  else match e.body.payload with
  | .opened .. => .error (taskError "unexpected task event type: TASK_OPENED")
  | .dependency id subject digest kind targetId =>
    foldDependency rt h e.digest id subject digest kind targetId
  | .dependencyCancelled id subject digest kind targetId reason =>
    foldDependencyCancelled rt h e.digest id subject digest kind targetId reason
  | .delegated b allowed prohibited shape refs =>
    foldDelegated rt h e.digest b allowed prohibited shape refs
  | .delegationReassigned b newAssignee refs => foldReassigned rt h e.digest b newAssignee refs
  | .delegationReturned b summary values refs => foldReturned rt h e.digest b summary values refs
  | .delegationCancelled b reason refs => foldDelegationCancelled rt h e.digest b reason refs
  | .correction id subject digest summary route change owner refs =>
    foldCorrection rt h id subject digest ⟨id, summary, route, change, owner, refs, e.digest⟩
  | .checkpoint c => foldCheckpoint h c
  | .closed surfaces refs blockers ceiling frontier digest =>
    foldClosed rt h e surfaces refs blockers ceiling frontier digest

/-! ## The log -/

/-- The ledger files an event under its id. -/
def taskChain : Chaining (TaskBody D) D String (String × TaskPayload D) where
  key b := b.eventId
  payload b := (b.taskId, b.payload)
  digest n d b := rt.sha256 (.event n d b)
  genesis := rt.sha256 .genesis

abbrev TaskLedger (D : Type) := ChainLog (TaskBody D) D

/-- The task ids that `verify_chain` has seen opened and closed. -/
structure TaskMarks where
  opened : List String
  closed : List String

/-- What `verify_chain` checks of an event besides its chaining. -/
def checkEvent (m : TaskMarks) (b : TaskBody D) : Except Failure TaskMarks :=
  if b.taskId ∈ m.closed then
    .error (taskError "task journal contains event after closeout")
  else match b.payload with
  | .opened .. =>
    if b.taskId ∈ m.opened then .error (taskError "task contains multiple open events")
    else .ok { m with opened := b.taskId :: m.opened }
  | .closed .. =>
    if b.taskId ∈ m.opened then .ok { m with closed := b.taskId :: m.closed }
    else .error (taskError "task event appears before TASK_OPENED")
  | _ =>
    if b.taskId ∈ m.opened then .ok m
    else .error (taskError "task event appears before TASK_OPENED")

/-- The message of each fault `verify_chain` finds. -/
def taskVerifyFailure : VerifyFault Failure → Failure
  | .gap => taskError "task journal sequence gap"
  | .predecessor => taskError "task journal predecessor digest mismatch"
  | .extra f => f
  | .digest => taskError "task journal event digest mismatch"
  | .metaSequence => taskError "task journal meta sequence mismatch"
  | .metaHead => taskError "task journal meta head mismatch"

/-- The payload as `canonical_json` stores it: return values are strings under keys
of the caller's choice, so a key may say that its value is a path or a timestamp. -/
def canonicalPayload : TaskPayload D → Except Failure (TaskPayload D)
  | .delegationReturned b summary values refs =>
    (sequence (values.map fun kv =>
      (normalizeString rt.py (keyHint kv.1) (.valid kv.2)).map fun v => (kv.1, v))).map
      fun values => .delegationReturned b summary values refs
  | p => .ok p

namespace TaskLedger

def verifyChain (log : TaskLedger D) : Except Failure D :=
  match (taskChain rt).verify checkEvent ⟨[], []⟩ log.entries log.sequence log.head with
  | .ok head => .ok head
  | .error f => .error (taskVerifyFailure f)

/-- `events(task_id)`. -/
def events (taskId : String) (log : TaskLedger D) : List (TaskEvent D) :=
  log.entries.filter fun e => e.body.taskId = taskId

/-- What `read` folds the events of a task into. -/
def history (taskId : String) (log : TaskLedger D) : Except Failure (TaskHistory D) :=
  match events taskId log with
  | [] => .error ⟨.keyError, taskId⟩
  | e :: es => do
    let h ← openEvent rt e
    es.foldlM (foldEvent rt) h

def read (taskId : String) (log : TaskLedger D) : Except Failure (TaskState D) := do
  let h ← history rt taskId log
  let head ← verifyChain rt log
  return { h with
    unresolvedCorrectionIds := h.unresolvedCorrectionIds.insertionSort (· ≤ ·)
    taskId
    journalHeadDigest := head }

def taskIds (log : TaskLedger D) : List String :=
  sortedSet (log.entries.map fun e => e.body.taskId)

def tasks (log : TaskLedger D) : Except Failure (List (TaskState D)) := do
  let _ ← verifyChain rt log
  sequence ((taskIds log).map fun taskId => read rt taskId log)

def append (event : TaskBody D) (log : TaskLedger D) :
    Except Failure (TaskEvent D × TaskLedger D) := do
  let _ ← requireTaskText "event_id" event.eventId
  let _ ← requireTaskText "task_id" event.taskId
  let payload ← canonicalPayload rt event.payload
  match (taskChain rt).append log { event with payload } with
  | .ok r => .ok r
  | .error .replay => .error (taskError "task event id replay carries different evidence")
  | .error .conflict => .error (integrityError "events.event_digest")

end TaskLedger

end VeraMono
