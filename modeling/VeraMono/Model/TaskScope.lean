import VeraMono.Model.PcExecutionBinding
import VeraMono.Model.TaskCommands

/-!
# Task-scoped calls

`invoke_task_coordination`, `prepare_task_provider_effect` and `prepare_task_pc_job` of the
qualified runtime. Each binds a dependency of the task to its target, does its work with a
reference to that dependency and, when the work raises before the target has started, cancels the
dependency.
-/

namespace VeraMono

open Framework

variable {D : Type}

structure ProviderExecutionBinding (D : Type) where
  effectId : String
  providerId : String
  operation : String
  requestDigest : String
  authoritySubject : String
  permit : AcceptedLifecyclePermit D
  taskDependency : Option TaskDependencyRef
  deriving DecidableEq

abbrev ProviderExecutionBindingStore (D : Type) := Table (ProviderExecutionBinding.effectId (D := D))

structure OutboundStores (D : Type) where
  vera : VeraState D
  pcBindings : PCExecutionBindingStore D
  providerBindings : ProviderExecutionBindingStore D

structure QualifiedState (D : Type) where
  outbound : OutboundStores D
  tasks : TaskLedger D

structure QualifiedRuntime (D : Type) where
  pc : PcRuntime D
  tasks : TaskRuntime D

variable [DecidableEq D] (Q : QualifiedRuntime D)

namespace QualifiedRuntime

/-! ## Dependencies -/

/-- `bindings_for_effect`, which decodes every row. -/
def bindingsForEffect (effectId : String) (t : PCExecutionBindingStore D) :
    Except Failure (List (PCExecutionBinding D)) := do
  if effectId = "" then
    throw (PCExecutionBindingStore.bindingError "effect_id must be a non-empty exact string")
  let rows ← t.rows.mapM (PCExecutionBindingStore.decode Q.pc)
  return rows.filter fun row => row.prepared.effectId = effectId

def taskDependencyTargetStarted (kind targetId : String) (o : OutboundStores D) : Except Failure Bool :=
  if kind = "EFFECT" then
    if (OutboundExecutionAudit.latest targetId o.vera.audit).isSome then .ok true
    else if (o.vera.fence.get? targetId).isSome then .ok true
    else if targetId.startsWith "pc:" then
      (bindingsForEffect Q targetId o.pcBindings).map fun rows => !rows.isEmpty
    else .ok false
  else if kind = "COORDINATION_COMMAND" then
    match CommandJournal.readBinding Q.pc.vera.hash targetId o.vera.commands with
    | .ok _ => .ok true
    | .error e => if e.kind = .keyError then .ok false else .error e
  else if kind = "PROVIDER_EFFECT" then .ok (o.providerBindings.get? targetId).isSome
  else .error (taskError s!"unsupported task dependency kind: {pyText Q.tasks.py kind}")

def bindTaskDependencyUnlocked (taskId dependencyId kind targetId : String) (s : QualifiedState D) :
    Except Failure (TaskState D) × QualifiedState D :=
  match TaskLedger.read Q.tasks taskId s.tasks with
  | .error e => (.error e, s)
  | .ok state =>
    if state.closed then (.error (taskError "closed task cannot accept dependency"), s)
    else match state.dependencies.find? fun d => d.dependencyId = dependencyId with
    | some existing =>
      if existing.kind ≠ kind ∨ existing.targetId ≠ targetId then
        (.error (taskError "task dependency identity is already bound differently"), s)
      else if dependencyId ∈ state.cancelledDependencyIds then
        (.error (taskError "cancelled task dependency identity cannot be reused"), s)
      else (.ok state, s)
    | none =>
      match taskDependencyTargetStarted Q kind targetId s.outbound with
      | .error e => (.error e, s)
      | .ok true => (.error (taskError ("task dependency cannot be bound after target execution " ++
          "or preparation has started")), s)
      | .ok false =>
        let bound := (TaskCommand.bindDependency taskId dependencyId kind targetId).run Q.tasks s.tasks
        (bound.1, { s with tasks := bound.2 })

def dependencyRef (state : TaskState D) (dependencyId : String) : Except Failure TaskDependencyRef :=
  match state.activeDependencies.find? fun d => d.dependencyId = dependencyId with
  | none => .error (keyError dependencyId)
  | some d => .ok ⟨state.taskId, d.dependencyId, d.kind, d.targetId, Q.pc.vera.hash.hex d.eventDigest⟩

def validateTaskDependencyRef (ref : TaskDependencyRef) (expectedKind expectedTargetId : String)
    (tasks : TaskLedger D) : Except Failure Unit := do
  let state ← TaskLedger.read Q.tasks ref.taskId tasks
  if state.closed then
    throw (taskError "task-bound outbound work cannot execute after task closeout")
  match state.activeDependencies.find? fun d => d.dependencyId = ref.dependencyId with
  | none => throw (taskError "task-bound outbound work references inactive dependency")
  | some active =>
    if active.kind ≠ expectedKind ∨ active.targetId ≠ expectedTargetId ∨ ref.kind ≠ active.kind ∨
        ref.targetId ≠ active.targetId ∨
        ref.bindingEventDigest ≠ Q.pc.vera.hash.hex active.eventDigest then
      throw (taskError "task dependency provenance does not match durable task binding")

/-! ## The work -/

/-- What a call does with the reference to its dependency; the task ledger it only reads. -/
abbrev Work (D α : Type) :=
  TaskDependencyRef → QualifiedState D → Except Failure α × OutboundStores D

/-- `accepted_permit`, and what is done with the permit. -/
def withPermit {α : Type} (s : QualifiedState D)
    (use : AcceptedLifecyclePermit D → OutboundStores D → Except Failure α × OutboundStores D) :
    Except Failure α × OutboundStores D :=
  let minted := (acceptedActionPermit Q.pc.vera).run s.outbound.vera
  let outbound := { s.outbound with vera := minted.2 }
  match minted.1 with
  | .error e => (.error e, outbound)
  | .ok permit => use permit outbound

def readCommands : List String := ["coordination_read_inbox", "entry_checkpoint"]

def writeCommands : List String :=
  ["coordination_post", "coordination_acknowledge", "coordination_publish_status",
    "coordination_request_review", "coordination_resolve_thread", "exit_checkpoint"]

/-- What `invoke` of the bus facade returns. -/
inductive Invoked (D : Type)
  | value (value : PyValue)
  | effect (result : OutboundEffectResult D)

/-- `LifecycleBoundCoordinationBus.invoke`; `implemented` says whether the bus has the command as a
method, and a read is not bound to its command id. -/
def invokeCommand (implemented : Bool) (args : InvokeArgs D) : Op D (Invoked D) := do
  if args.command ∉ readCommands ++ writeCommands then
    throw (actionError s!"unsupported lifecycle-bound coordination command: {args.command}")
  if ¬ implemented then
    throw (actionError s!"coordination bus does not implement command: {args.command}")
  if args.command ∈ readCommands then
    Op.withLock .lifecycle do
      let _ ← validateActionPermit Q.pc.vera args.permit
      let value ← Op.lift args.execute
      return .value value
  else
    let result ← invoke Q.pc.vera args
    return .effect result

/-- The work of `invoke_task_coordination`: `coordination.invoke` with the accepted permit. -/
def coordinationWork (implemented : Bool) (args : InvokeArgs D) : Work D (Invoked D) := fun ref s =>
  withPermit Q s fun permit outbound =>
    let dependency := StoredLedger.dictOf [("task_id", textValue ref.taskId),
      ("dependency_id", textValue ref.dependencyId), ("kind", textValue ref.kind),
      ("target_id", textValue ref.targetId), ("binding_event_digest", textValue ref.bindingEventDigest)]
    let invoked := (invokeCommand Q implemented { args with permit, taskDependency := dependency }).run
      outbound.vera
    (invoked.1, { outbound with vera := invoked.2 })

def actionDigest (value : PyValue) : Except Failure String :=
  (actionValue Q.pc.vera.py value).map fun j =>
    Q.pc.vera.py.bytesDigest (String.ofList j.dumps).toByteArray.toList

def providerRequestDigest (providerId operation : String) (requestPayload : PyValue) :
    Except Failure String := do
  if providerId = "" then
    throw (actionError "provider_id must be a non-empty exact string")
  if operation = "" then
    throw (actionError "operation must be a non-empty exact string")
  actionDigest Q (StoredLedger.dictOf [("schema", textValue "VERA_MONO_PROVIDER_REQUEST_V1"),
    ("provider_id", textValue providerId), ("operation", textValue operation),
    ("request_payload", requestPayload)])

def providerAuthoritySubject (effectId providerId operation requestDigest : String)
    (lifecyclePermitDigest : D) : Except Failure String := do
  let digest ← Q.pc.digestOf [("effect_id", textValue effectId), ("provider_id", textValue providerId),
    ("operation", textValue operation), ("request_digest", textValue requestDigest),
    ("lifecycle_permit_digest", textValue (Q.pc.vera.hash.hex lifecyclePermitDigest))]
  return "vera-mono-provider-authority-v1:" ++ digest

def bindProvider (row : ProviderExecutionBinding D) (t : ProviderExecutionBindingStore D) :
    Except Failure (ProviderExecutionBindingStore D) :=
  match t.get? row.effectId with
  | some stored =>
    if stored ≠ row then
      .error ⟨.providerExecutionBindingError,
        "provider effect identity already binds different request metadata"⟩
    else .ok t
  | none => .ok (t.insert row)

structure ProviderArgs where
  effectId : String
  providerId : String
  operation : String
  requestPayload : PyValue

/-- `prepare_provider_effect`, up to the row that it binds. -/
def prepareProviderEffect (args : ProviderArgs) : Work D (ProviderExecutionBinding D) := fun ref s =>
  match validateTaskDependencyRef Q ref "PROVIDER_EFFECT" args.effectId s.tasks with
  | .error e => (.error e, s.outbound)
  | .ok () =>
    withPermit Q s fun permit outbound =>
      let prepared : Except Failure (ProviderExecutionBinding D × ProviderExecutionBindingStore D) := do
        let requestDigest ← providerRequestDigest Q args.providerId args.operation args.requestPayload
        let subject ← providerAuthoritySubject Q args.effectId args.providerId args.operation
          requestDigest permit.permitDigest
        let row : ProviderExecutionBinding D := ⟨args.effectId, args.providerId, args.operation,
          requestDigest, subject, permit, some ref⟩
        let rows ← bindProvider row outbound.providerBindings
        return (row, rows)
      match prepared with
      | .error e => (.error e, outbound)
      | .ok (row, providerBindings) => (.ok row, { outbound with providerBindings })

def authorityError (message : String) : Failure := ⟨.outboundAuthorityError, message⟩

/-- The fields that an authorization must share with its job. -/
def sharedFields (job : JobEnvelope) (authorization : AuthorizationEnvelope) :
    List (String × Scalar × Scalar) :=
  [("authorization_id", .text job.authorizationId, .text authorization.authorizationId),
    ("authorization_revision", .number job.authorizationRevision,
      .number authorization.authorizationRevision),
    ("host_id", .text job.hostId, .text authorization.hostId),
    ("operation", .text job.operationId, .text authorization.operation),
    ("operation_version", .number job.operationVersion, .number authorization.operationVersion),
    ("parameters_digest", .text job.parametersDigest, .text authorization.parametersDigest),
    ("artifact_manifest_digest", .text job.artifactManifestDigest,
      .text authorization.artifactManifestDigest),
    ("read_roots_digest", .text job.readRootsDigest, .text authorization.readRootsDigest),
    ("write_root_id", .text job.writeRootId, .text authorization.writeRootId),
    ("protocol_min_version", .text job.protocolMinVersion, .text authorization.protocolMinVersion),
    ("agent_min_version", .text job.agentMinVersion, .text authorization.agentMinVersion),
    ("issuer_revocation_epoch", .number job.issuerRevocationEpoch,
      .number authorization.issuerRevocationEpoch),
    ("host_revocation_epoch", .number job.hostRevocationEpoch,
      .number authorization.hostRevocationEpoch)]

/-- `validate_pc_authorization_binding`; the times are texts, and compared as such. -/
def validatePcAuthorizationBinding (job : JobEnvelope) (authorization : AuthorizationEnvelope) :
    Except Failure Unit := do
  job.validate Q.pc.envelopes
  authorization.validate Q.pc.envelopes
  match (sharedFields job authorization).find? fun field => field.2.1 ≠ field.2.2 with
  | some field => throw (authorityError s!"PC authorization does not bind job field: {field.1}")
  | none => pure ()
  if job.maxAttempts > authorization.maxAttempts then
    throw (authorityError "PC job max_attempts exceeds authorization")
  if job.leaseTtlSeconds > authorization.leaseTtlSeconds then
    throw (authorityError "PC job lease_ttl_seconds exceeds authorization")
  if job.notBefore < authorization.notBefore then
    throw (authorityError "PC job starts before authorization window")
  if job.expiresAt > authorization.expiresAt then
    throw (authorityError "PC job expires after authorization window")

def pcEffectId (job : JobEnvelope) : String := "pc:" ++ job.envelopeId

/-- What `prepare_pc_job` checks before it asks for a permit. -/
def checkPcJob (job : JobEnvelope) (authorization : AuthorizationEnvelope) (ref : TaskDependencyRef)
    (tasks : TaskLedger D) : Except Failure Unit := do
  validatePcAuthorizationBinding Q job authorization
  if job.projectId ≠ Q.pc.vera.config.projectId then
    throw ⟨.valueError, "PC job project does not match qualified runtime"⟩
  validateTaskDependencyRef Q ref "EFFECT" (pcEffectId job) tasks

def preparePcJob (job : JobEnvelope) (authorization : AuthorizationEnvelope) :
    Work D (PreparedPCDispatch D) := fun ref s =>
  match checkPcJob Q job authorization ref s.tasks with
  | .error e => (.error e, s.outbound)
  | .ok () =>
    withPermit Q s fun permit outbound =>
      let prepared : Except Failure (PreparedPCDispatch D) := do
        let jobDigest ← job.digest Q.pc.envelopes
        let authorizationDigest ← authorization.digest Q.pc.envelopes
        let subject ← pcAuthoritySubject Q.pc jobDigest authorizationDigest permit.permitDigest
        return ⟨permit, job, authorization, jobDigest, authorizationDigest, subject, some ref⟩
      (prepared, outbound)

/-! ## The calls -/

/-- A call, by what it binds and what it says when the task is closed or the work fails. -/
structure TaskScope where
  kind : String
  targetId : String
  closedMessage : String
  reason : String

/-- A failure of the work: the dependency is cancelled, unless its target has started. -/
def workFailed {α : Type} (scope : TaskScope) (taskId dependencyId : String) (e : Failure)
    (s : QualifiedState D) : Except Failure α × QualifiedState D :=
  match taskDependencyTargetStarted Q scope.kind scope.targetId s.outbound with
  | .error e' => (.error e', s)
  | .ok true => (.error e, s)
  | .ok false =>
    let cancelled := (TaskCommand.cancelDependency taskId dependencyId scope.reason).run Q.tasks s.tasks
    (cancelled.1.bind fun _ => .error e, { s with tasks := cancelled.2 })

/-- The shape of the three calls. -/
def taskScoped {α : Type} (scope : TaskScope) (taskId dependencyId : String) (work : Work D α)
    (s : QualifiedState D) : Except Failure α × QualifiedState D :=
  match TaskLedger.read Q.tasks taskId s.tasks with
  | .error e => (.error e, s)
  | .ok state =>
    if state.closed then (.error (taskError scope.closedMessage), s)
    else match bindTaskDependencyUnlocked Q taskId dependencyId scope.kind scope.targetId s with
    | (.error e, s) => (.error e, s)
    | (.ok bound, s) =>
      match dependencyRef Q bound dependencyId with
      | .error e => (.error e, s)
      | .ok ref =>
        match work ref s with
        | (.ok a, outbound) => (.ok a, { s with outbound })
        | (.error e, outbound) => workFailed Q scope taskId dependencyId e { s with outbound }

def coordinationScope (commandId : String) : TaskScope where
  kind := "COORDINATION_COMMAND"
  targetId := commandId
  closedMessage := "closed task cannot execute coordination dependency"
  reason := "qualified coordination failed before durable command preparation"

def providerScope (effectId : String) : TaskScope where
  kind := "PROVIDER_EFFECT"
  targetId := effectId
  closedMessage := "closed task cannot prepare provider dependency"
  reason := "qualified provider preparation failed before durable provider binding"

def pcScope (job : JobEnvelope) : TaskScope where
  kind := "EFFECT"
  targetId := pcEffectId job
  closedMessage := "closed task cannot prepare PC dependency"
  reason := "qualified PC preparation failed before any mechanical effect evidence"

/-- `invoke_task_coordination`; `bus` is none when the runtime has no coordination bus, and else says
whether the bus has the command as a method. -/
def invokeTaskCoordination (bus : Option Bool) (taskId dependencyId : String) (args : InvokeArgs D)
    (s : QualifiedState D) : Except Failure (Invoked D) × QualifiedState D :=
  if let some implemented := bus then
    taskScoped Q (coordinationScope args.commandId) taskId dependencyId
      (coordinationWork Q implemented args) s
  else (.error (taskError "qualified coordination runtime is unavailable"), s)

def prepareTaskProviderEffect (taskId dependencyId : String) (args : ProviderArgs) :
    QualifiedState D → Except Failure (ProviderExecutionBinding D) × QualifiedState D :=
  taskScoped Q (providerScope args.effectId) taskId dependencyId (prepareProviderEffect Q args)

def prepareTaskPcJob (taskId dependencyId : String) (job : JobEnvelope)
    (authorization : AuthorizationEnvelope) :
    QualifiedState D → Except Failure (PreparedPCDispatch D) × QualifiedState D :=
  taskScoped Q (pcScope job) taskId dependencyId (preparePcJob Q job authorization)

end QualifiedRuntime

end VeraMono
