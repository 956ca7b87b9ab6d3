import VeraMono.Model.ActionGate

/-!
# Coordination commands

`LifecycleBoundCoordinationBus`: write commands are effects of a gateway without
the trust registry, bound to their command id before they run and recorded after,
and a command whose effect is still reserved may be cancelled.
-/

namespace VeraMono

open Framework

variable {D : Type} [DecidableEq D] (R : Runtime D)

namespace CommandJournal

def verifyIntegrity : Op D D := do
  let observed ← .read fun s =>
    (s.commands.bindingCount, s.commands.resultCount, s.commands.projectionDigest)
  let bindings ← .read fun s => s.commands.bindings.rows
  let results ← .read fun s => s.commands.results.rows
  let projection ← Op.lift (projectionState R.hash bindings results)
  Op.lift (compareMeta observed projection)

def readResult (commandId : String) : Op D (Option (CommandResult D)) := do
  let binding ← .readM fun s => readBinding R.hash commandId s.commands
  .readM fun s => readResultRow R.hash binding s.commands

end CommandJournal

structure CommandReceipt where
  resultClass : String
  databaseWriteConfirmed : Bool
  eventId : Option String
  eventSequence : Option Nat

/-- The arguments of `invoke` for a write command, with the outcome of the bus
method and the receipt its result carries. -/
structure InvokeArgs (D : Type) where
  command : String
  commandId : String
  permit : AcceptedLifecyclePermit D
  actor : PyValue
  actorWorkstream : String
  args : PyValue
  kwargs : PyValue
  taskDependency : PyValue
  execute : Except Failure PyValue
  receipt : Option CommandReceipt

def pyKey (key : String) : PyValue := .str (.valid key)

/-- The effect a write command is dispatched as. -/
def coordinationDispatch (c : InvokeArgs D) (authorityBindingDigest : D) : DispatchArgs D where
  permit := c.permit
  effectId := "coordination:" ++ c.commandId
  effectKind := "COORDINATION/" ++ c.command
  requestPayload := .dict [(pyKey "command", pyKey c.command), (pyKey "actor", c.actor),
    (pyKey "args", c.args), (pyKey "kwargs", c.kwargs)]
  verifyAuthority := .ok ⟨.lower authorityBindingDigest, .dict
    [(pyKey "kind", pyKey "COORDINATION"), (pyKey "command", pyKey c.command),
      (pyKey "actor", c.actor), (pyKey "task_dependency", c.taskDependency)]⟩
  execute := c.execute

def commandBinding (c : InvokeArgs D) (requestDigest invocationDigest : D) : CommandBinding D :=
  let binding : CommandBinding D :=
    { commandId := c.commandId, effectId := "coordination:" ++ c.commandId, command := c.command
      actorWorkstream := c.actorWorkstream, lifecyclePermitDigest := c.permit.permitDigest
      invocationDigest := invocationDigest, requestDigest := requestDigest
      bindingDigest := requestDigest }
  { binding with bindingDigest := CommandJournal.bindingDigest R.hash binding }

def recordResult (c : InvokeArgs D) (receipt : CommandReceipt) (resultDigest : D) :
    Op D (CommandResult D) := do
  let _ ← CommandJournal.verifyIntegrity R
  let binding ← .readM fun s => CommandJournal.readBinding R.hash c.commandId s.commands
  let _ ← Op.lift (requireText .coordinationCommandJournalError "result_class" receipt.resultClass)
  if receipt.eventId = some "" then
    throw (commandError "event_id must be a non-empty exact string")
  if receipt.eventSequence = some 0 then
    throw (commandError "event_sequence must be a positive integer or None")
  let result : CommandResult D :=
    { commandId := c.commandId, resultDigest := resultDigest, resultClass := receipt.resultClass
      databaseWriteConfirmed := receipt.databaseWriteConfirmed, eventId := receipt.eventId
      eventSequence := receipt.eventSequence, resultRecordDigest := resultDigest }
  Op.onCommands (CommandJournal.recordResult R.hash
    { result with resultRecordDigest := CommandJournal.resultRecordDigest R.hash binding result })

/-- `bind`. -/
def bindCommand (c : InvokeArgs D) (binding : CommandBinding D) : Op D (CommandBinding D) := do
  let _ ← CommandJournal.verifyIntegrity R
  let _ ← Op.lift (requireText .coordinationCommandJournalError "command" c.command)
  let _ ← Op.lift
    (requireText .coordinationCommandJournalError "actor_workstream" c.actorWorkstream)
  Op.onCommands (CommandJournal.bind R.hash binding)

def invoke (c : InvokeArgs D) : Op D (OutboundEffectResult D) := do
  if c.commandId = "" then
    throw (actionError "write-capable coordination commands require command_id")
  let actor ← Op.lift (actionValue R.py c.actor)
  let dependency ← Op.lift (actionValue R.py c.taskDependency)
  let dispatch := coordinationDispatch c
    (R.hash.sha256 (.coordinationAuthority actor c.command dependency))
  let requestDigest ← Op.lift (effectRequestDigest R dispatch)
  let args ← Op.lift (actionValue R.py c.args)
  let kwargs ← Op.lift (actionValue R.py c.kwargs)
  let invocationDigest := R.hash.sha256 (.coordinationInvocation c.command actor args kwargs)
  let _ ← bindCommand R c (commandBinding R c requestDigest invocationDigest)
  let result ← dispatchVerified R false dispatch
  match c.receipt with
  | none => throw (commandError "coordination command returned no receipted result")
  | some receipt =>
    let _ ← recordResult R c receipt result.resultDigest
    return result

structure CommandRecoveryAssessment (D : Type) where
  binding : CommandBinding D
  resultRecorded : Bool
  fenceState : Option EffectState
  lifecyclePermitCurrent : Option Bool
  retryCandidateAllowed : Bool
  preDispatchCancelAllowed : Bool
  recoveryRequired : Bool
  terminal : Bool

/-- The cases of `assess_command`; `repositoryConsistent` is what
`_coordination_result_repository_consistent` finds. -/
def assessment (binding : CommandBinding D) (result : Option (CommandResult D))
    (fence : Option (EffectReceipt D)) (lifecycleCurrent : Option Bool)
    (repositoryConsistent : Bool) : CommandRecoveryAssessment D :=
  let state := fence.map EffectReceipt.state
  match result, fence with
  | some result, fence =>
    let agree := fence.any fun receipt =>
      (receipt.state = .committed ∨ receipt.state = .reconciledCommitted) ∧
        receipt.resultDigest = some result.resultDigest ∧ repositoryConsistent
    ⟨binding, true, state, lifecycleCurrent, false, false, !agree, agree⟩
  | none, none =>
    ⟨binding, false, state, lifecycleCurrent, lifecycleCurrent = some true, false, false, false⟩
  | none, some receipt =>
    match receipt.state with
    | .reserved => ⟨binding, false, state, lifecycleCurrent, false, true, false, false⟩
    | .executing | .attemptedUnknown | .committed | .reconciledCommitted =>
      ⟨binding, false, state, lifecycleCurrent, false, false, true, false⟩
    | .reconciledNoEffect | .cancelledPreDispatch =>
      ⟨binding, false, state, lifecycleCurrent, false, false, false, true⟩

/-- Whether the accepted permit is the one the command was bound to, when one can be
minted. -/
def lifecycleCurrent (binding : CommandBinding D) : Op D (Option Bool) :=
  tryCatch
    (do
      let current ← acceptedActionPermit R
      return some (current.permitDigest = binding.lifecyclePermitDigest))
    (fun e =>
      if e.kind = .lifecycleActionDenied ∨ e.kind = .effectFenceError then return none
      else throw e)

def assessCommand (commandId : String) (repositoryConsistent : Bool) :
    Op D (CommandRecoveryAssessment D) := do
  let _ ← CommandJournal.verifyIntegrity R
  let binding ← .readM fun s => CommandJournal.readBinding R.hash commandId s.commands
  let result ← CommandJournal.readResult R commandId
  let _ ← OutboundExecutionAudit.verifyFenceConsistency R.hash []
  let fence ← .read fun s => s.fence.get? binding.effectId
  let current ← lifecycleCurrent R binding
  return assessment binding result fence current repositoryConsistent

def cancelReservedCommand (commandId : String) (repositoryConsistent : Bool) :
    Op D (CommandRecoveryAssessment D) := do
  let assessed ← assessCommand R commandId repositoryConsistent
  if ¬ assessed.preDispatchCancelAllowed then
    throw (fenceError "coordination command has no proven pre-dispatch reservation")
  let _ ← Op.withLock .lifecycle (cancelReservation R
    (commandError "qualified coordination reservation is missing audit evidence")
    assessed.binding.effectId)
  assessCommand R commandId repositoryConsistent

end VeraMono
