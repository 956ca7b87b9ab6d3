import VeraMono.Model.Scheduling

/-!
# Runs of an episode

`EpisodeRunner.run`. One round of its loop is `step`: a decision of the scheduler, the checks
before an execution, the execution, and what becomes of its result. What an executor does, to the
episode too, is its own affair: it is given as a function, of how many calls there were before.
-/

namespace VeraMono

open Framework

namespace Rezon

variable (rt : Runtime)

/-! ## Executors -/

inductive ExecutorAnswer
  | raised
  | returned (result : Given ExecutionResult)

/-- What `execute` does on the view, for the target of the schedule: its answer, and the episode as
it leaves it. -/
abbrev Executor := Nat → Option Text → ExecutionView → Episode → ExecutorAnswer × Episode

structure RunnerNode where
  descriptor : NodeDescriptor
  executor : Option Executor
  visibility : VisibilityPolicy
  independence : IndependenceMetadata
  independencePolicy : Option (List IndependenceVerificationEvidence)

/-- `_exact_proposition_contract`. -/
def Proposition.contractIsExact (p : Proposition) : Bool :=
  filled [p.propositionId, p.episodeId, p.content] && filled p.sourceRefs && filled p.sourceVersions &&
    (p.sourceVersions.Nodup : Bool) && filled p.producerExecutionId.toList &&
    p.confidence.all fun c => 0 ≤ c && c ≤ 1

/-- `_exact_relation_contract`. -/
def Hyperrelation.contractIsExact (r : Hyperrelation) : Bool :=
  filled [r.relationId, r.episodeId, r.relationType] && ¬ r.participants.isEmpty &&
    r.participants.all (fun p => filled [p.refId, p.role]) && filled r.sourceRefs && filled r.sourceVersions &&
    (r.sourceVersions.Nodup : Bool) && filled r.producerExecutionId.toList

/-- `execution_result_contract_is_exact`. -/
def ExecutionResult.contractIsExact (r : ExecutionResult) : Bool :=
  filled [r.executionId, r.nodeId] && r.emittedPropositions.all Proposition.contractIsExact &&
    r.emittedRelations.all Hyperrelation.contractIsExact && filled r.sourceRefs && filled r.sourceVersions &&
    filled r.verificationTargetIds && (r.verificationStatus.isNone || ¬ r.verificationTargetIds.isEmpty)

/-! ## The state of a run -/

/-- `TraceRecord`, but for how long the execution took. -/
structure TraceRecord where
  executionId : Text
  nodeId : Text
  episodeVersion : Text
  visiblePropositionIds : List Text
  blindedPropositionIds : List Text
  visibleRelationIds : List Text
  blindedRelationIds : List Text
  emittedPropositionIds : List Text
  independenceDemonstrated : Bool
  taskEnvelopeDigest : Option Text
  executorTaskSpecificationDigest : Option Text
  executorEpisodeVersion : Text
  canonicalProducerExecutionId : Option Text
  canonicalEpisodeSnapshotDigest : Text
  canonicalOutputDigest : Option Text
  sourceRefs : List Text
  sourceVersions : List Text
  reportedSourceRefs : List Text
  reportedSourceVersions : List Text
  failures : List FailureState
  deriving DecidableEq

structure ExecutorCall where
  node : RunnerNode
  targetId : Option Text
  view : ExecutionView
  admitted : Bool

/-- The variables of the loop; `calls` are the calls of executors so far. -/
structure RunState where
  episode : Episode
  completed : List Text
  failures : List FailureState
  unresolved : List Text
  records : List TraceRecord
  priorIndependent : List IndependenceMetadata
  priorIndependentSourceVersions : List (List Text)
  receiptSourceVersions : List Text
  used : Nat
  calls : List ExecutorCall

/-- What the loop goes by. -/
structure RunContext where
  taskId : Text
  taskEnvelope : Option TaskEnvelope
  nodes : List RunnerNode
  budget : Int

def RunContext.taskDigest (ctx : RunContext) : Option Text := ctx.taskEnvelope.map (·.digestText rt)

namespace RunState

/-- The state before the first round. -/
def start (e : Episode) : RunState := ⟨e, [], [], [], [], [], [], [], 0, []⟩

/-- `add_failure`, of each. -/
def addFailures (s : RunState) (fs : List FailureState) : RunState :=
  { s with failures := fs.foldl (fun failures f => if f ∈ failures then failures else failures ++ [f]) s.failures }

def addUnresolved (s : RunState) (ts : List Text) : RunState := { s with unresolved := s.unresolved ++ ts }

def addSourceVersions (s : RunState) (versions : List Text) : RunState :=
  { s with
    receiptSourceVersions := versions.foldl (fun known v => if v ∈ known then known else known ++ [v])
      s.receiptSourceVersions }

def addRecord (s : RunState) (r : TraceRecord) : RunState := { s with records := s.records ++ [r] }

/-- The node is completed, and a unit of the budget is used. -/
def complete (s : RunState) (node : RunnerNode) : RunState :=
  { s with completed := s.completed ++ [node.descriptor.nodeId], used := s.used + 1 }

end RunState

/-- How a round ends: with another one, with none, or with an exception. -/
inductive Control
  | next (s : RunState)
  | stop (s : RunState)
  | raised (err : RezonError) (s : RunState)

def Control.state : Control → RunState
  | .next s | .stop s | .raised _ s => s

/-! ## Before an execution -/

/-- What is fixed before the checks of an execution. -/
structure Prepared where
  executionId : Text
  snapshotDigest : Text
  auditView : ExecutionView
  executorView : ExecutionView

def executorView (node : RunnerNode) (audit : ExecutionView) : ExecutionView :=
  { audit with
    episodeVersion := if node.descriptor.independenceRequired then lit "independent@0" else audit.episodeVersion
    blindedPropositionIds := []
    blindedRelationIds := []
    taskEnvelope := if node.descriptor.independenceRequired then none else audit.taskEnvelope
    independence := if node.descriptor.independenceRequired then .unset else audit.independence }

/-- `execution_id`, after so many records. -/
def executionId (ctx : RunContext) (n : Nat) (node : RunnerNode) : Text :=
  if node.descriptor.independenceRequired then
    cat [lit "independent:exec:", node.descriptor.nodeId, lit ":", rt.uuid4 n]
  else cat [ctx.taskId, lit s!":exec:{n + 1}:", node.descriptor.nodeId]

def prepare (ctx : RunContext) (s : RunState) (node : RunnerNode) : Except RezonError Prepared := do
  let digest ← canonicalEpisodeSnapshotDigest rt s.episode.snapshot
  let id := executionId rt ctx s.records.length node
  let audit := buildExecutionView id s.episode.snapshot node.visibility node.independence ctx.taskEnvelope
  return ⟨id, digest, audit, executorView node audit⟩

def ExecutionView.visibleRefs (v : ExecutionView) : List Text :=
  v.propositions.map Proposition.propositionId ++ v.relations.map Hyperrelation.relationId

/-- The record of an execution that admitted nothing and reported nothing. -/
def Prepared.record (ctx : RunContext) (node : RunnerNode) (p : Prepared) (independence : Bool)
    (failures : List FailureState) : TraceRecord where
  executionId := p.executionId
  nodeId := node.descriptor.nodeId
  episodeVersion := p.auditView.episodeVersion
  visiblePropositionIds := p.auditView.propositions.map Proposition.propositionId
  blindedPropositionIds := p.auditView.blindedPropositionIds
  visibleRelationIds := p.auditView.relations.map Hyperrelation.relationId
  blindedRelationIds := p.auditView.blindedRelationIds
  emittedPropositionIds := []
  independenceDemonstrated := independence
  taskEnvelopeDigest := ctx.taskDigest rt
  executorTaskSpecificationDigest := p.auditView.taskSpecification.map (·.digest rt)
  executorEpisodeVersion := p.executorView.episodeVersion
  canonicalProducerExecutionId := none
  canonicalEpisodeSnapshotDigest := p.snapshotDigest
  canonicalOutputDigest := none
  sourceRefs := p.auditView.sourceRefs
  sourceVersions := p.auditView.sourceVersions
  reportedSourceRefs := []
  reportedSourceVersions := []
  failures

def RunState.addPreflightTrace (ctx : RunContext) (node : RunnerNode) (p : Prepared) (s : RunState) : RunState :=
  s.addRecord { p.record rt ctx node false [.contractViolation] with sourceRefs := [], sourceVersions := [] }

def RunState.violation (s : RunState) (label : String) (id : Text) : RunState :=
  (s.addFailures [.contractViolation]).addUnresolved [cat [lit label, id]]

/-- `evidence_attestation_matches_view`. -/
def attestationMatches (m : IndependenceMetadata) (audit : ExecutionView) : Bool :=
  (m.consumedEvidenceRefs.Nodup : Bool) &&
    m.consumedEvidenceRefs.all (· ∈ audit.potentiallyConsumedEvidenceRefs) &&
    audit.potentiallyConsumedEvidenceRefs.all (· ∈ m.consumedEvidenceRefs)

/-- `independence_ok`, of a complete statement of independence. -/
def independenceOk (s : RunState) (node : RunnerNode) (audit : ExecutionView) : Bool :=
  node.independencePolicy.any (fun evidence => verifyIndependence evidence node.independence) &&
    attestationMatches node.independence audit &&
    s.priorIndependent.all node.independence.demonstrablyIndependentFrom &&
    s.priorIndependentSourceVersions.all (fun versions =>
      ¬ IndependenceMetadata.overlap audit.potentiallyConsumedEvidenceVersions versions) &&
    audit.isBlind node.descriptor

/-- The checks of an execution that must be independent: the state in which the loop ends, if one
fails. -/
def refuseIndependence (ctx : RunContext) (node : RunnerNode) (p : Prepared) (s : RunState) : Option RunState :=
  if ctx.taskEnvelope.any fun envelope => ¬ envelope.contextRefs.isEmpty then
    some ((s.violation "independence_context:" node.descriptor.nodeId).addPreflightTrace rt ctx node p)
  else if ¬ node.independence.isDemonstrablyIndependent then
    some (s.violation "independence:" node.descriptor.nodeId)
  else if ¬ independenceOk s node p.auditView then
    some ((s.violation "independence:" node.descriptor.nodeId).addPreflightTrace rt ctx node p)
  else none

/-- The checks before an execution. -/
def preflight (ctx : RunContext) (node : RunnerNode) (targetId : Option Text) (p : Prepared) (s : RunState) :
    Option RunState :=
  match targetId.filter (· ∉ p.auditView.visibleRefs) with
  | some target =>
    some (((s.violation "scheduled_target:" target).addPreflightTrace rt ctx node p).complete node)
  | none =>
    if ¬ node.descriptor.acceptedInputKinds.isEmpty ∧
        ¬ p.auditView.propositions.all (fun q => q.kind ∈ node.descriptor.acceptedInputKinds) then
      some (((s.violation "input_contract:" node.descriptor.nodeId).addPreflightTrace rt ctx node p).complete node)
    else if node.descriptor.independenceRequired then refuseIndependence rt ctx node p s
    else none

/-! ## An execution -/

/-- What the `try` block makes of a call: a failure and its label, or a result. -/
inductive Attempt
  | failed (failure : FailureState) (label : String)
  | result (r : ExecutionResult)

/-- The `try` block, on what the executor did to the episode. -/
def attempt (p : Prepared) (answer : ExecutorAnswer) (left : Episode) : Attempt :=
  match answer with
  | .raised => .failed .attemptedUnknown "execution:"
  | .returned (.malformed _) => .failed .contractViolation "execution_result:invalid_contract:"
  | .returned (.exact r) =>
    if ¬ r.contractIsExact then .failed .contractViolation "execution_result:invalid_contract:"
    else
      match canonicalEpisodeSnapshotDigest rt left.snapshot with
      | .error _ => .failed .attemptedUnknown "execution:"
      | .ok digest =>
        if digest ≠ p.snapshotDigest then .failed .contractViolation "executor_episode_mutation:" else .result r

def verificationFailure (d : NodeDescriptor) (audit : ExecutionView) (r : ExecutionResult) : Option FailureState :=
  if r.verificationStatus ≠ some .passed then some .insufficientEvidence
  else if r.verificationTargetIds ≠ d.verificationTargetIds then some .contractViolation
  else if ¬ d.verificationTargetIds.all (· ∈ audit.visibleRefs) then some .contractViolation
  else if ¬ r.emittedPropositions.any (fun q =>
      q.kind = .testResult && d.verificationTargetIds.all (· ∈ q.sourceRefs)) then some .contractViolation
  else none

def admissionRequest (node : RunnerNode) (p : Prepared) (r : ExecutionResult) : AdmissionRequest where
  descriptor := .exact node.descriptor
  result := .exact r
  expectedEpisodeSnapshotDigest := p.snapshotDigest
  expectedExecutionId := some p.executionId
  taskSpecification := p.auditView.taskSpecification
  view := ⟨some p.auditView.governedRefs, some p.auditView.sourceVersions, some p.auditView.sourceBindings⟩

/-- The call is over: its record, the node completed, a unit used. -/
def RunState.settle (s : RunState) (node : RunnerNode) (targetId : Option Text) (p : Prepared) (admitted : Bool)
    (r : TraceRecord) : RunState :=
  { (s.addRecord r).complete node with calls := s.calls ++ [⟨node, targetId, p.executorView, admitted⟩] }

def resultRecord (ctx : RunContext) (node : RunnerNode) (p : Prepared) (r : ExecutionResult)
    (output : Option Text) (failures : List FailureState) : TraceRecord :=
  { p.record rt ctx node node.descriptor.independenceRequired failures with
    canonicalOutputDigest := output
    reportedSourceRefs := r.sourceRefs.eraseDups
    reportedSourceVersions := r.sourceVersions.eraseDups }

def mandatoryLabel (node : RunnerNode) (p : Prepared) : List Text :=
  if node.descriptor.mandatoryVerification then [cat [lit "verification:", p.executionId]] else []

/-- What becomes of a result. -/
def conclude (ctx : RunContext) (node : RunnerNode) (targetId : Option Text) (p : Prepared) (r : ExecutionResult)
    (s : RunState) : Control :=
  -- The digest is computed after the `try` block.
  match canonicalOutputDigest rt r with
  | .error err => .raised err { s with calls := s.calls ++ [⟨node, targetId, p.executorView, false⟩] }
  | .ok output =>
    if r.failures ≠ [] then
      .next ((s.addFailures r.failures).addUnresolved
        (cat [lit "execution_result:", p.executionId] :: mandatoryLabel node p) |>.settle node targetId p false
          (resultRecord rt ctx node p r output r.failures))
    else
      match (if node.descriptor.mandatoryVerification then verificationFailure node.descriptor p.auditView r
        else none) with
      | some failure =>
        .next ((s.addFailures [failure]).addUnresolved (mandatoryLabel node p) |>.settle node targetId p false
          (resultRecord rt ctx node p r output [failure]))
      | none =>
        match admitExecutionResult rt s.episode (admissionRequest node p r) with
        | (.ok receipt, e) =>
          let record := { resultRecord rt ctx node p r receipt.canonicalOutputDigest [] with
            emittedPropositionIds := r.emittedPropositions.map Proposition.propositionId
            canonicalProducerExecutionId := receipt.canonicalProducerExecutionId }
          let admitted := ({ s with episode := e } : RunState).settle node targetId p true record
          if node.descriptor.independenceRequired then
            .next { admitted with
              priorIndependent := s.priorIndependent ++ [node.independence]
              priorIndependentSourceVersions := s.priorIndependentSourceVersions ++
                [p.auditView.potentiallyConsumedEvidenceVersions] }
          else .next admitted
        | (.error err, e) =>
          let refused : RunState := { s with episode := e }
          if err.kind = .admissionError then
            .next ((refused.addFailures [.contractViolation]).addUnresolved
              (cat [lit "admission:", p.executionId] :: mandatoryLabel node p) |>.settle node targetId p false
                (resultRecord rt ctx node p r output [.contractViolation]))
          else .raised err { refused with calls := s.calls ++ [⟨node, targetId, p.executorView, false⟩] }

/-- The `try` block and what follows it. -/
def execute (ctx : RunContext) (node : RunnerNode) (executor : Executor) (targetId : Option Text) (p : Prepared)
    (s : RunState) : Control :=
  let s := s.addSourceVersions p.auditView.sourceVersions
  let (answer, left) := executor s.calls.length targetId p.executorView s.episode
  -- The id of an episode does not change.
  let left : Episode := { left with episodeId := s.episode.episodeId }
  match attempt rt p answer left with
  | .failed failure label =>
    let failed := (s.addFailures [failure]).addUnresolved [cat [lit label, p.executionId]] |>.settle node targetId p
      false (p.record rt ctx node node.descriptor.independenceRequired [failure])
    if node.descriptor.mandatoryVerification then .stop failed else .next failed
  | .result r => conclude rt ctx node targetId p r { s with episode := left }

/-! ## The loop -/

/-- The round of a node that is scheduled. -/
def dispatch (ctx : RunContext) (node : RunnerNode) (targetId : Option Text) (s : RunState) : Control :=
  if ¬ node.descriptor.requiredAuthority.isEmpty then .stop (s.violation "authority:" node.descriptor.nodeId)
  else
    match node.executor with
    | none =>
      let label := if node.descriptor.mandatoryVerification then "mandatory:" else "node:"
      let missing := (s.addFailures [.unavailable]).addUnresolved [cat [lit label, node.descriptor.nodeId]]
      let missing := { missing with completed := s.completed ++ [node.descriptor.nodeId] }
      if node.descriptor.mandatoryVerification then .stop missing else .next missing
    | some executor =>
      match prepare rt ctx s node with
      | .error err => .raised err s
      | .ok p =>
        match preflight rt ctx node targetId p s with
        | some refused => .stop refused
        | none => execute rt ctx node executor targetId p s

def RunContext.decision (ctx : RunContext) (s : RunState) : ScheduleDecision :=
  DeterministicScheduler.next rt s.episode.snapshot (ctx.nodes.map RunnerNode.descriptor) s.completed
    ⟨ctx.budget, s.used⟩

/-- One round of the loop. -/
def step (ctx : RunContext) (s : RunState) : Control :=
  match ctx.decision rt s with
  | .terminate reason failure =>
    .stop ((s.addFailures failure.toList).addUnresolved
      (if failure.isSome ∧ reason = "duplicate_node_id" then [lit "scheduler:duplicate_node_id"] else []))
  | .execute index nodeId targetId =>
    match ctx.nodes[index]? with
    | none => .stop ((s.addFailures [.contractViolation]).addUnresolved [lit "scheduler:invalid_node_identity"])
    | some node =>
      if node.descriptor.nodeId ≠ nodeId then
        .stop ((s.addFailures [.contractViolation]).addUnresolved [lit "scheduler:descriptor_identity_mismatch"])
      else dispatch rt ctx node targetId s

def rounds (ctx : RunContext) : Nat → RunState → Control
  | 0, s => .next s
  | n + 1, s =>
    match step rt ctx s with
    | .next s' => rounds ctx n s'
    | ended => ended

/-! ## `EpisodeRunner.run` -/

/-- `ResultReceipt`: what it accepts, rejects and effects is fixed to nothing and a plan. -/
structure ResultReceipt where
  taskId : Text
  episodeVersion : Text
  unresolved : List Text
  failures : List FailureState
  sourceVersions : List Text
  executionIds : List Text
  executionOutputDigests : List (Text × Text)
  executionProducerIds : List (Text × Text)
  taskEnvelopeDigest : Option Text
  deriving DecidableEq

/-- The loop over the bindings of execution ids, those before among `seen`. -/
def checkExecutionBindings (malformed unbound duplicate : String) (executionIds : List Text) :
    List Text → List (Text × Text) → Except RezonError Unit
  | _, [] => return ()
  | seen, (executionId, value) :: bindings => do
    require .valueError (filled [executionId, value]) (lit malformed) []
    require .valueError (executionId ∈ executionIds) (lit unbound) []
    require .valueError (executionId ∉ seen) (lit duplicate) []
    checkExecutionBindings malformed unbound duplicate executionIds (executionId :: seen) bindings

def ResultReceipt.postInit (r : ResultReceipt) : Except RezonError ResultReceipt := do
  require .valueError (filled [r.taskId, r.episodeVersion])
    (lit "result receipt requires exact task_id and episode_version") []
  checkExecutionBindings "execution output digests must contain non-empty exact str pairs"
    "execution output digest must bind a receipt execution id"
    "execution output digest binding cannot duplicate execution id" r.executionIds [] r.executionOutputDigests
  checkExecutionBindings "execution producer ids must contain non-empty exact str pairs"
    "execution producer id must bind a receipt execution id"
    "execution producer binding cannot duplicate execution id" r.executionIds [] r.executionProducerIds
  return r

structure RunOutcome where
  receipt : ResultReceipt
  trace : List TraceRecord
  deriving DecidableEq

/-- The receipt and the trace of the loop's last state. -/
def finish (ctx : RunContext) (s : RunState) : Except RezonError RunOutcome := do
  let snapshot := s.episode.snapshot
  let claims := (snapshot.currentPropositions.filter fun q => q.kind = .claim).map Proposition.propositionId
  let receipt ← ResultReceipt.postInit
    { taskId := ctx.taskId
      episodeVersion := snapshot.versionRef
      unresolved := (s.unresolved ++ claims.map fun id => cat [lit "claim_disposition:", id]).eraseDups
      failures := s.failures
      sourceVersions := s.receiptSourceVersions
      executionIds := s.records.map TraceRecord.executionId
      executionOutputDigests := s.records.filterMap fun r =>
        r.canonicalOutputDigest.map fun digest => (r.executionId, digest)
      executionProducerIds := s.records.filterMap fun r =>
        r.canonicalProducerExecutionId.map fun producer => (r.executionId, producer)
      taskEnvelopeDigest := ctx.taskDigest rt }
  return ⟨receipt, s.records⟩

/-- The outcome of a run that a contract check refuses. -/
def refusal (taskId version : Text) (unresolved : String) (taskDigest : Option Text) : Except RezonError RunOutcome :=
  do
    let receipt ← ResultReceipt.postInit
      ⟨taskId, version, [lit unresolved], [.contractViolation], [], [], [], [], taskDigest⟩
    return ⟨receipt, []⟩

structure EpisodeRunner where
  nodes : Given (List RunnerNode)
  budgetLimit : Given Int

def effectiveBudget (budgetLimit : Int) (taskEnvelope : Option TaskEnvelope) : Int :=
  match taskEnvelope.bind TaskEnvelope.resourceBudget with
  | none => budgetLimit
  | some budget => min budgetLimit budget

/-- The loop and the receipt. No run has more rounds than it has nodes, and the last one. -/
def RunContext.run (ctx : RunContext) (e : Episode) : Except RezonError RunOutcome × Episode :=
  match rounds rt ctx (ctx.nodes.length + 1) (.start e) with
  | .raised err s => (.error err, s.episode)
  | .next s | .stop s => (finish rt ctx s, s.episode)

def EpisodeRunner.run (runner : EpisodeRunner) (e : Episode) (taskId : Given Text)
    (taskEnvelope : Option (Given TaskEnvelope)) : Except RezonError RunOutcome × Episode :=
  let version := e.snapshot.versionRef
  let invalidTask :=
    (refusal (lit "runner:invalid_task_id") (lit "runner:unbound_episode") "runner:invalid_task_id" none, e)
  match taskId with
  | .malformed _ => invalidTask
  | .exact task =>
    if isEmpty task then invalidTask
    else
      match taskEnvelope with
      | some (.malformed _) => (refusal task version "task_envelope:invalid_contract" none, e)
      | given =>
        let envelope := given.bind fun given => match given with
          | .exact envelope => some envelope
          | .malformed _ => none
        if ¬ envelope.all TaskEnvelope.contractIsExact then
          (refusal task version "task_envelope:invalid_contract" none, e)
        else
          match envelope.mapM (·.digest rt) with
          | .error err => (.error err, e)
          | .ok digest =>
            if ¬ envelope.all fun v => v.taskId = task then
              (refusal task version "task_envelope:mismatched_task_id" digest, e)
            else
              match runner.nodes, runner.budgetLimit with
              | .malformed _, _ => (refusal task version "runner:invalid_node_contract" digest, e)
              | .exact nodes, budgetLimit =>
                if ¬ nodes.all fun node => node.descriptor.contractIsExact then
                  (refusal task version "runner:invalid_node_contract" digest, e)
                else
                  match budgetLimit with
                  | .malformed _ => (refusal task version "runner:invalid_budget_contract" digest, e)
                  | .exact budget =>
                    if budget < 0 then (refusal task version "runner:invalid_budget_contract" digest, e)
                    else RunContext.run rt ⟨task, envelope, nodes, effectiveBudget budget envelope⟩ e

end Rezon

end VeraMono
