import VeraMono.Framework.Checks
import VeraMono.Model.Episode

/-!
# Admission

`admission.py` of Rezon: what an execution emitted becomes part of the episode, as a whole or not
at all. A digest is a hash of what its text spells out; texts with a lone surrogate have no
encoding, so nothing that contains one has a digest, unless it is written in ASCII.
-/

namespace VeraMono

open Framework

namespace Rezon

/-! ## Nodes -/

inductive FailureState
  | unavailable | conflict | invalidSubject | insufficientEvidence | resourceLimit | attemptedUnknown
  | contractViolation
  deriving DecidableEq

inductive VerificationStatus
  | passed | failed | inconclusive
  deriving DecidableEq

structure NodeDescriptor where
  nodeId : Text
  permittedOutputKinds : List PropositionKind
  acceptedInputKinds : List PropositionKind
  mandatoryVerification : Bool
  independenceRequired : Bool
  requiredAuthority : List Text
  permittedRelationTypes : List Text
  verificationTargetIds : List Text
  independenceBlindKinds : List PropositionKind
  independenceBlindIds : List Text
  deriving DecidableEq

/-- `node_descriptor_contract_is_exact`. -/
def NodeDescriptor.contractIsExact (d : NodeDescriptor) : Bool :=
  ¬ isEmpty d.nodeId && filled d.requiredAuthority && filled d.permittedRelationTypes &&
    filled d.verificationTargetIds && filled d.independenceBlindIds &&
    (¬ d.mandatoryVerification || ¬ d.verificationTargetIds.isEmpty)

structure ExecutionResult where
  executionId : Text
  nodeId : Text
  emittedPropositions : List Proposition
  emittedRelations : List Hyperrelation
  failures : List FailureState
  sourceRefs : List Text
  sourceVersions : List Text
  verificationStatus : Option VerificationStatus
  verificationTargetIds : List Text
  deriving DecidableEq

structure TaskSpecification where
  literalRequest : Text
  subjectRefs : List Text
  constraints : List Text
  deriving DecidableEq

/-! ## Task envelopes -/

structure TaskEnvelope where
  taskId : Text
  literalRequest : Text
  subjectRefs : List Text
  constraints : List Text
  availableAuthority : List Text
  privacyScope : Option Text
  resourceBudget : Option Int
  contextRefs : List Text
  deriving DecidableEq

def TaskEnvelope.toTaskSpecification (v : TaskEnvelope) : TaskSpecification :=
  ⟨v.literalRequest, v.subjectRefs, v.constraints⟩

/-- `task_envelope_contract_is_exact`. -/
def TaskEnvelope.contractIsExact (v : TaskEnvelope) : Bool :=
  ¬ isEmpty v.taskId && ¬ isEmpty v.literalRequest && v.resourceBudget.all fun budget => 0 ≤ budget

/-! ## Digests -/

/-- What is hashed. -/
inductive Preimage
  | episodeSnapshot (snapshot : EpisodeSnapshot)
  | taskSpecification (specification : TaskSpecification)
  | taskEnvelope (envelope : TaskEnvelope)
  | output (propositions : List Proposition) (relations : List Hyperrelation)
  | text (t : Text)

/-- What the code takes from its platform; `uuid4 n` is the `n`-th of a run. -/
structure Runtime where
  sha256 : Preimage → String
  lower : Text → Text
  uuid4 : Nat → Text

def textEncodable : Text → Bool
  | .valid _ => true
  | .surrogates _ => false

def Proposition.encodable (p : Proposition) : Bool :=
  (p.propositionId :: p.episodeId :: p.content :: p.sourceRefs ++ p.producerExecutionId.toList ++
    p.sourceVersions).all textEncodable

def Hyperrelation.encodable (r : Hyperrelation) : Bool :=
  (r.relationId :: r.episodeId :: r.relationType :: r.participants.map Participant.refId ++
    r.participants.map Participant.role ++ r.sourceRefs ++ r.producerExecutionId.toList ++
    r.sourceVersions).all textEncodable

def EpisodeEvent.encodable (v : EpisodeEvent) : Bool :=
  (v.eventId :: v.episodeId :: v.targetId :: v.reason.toList).all textEncodable

def EpisodeSnapshot.encodable (s : EpisodeSnapshot) : Bool :=
  textEncodable s.episodeId && s.allPropositions.all Proposition.encodable &&
    s.allRelations.all Hyperrelation.encodable && s.events.all EpisodeEvent.encodable

/-- `payload.encode("utf-8")`, and its hash. -/
def encoded (encodable : Bool) (digest : String) : Except RezonError Text :=
  if encodable then .ok (lit digest)
  else .error ⟨.unicodeEncodeError, lit "'utf-8' codec can't encode: surrogates not allowed", []⟩

variable (rt : Runtime)

def canonicalEpisodeSnapshotDigest (snapshot : EpisodeSnapshot) : Except RezonError Text :=
  encoded snapshot.encodable (rt.sha256 (.episodeSnapshot snapshot))

/-- `TaskSpecification.digest`, of a text in ASCII. -/
def TaskSpecification.digest (specification : TaskSpecification) : Text :=
  lit (rt.sha256 (.taskSpecification specification))

/-- The hash of the text of an envelope, in ASCII. -/
def TaskEnvelope.digestText (envelope : TaskEnvelope) : Text := lit (rt.sha256 (.taskEnvelope envelope))

/-- Whether `json.dumps` writes the budget: Python writes no integer of more than 4300 digits. -/
def TaskEnvelope.hasText (envelope : TaskEnvelope) : Bool :=
  envelope.resourceBudget.all fun budget => budget.natAbs < 10 ^ 4300

def TaskEnvelope.digest (envelope : TaskEnvelope) : Except RezonError Text :=
  if envelope.hasText then .ok (envelope.digestText rt)
  else .error ⟨.valueError, lit ("Exceeds the limit (4300 digits) for integer string conversion; " ++
    "use sys.set_int_max_str_digits() to increase the limit"), []⟩

def Proposition.postInit (p : Proposition) : Except RezonError Proposition := do
  require .valueError (¬ isEmpty p.propositionId && ¬ isEmpty p.episodeId && ¬ isEmpty p.content)
    (lit "proposition_id, episode_id, and content are required") []
  require .valueError (p.confidence.all fun c => 0 ≤ c && c ≤ 1) (lit "confidence must be within [0, 1]") []
  require .valueError (filled p.sourceVersions) (lit "source versions must be non-empty") []
  require .valueError (p.sourceVersions.Nodup : Bool) (lit "source versions must be unique") []
  return p

def Hyperrelation.postInit (r : Hyperrelation) : Except RezonError Hyperrelation := do
  require .valueError (¬ isEmpty r.relationId && ¬ isEmpty r.episodeId && ¬ isEmpty r.relationType)
    (lit "relation identity and type are required") []
  require .valueError (¬ r.participants.isEmpty) (lit "hyperrelation requires at least one participant") []
  require .valueError (filled r.sourceVersions) (lit "source versions must be non-empty") []
  require .valueError (r.sourceVersions.Nodup : Bool) (lit "source versions must be unique") []
  return r

/-- `replace(proposition, producer_execution_id=...)`. -/
def Proposition.withProducer (producer : Option Text) (p : Proposition) : Except RezonError Proposition :=
  ({ p with producerExecutionId := producer } : Proposition).postInit

/-- `replace(relation, producer_execution_id=...)`. -/
def Hyperrelation.withProducer (producer : Option Text) (r : Hyperrelation) : Except RezonError Hyperrelation :=
  ({ r with producerExecutionId := producer } : Hyperrelation).postInit

def canonicalOutputDigest (result : ExecutionResult) : Except RezonError (Option Text) :=
  if result.emittedPropositions = [] ∧ result.emittedRelations = [] then return none
  else do
    let propositions ← result.emittedPropositions.mapM (Proposition.withProducer none)
    let relations ← result.emittedRelations.mapM (Hyperrelation.withProducer none)
    let digest ← encoded (propositions.all Proposition.encodable && relations.all Hyperrelation.encodable)
      (rt.sha256 (.output propositions relations))
    return some digest

def canonicalProducerExecutionId (nodeId episodeSnapshotDigest : Text) (taskSpecificationDigest : Option Text)
    (outputDigest : Text) : Except RezonError Text := do
  let payload := cat [nodeId, lit "\x1f", episodeSnapshotDigest, lit "\x1f",
    taskSpecificationDigest.getD (lit "no-task-spec"), lit "\x1f", outputDigest]
  let digest ← encoded (textEncodable payload) (rt.sha256 (.text payload))
  return cat [lit "canonical:exec:", nodeId, lit ":", digest]

/-! ## Provenance -/

def sourceRefVersionBindings (sourceRefs sourceVersions : List Text) : Option (List (Text × Text)) :=
  if sourceVersions = [] then some []
  else if sourceRefs.length = sourceVersions.length then some (sourceRefs.zip sourceVersions)
  else
    let exactSelfBindings := (sourceVersions.filter fun version => version ∈ sourceRefs).map fun version =>
      (version, version)
    if exactSelfBindings.length ≠ sourceVersions.length then none else some exactSelfBindings

structure GovernedView where
  allowedSourceRefs : Option (List Text)
  allowedSourceVersions : Option (List Text)
  allowedSourceBindings : Option (List (Text × Text))

def admissible (c : Bool) (message : String) : Except RezonError Unit :=
  require .admissionError c (lit message) []

/-- `_require_exact_str_tuple` of `admission.py`, of texts. -/
def requireExactStrTuple (values : List Text) (label : String) : Except RezonError Unit :=
  admissible (filled values) s!"{label} must be a tuple of non-empty exact str values"

namespace GovernedView

/-- `_require_exact_str_tuple` on the allowed sets that are given. -/
def validate (view : GovernedView) : Except RezonError Unit := do
  requireExactStrTuple (view.allowedSourceRefs.getD []) "allowed source refs"
  requireExactStrTuple (view.allowedSourceVersions.getD []) "allowed source versions"

/-- The source references of an emitted object. -/
def checkSourceRefs (view : GovernedView) (label : String) (sourceRefs : List Text) : Except RezonError Unit :=
  match view.allowedSourceRefs with
  | none => return ()
  | some allowed =>
    requireNone .admissionError (sourceRefs.filter (· ∉ allowed))
      s!"{label} reports provenance not present in governed execution view: "

/-- The participants of an emitted relation: they may be propositions emitted beside it. -/
def checkParticipants (view : GovernedView) (stagedPropIds : List Text) (r : Hyperrelation) :
    Except RezonError Unit :=
  match view.allowedSourceRefs with
  | none => return ()
  | some allowed =>
    requireNone .admissionError ((r.participants.map Participant.refId).filter (· ∉ allowed ++ stagedPropIds))
      "relation references objects outside governed execution view: "

def checkSourceVersions (view : GovernedView) (label : String) (sourceVersions : List Text) :
    Except RezonError Unit :=
  match view.allowedSourceVersions with
  | none => return ()
  | some allowed =>
    requireNone .admissionError (sourceVersions.filter (· ∉ allowed))
      s!"{label} reports source versions not present in governed execution view: "

/-- The associations of source references and versions of an emitted object. -/
def checkBindings (view : GovernedView) (label : String) (sourceRefs sourceVersions : List Text) :
    Except RezonError Unit :=
  match view.allowedSourceBindings with
  | none => return ()
  | some allowed =>
    if sourceVersions = [] then return ()
    else
      match sourceRefVersionBindings sourceRefs sourceVersions with
      | none => .error ⟨.admissionError, lit s!"{label} source versions lack exact source-ref association", []⟩
      | some bindings =>
        requireNone .admissionError ((bindings.filter (· ∉ allowed)).flatMap fun b => [b.1, b.2])
          s!"{label} reports source ref/version association not present in governed execution view: "

end GovernedView

/-! ## Admission -/

/-- What the kind is called. -/
def PropositionKind.value : PropositionKind → String
  | .observation => "observation"
  | .evidence => "evidence"
  | .claim => "claim"
  | .hypothesis => "hypothesis"
  | .assumption => "assumption"
  | .question => "question"
  | .prediction => "prediction"
  | .test => "test"
  | .testResult => "test_result"
  | .decision => "decision"

/-- What `admit_execution_result` is called with, beside the episode. -/
structure AdmissionRequest where
  descriptor : Given NodeDescriptor
  result : Given ExecutionResult
  expectedEpisodeSnapshotDigest : Text
  expectedExecutionId : Option Text
  taskSpecification : Option TaskSpecification
  view : GovernedView

structure AdmissionReceipt where
  canonicalEpisodeSnapshotDigest : Text
  taskSpecificationDigest : Option Text
  canonicalOutputDigest : Option Text
  canonicalProducerExecutionId : Option Text
  deriving DecidableEq

/-- `_validate_admission_contract`, of values of the types it asks for. -/
def validateAdmissionContract (d : NodeDescriptor) (result : ExecutionResult) (view : GovernedView) :
    Except RezonError Unit := do
  admissible d.contractIsExact "descriptor must satisfy exact NodeDescriptor contract"
  requireExactStrTuple d.permittedRelationTypes "permitted relation types"
  result.emittedPropositions.forM fun p => do
    requireExactStrTuple p.sourceRefs "proposition source refs"
    requireExactStrTuple p.sourceVersions "proposition source versions"
  result.emittedRelations.forM fun r => do
    requireExactStrTuple r.sourceRefs "relation source refs"
    requireExactStrTuple r.sourceVersions "relation source versions"
  view.validate

def checkProposition (d : NodeDescriptor) (view : GovernedView) (requiredExecutionId episodeId : Text)
    (p : Proposition) : Except RezonError Unit := do
  require .admissionError (p.kind ∈ d.permittedOutputKinds)
    (cat [lit "node ", d.nodeId, lit s!" may not emit {p.kind.value}"]) []
  admissible (p.kind ≠ .evidence) "worker output cannot self-promote to evidence"
  admissible (p.producerExecutionId = some requiredExecutionId)
    "execution-emitted proposition must bind exact producer execution"
  admissible (p.episodeId = episodeId) "proposition belongs to a different episode"
  view.checkSourceRefs "proposition" p.sourceRefs
  view.checkSourceVersions "proposition" p.sourceVersions
  view.checkBindings "proposition" p.sourceRefs p.sourceVersions

def checkRelation (d : NodeDescriptor) (view : GovernedView) (requiredExecutionId episodeId : Text)
    (stagedPropIds : List Text) (r : Hyperrelation) : Except RezonError Unit := do
  require .admissionError (rt.lower r.relationType ∈ d.permittedRelationTypes.map rt.lower)
    (cat [lit "node ", d.nodeId, lit " may not emit relation type ", r.relationType]) []
  admissible (r.producerExecutionId = some requiredExecutionId)
    "execution-emitted relation must bind exact producer execution"
  admissible (r.episodeId = episodeId) "relation belongs to a different episode"
  view.checkSourceRefs "relation" r.sourceRefs
  view.checkParticipants stagedPropIds r
  view.checkSourceVersions "relation" r.sourceVersions
  view.checkBindings "relation" r.sourceRefs r.sourceVersions

/-- The loop of `_prevalidate_episode_mutation` over the propositions; `staged` are those before. -/
def prevalidatePropositions (snapshot : EpisodeSnapshot) :
    List Proposition → List Proposition → Except RezonError (List Proposition)
  | staged, [] => return staged
  | staged, p :: ps => do
    let existing := snapshot.allPropositions.find? fun q => q.propositionId = p.propositionId
    let previous := (staged.find? fun q => q.propositionId = p.propositionId).or existing
    admissible (previous.all (· = p)) "duplicate proposition ID has conflicting content"
    admissible (¬ existing.isSome || snapshot.currentPropositions.any fun q => q.propositionId = p.propositionId)
      "retracted proposition ID cannot be silently reactivated"
    prevalidatePropositions snapshot (p :: staged) ps

def prevalidateRelations (snapshot : EpisodeSnapshot) :
    List Text → List Hyperrelation → List Hyperrelation → Except RezonError Unit
  | _, _, [] => return ()
  | knownCurrent, staged, r :: rs => do
    let existing := snapshot.allRelations.find? fun q => q.relationId = r.relationId
    let previous := (staged.find? fun q => q.relationId = r.relationId).or existing
    admissible (previous.all (· = r)) "duplicate relation ID has conflicting content"
    admissible (¬ existing.isSome || snapshot.currentRelations.any fun q => q.relationId = r.relationId)
      "invalidated relation ID cannot be silently reactivated"
    requireNone .admissionError ((r.participants.map Participant.refId).filter (· ∉ knownCurrent))
      "relation references inactive or unknown objects: "
    prevalidateRelations snapshot (r.relationId :: knownCurrent) (r :: staged) rs

def prevalidateEpisodeMutation (e : Episode) (propositions : List Proposition) (relations : List Hyperrelation) :
    Except RezonError Unit := do
  let snapshot := e.snapshot
  let staged ← prevalidatePropositions snapshot [] propositions
  prevalidateRelations snapshot
    (snapshot.currentPropositions.map Proposition.propositionId ++
      snapshot.currentRelations.map Hyperrelation.relationId ++ staged.map Proposition.propositionId) [] relations

/-- Everything `admit_execution_result` does before it adds: what is to be added, and the receipt. -/
def govern (e : Episode) (request : AdmissionRequest) :
    Except RezonError (List Proposition × List Hyperrelation × AdmissionReceipt) := do
  let d ← request.descriptor.get .admissionError
  let result ← request.result.get .admissionError
  validateAdmissionContract d result request.view
  admissible (result.nodeId = d.nodeId) "execution result node does not match descriptor"
  admissible (¬ isEmpty result.executionId) "execution result identity must be a non-empty exact str"
  admissible (request.expectedExecutionId.all fun id => ¬ isEmpty id)
    "expected execution identity must be a non-empty exact str"
  admissible (request.expectedExecutionId.all (result.executionId = ·))
    "execution result identity does not match runner-issued execution"
  admissible (result.failures = []) "failed execution results cannot mutate canonical episode state"
  let snapshotDigest ← canonicalEpisodeSnapshotDigest rt e.snapshot
  admissible (snapshotDigest = request.expectedEpisodeSnapshotDigest)
    "canonical episode state changed after execution view was captured"
  admissible (request.taskSpecification.all fun s => ¬ isEmpty s.literalRequest)
    "task specification must satisfy exact TaskSpecification contract"
  let taskSpecificationDigest := request.taskSpecification.map (·.digest rt)
  let outputDigest ← canonicalOutputDigest rt result
  let producer ← outputDigest.mapM fun output =>
    canonicalProducerExecutionId rt d.nodeId snapshotDigest taskSpecificationDigest output
  let requiredExecutionId := request.expectedExecutionId.getD result.executionId
  result.emittedPropositions.forM (checkProposition d request.view requiredExecutionId e.episodeId)
  result.emittedRelations.forM (checkRelation rt d request.view requiredExecutionId e.episodeId
    (result.emittedPropositions.map Proposition.propositionId))
  let propositions ← result.emittedPropositions.mapM (Proposition.withProducer producer)
  let relations ← result.emittedRelations.mapM (Hyperrelation.withProducer producer)
  require .valueError (result.verificationStatus.isNone || ¬ result.verificationTargetIds.isEmpty)
    (lit "verification status requires explicit target IDs") []
  prevalidateEpisodeMutation e propositions relations
  return (propositions, relations, ⟨snapshotDigest, taskSpecificationDigest, outputDigest, producer⟩)

/-- A loop that adds objects one after another; the episode keeps what was added before one is
refused, and the refusal becomes one of the admission. -/
def addEach {α : Type} (add : Episode → Given α → Except RezonError Episode) :
    Episode → List α → Except RezonError Unit × Episode
  | e, [] => (.ok (), e)
  | e, a :: as =>
    match add e (.exact a) with
    | .ok e' => addEach add e' as
    | .error err => (.error { err with kind := .admissionError }, e)

/-- `atomic_mutation`: what a body that raises did is taken back. -/
def Episode.atomicMutation {α : Type} (e : Episode) (body : Episode → Except RezonError α × Episode) :
    Except RezonError α × Episode :=
  match body e with
  | (.ok a, e') => (.ok a, e')
  | (.error err, _) => (.error err, e)

def admitExecutionResult (e : Episode) (request : AdmissionRequest) : Except RezonError AdmissionReceipt × Episode :=
  e.atomicMutation fun e =>
    match govern rt e request with
    | .error err => (.error err, e)
    | .ok (propositions, relations, receipt) =>
      match addEach Episode.addProposition e propositions with
      | (.error err, e') => (.error err, e')
      | (.ok (), e') =>
        match addEach Episode.addRelation e' relations with
        | (.error err, e'') => (.error err, e'')
        | (.ok (), e'') => (.ok receipt, e'')

end Rezon

end VeraMono
