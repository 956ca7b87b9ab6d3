import VeraMono.Model.Admission

/-!
# Views and schedules

What an execution may see of an episode (`visibility.py`), what it may call independent
(`receipts.py`), and which node is next (`scheduler.py`).
-/

namespace VeraMono

open Framework

namespace Rezon

variable (rt : Runtime)

/-! ## Independence -/

structure IndependenceMetadata where
  executorId : Option Text
  modelId : Option Text
  providerId : Option Text
  promptLineage : Option Text
  contextLineage : Option Text
  sawOtherAnswer : Option Bool
  commonEvidenceRefs : List Text
  consumedEvidenceRefs : List Text
  independenceBasisRefs : List Text
  deriving DecidableEq

namespace IndependenceMetadata

/-- `IndependenceMetadata()`. -/
def unset : IndependenceMetadata := ⟨none, none, none, none, none, none, [], [], []⟩

/-- A field is a text that is not empty. -/
def isNonempty (field : Option Text) : Bool := field.any fun t => ¬ isEmpty t

def trustedBasis (ref : Text) : Bool :=
  ["policy:", "receipt:", "review:", "runtime:"].any fun start => (lit start).codePoints.isPrefixOf ref.codePoints

def isDemonstrablyIndependent (m : IndependenceMetadata) : Bool :=
  [m.executorId, m.modelId, m.providerId, m.promptLineage, m.contextLineage].all isNonempty &&
    m.sawOtherAnswer = some false && filled m.commonEvidenceRefs && filled m.consumedEvidenceRefs &&
    ¬ m.independenceBasisRefs.isEmpty && filled m.independenceBasisRefs && m.commonEvidenceRefs.isEmpty &&
    m.independenceBasisRefs.all trustedBasis

/-- The two lists have a text in common. -/
def overlap (ts us : List Text) : Bool := ts.any (· ∈ us)

def demonstrablyIndependentFrom (m other : IndependenceMetadata) : Bool :=
  m.isDemonstrablyIndependent && other.isDemonstrablyIndependent && m.executorId ≠ other.executorId &&
    m.modelId ≠ other.modelId && m.providerId ≠ other.providerId && m.promptLineage ≠ other.promptLineage &&
    m.contextLineage ≠ other.contextLineage && ¬ overlap m.commonEvidenceRefs other.commonEvidenceRefs &&
    ¬ overlap m.consumedEvidenceRefs other.consumedEvidenceRefs

end IndependenceMetadata

structure IndependenceVerificationEvidence where
  basisRef : Text
  executorId : Text
  modelId : Text
  providerId : Text
  promptLineage : Text
  contextLineage : Text
  verificationRefs : List Text
  sawOtherAnswer : Option Bool
  commonEvidenceRefs : Option (List Text)
  consumedEvidenceRefs : Option (List Text)
  deriving DecidableEq

/-- `_is_exact_independence_verification_evidence`. -/
def IndependenceVerificationEvidence.isExact (v : IndependenceVerificationEvidence) : Bool :=
  filled [v.basisRef, v.executorId, v.modelId, v.providerId, v.promptLineage, v.contextLineage] &&
    IndependenceMetadata.trustedBasis v.basisRef && ¬ v.verificationRefs.isEmpty && filled v.verificationRefs &&
    v.sawOtherAnswer = some false && v.commonEvidenceRefs.any filled && v.consumedEvidenceRefs.any filled

/-- The evidence is of just what the metadata says. -/
def IndependenceVerificationEvidence.matches (v : IndependenceVerificationEvidence) (m : IndependenceMetadata) :
    Bool :=
  v.basisRef ∈ m.independenceBasisRefs && some v.executorId = m.executorId && some v.modelId = m.modelId &&
    some v.providerId = m.providerId && some v.promptLineage = m.promptLineage &&
    some v.contextLineage = m.contextLineage && v.sawOtherAnswer = m.sawOtherAnswer &&
    v.sawOtherAnswer = some false && v.commonEvidenceRefs = some m.commonEvidenceRefs &&
    v.consumedEvidenceRefs = some m.consumedEvidenceRefs

def verifyIndependence (evidence : List IndependenceVerificationEvidence) (m : IndependenceMetadata) : Bool :=
  evidence.all IndependenceVerificationEvidence.isExact && m.isDemonstrablyIndependent &&
    evidence.any fun v => v.matches m

/-! ## Views -/

structure ExecutionView where
  executionId : Text
  episodeVersion : Text
  propositions : List Proposition
  relations : List Hyperrelation
  blindedPropositionIds : List Text
  blindedRelationIds : List Text
  independence : IndependenceMetadata
  taskEnvelope : Option TaskEnvelope
  taskSpecification : Option TaskSpecification
  deriving DecidableEq

structure VisibilityPolicy where
  allowKinds : List PropositionKind
  allowIds : List Text
  blindKinds : List PropositionKind
  blindIds : List Text
  deriving DecidableEq

namespace VisibilityPolicy

variable (policy : VisibilityPolicy)

def shows (p : Proposition) : Bool :=
  ((policy.allowIds.isEmpty && policy.allowKinds.isEmpty) || p.propositionId ∈ policy.allowIds ||
      p.kind ∈ policy.allowKinds) &&
    ¬ (p.propositionId ∈ policy.blindIds || p.kind ∈ policy.blindKinds)

def showsRelation (visibleIds : List Text) (r : Hyperrelation) : Bool :=
  (r.participants.map Participant.refId).all (· ∈ visibleIds) &&
    (policy.allowIds.isEmpty || r.relationId ∈ policy.allowIds) && ¬ (r.relationId ∈ policy.blindIds : Bool)

def visibleRelations : List Text → List Hyperrelation → List Hyperrelation
  | _, [] => []
  | visibleIds, r :: rs =>
    if policy.showsRelation visibleIds r then r :: visibleRelations (r.relationId :: visibleIds) rs
    else visibleRelations visibleIds rs

/-- The ids of the relations that the loop leaves out. -/
def blindedRelations : List Text → List Hyperrelation → List Text
  | _, [] => []
  | visibleIds, r :: rs =>
    if policy.showsRelation visibleIds r then blindedRelations (r.relationId :: visibleIds) rs
    else r.relationId :: blindedRelations visibleIds rs

end VisibilityPolicy

def buildExecutionView (executionId : Text) (snapshot : EpisodeSnapshot) (policy : VisibilityPolicy)
    (independence : IndependenceMetadata) (taskEnvelope : Option TaskEnvelope) : ExecutionView :=
  let visible := snapshot.currentPropositions.filter policy.shows
  let visibleIds := visible.map Proposition.propositionId
  { executionId
    episodeVersion := snapshot.versionRef
    propositions := visible
    relations := policy.visibleRelations visibleIds snapshot.currentRelations
    blindedPropositionIds := (snapshot.currentPropositions.filter fun p => ¬ policy.shows p).map
      Proposition.propositionId
    blindedRelationIds := policy.blindedRelations visibleIds snapshot.currentRelations
    independence
    taskEnvelope
    taskSpecification := taskEnvelope.map TaskEnvelope.toTaskSpecification }

namespace ExecutionView

/-- `_view_source_refs`. -/
def sourceRefs (v : ExecutionView) : List Text :=
  (v.propositions.flatMap Proposition.sourceRefs ++ v.relations.flatMap Hyperrelation.sourceRefs).eraseDups

/-- `_view_governed_refs`. -/
def governedRefs (v : ExecutionView) : List Text :=
  (v.propositions.map Proposition.propositionId ++ v.relations.map Hyperrelation.relationId ++ v.sourceRefs).eraseDups

/-- `_view_source_versions`. -/
def sourceVersions (v : ExecutionView) : List Text :=
  (v.propositions.flatMap Proposition.sourceVersions ++ v.relations.flatMap Hyperrelation.sourceVersions).eraseDups

/-- `_view_source_bindings`. -/
def sourceBindings (v : ExecutionView) : List (Text × Text) :=
  ((v.propositions.map fun p => (p.sourceRefs, p.sourceVersions)) ++
      v.relations.map fun r => (r.sourceRefs, r.sourceVersions)).flatMap
    (fun source => (sourceRefVersionBindings source.1 source.2).getD []) |>.eraseDups

def evidence (v : ExecutionView) : List Proposition := v.propositions.filter fun p => p.kind = .evidence

/-- `_view_potentially_consumed_evidence_refs`. -/
def potentiallyConsumedEvidenceRefs (v : ExecutionView) : List Text :=
  (v.evidence.flatMap fun p => p.propositionId :: p.sourceRefs).eraseDups

/-- `_view_potentially_consumed_evidence_versions`. -/
def potentiallyConsumedEvidenceVersions (v : ExecutionView) : List Text :=
  (v.evidence.flatMap Proposition.sourceVersions).eraseDups

/-- `_independence_view_is_blind`. -/
def isBlind (v : ExecutionView) (d : NodeDescriptor) : Bool :=
  v.propositions.all (fun p => p.producerExecutionId.isNone) &&
    v.propositions.all (fun p =>
      ¬ (p.kind ∈ d.independenceBlindKinds || p.propositionId ∈ d.independenceBlindIds)) &&
    v.relations.all fun r => r.producerExecutionId.isNone

end ExecutionView

/-! ## Schedules -/

structure Budget where
  limit : Int
  used : Nat
  deriving DecidableEq

/-- A decision: to stop, with a failure or none and the reason, or to execute a node. -/
inductive ScheduleDecision
  | terminate (reason : String) (failure : Option FailureState)
  | execute (nodeIndex : Nat) (nodeId : Text) (targetId : Option Text)
  deriving DecidableEq

/-- Executes the node at the index, within the budget. -/
def schedule (nodes : List NodeDescriptor) (budget : Budget) (nodeIndex : Nat) (targetId : Option Text) :
    ScheduleDecision :=
  match nodes[nodeIndex]? with
  | none => .terminate "no_applicable_rule" none
  | some node =>
    if budget.limit ≤ budget.used then .terminate "budget_exhausted" (some .resourceLimit)
    else .execute nodeIndex node.nodeId targetId

def pendingIndex (nodes : List NodeDescriptor) (completed : List Text) (p : NodeDescriptor → Bool) : Option Nat :=
  nodes.findIdx? fun node => p node && node.nodeId ∉ completed

/-- The float `0.8`. -/
def highConfidence : Rat := 3602879701896397 / 4503599627370496

/-- `DeterministicScheduler.next`: the rules in their order, each if it applies. -/
def DeterministicScheduler.next (snapshot : EpisodeSnapshot) (nodes : List NodeDescriptor) (completed : List Text)
    (budget : Budget) : ScheduleDecision :=
  let hypotheses := snapshot.currentPropositions.filter fun p => p.kind = .hypothesis
  let contradiction := snapshot.currentRelations.find? fun r => rt.lower r.relationType = lit "contradicts"
  let confident := hypotheses.find? fun p => highConfidence ≤ p.confidence.getD 0
  if ¬ nodes.all NodeDescriptor.contractIsExact then
    .terminate "invalid_node_descriptor_contract" (some .contractViolation)
  else if ¬ (nodes.map NodeDescriptor.nodeId).Nodup then .terminate "duplicate_node_id" (some .contractViolation)
  else
    match pendingIndex nodes completed NodeDescriptor.mandatoryVerification with
    | some index => schedule nodes budget index none
    | none =>
    match pendingIndex nodes completed (fun node => node.nodeId = lit "contradiction_scanner"), contradiction with
    | some index, some relation => schedule nodes budget index (some relation.relationId)
    | _, _ =>
    match pendingIndex nodes completed (fun node => node.nodeId = lit "echo_hypothesis" &&
        (node.independenceRequired || hypotheses.isEmpty)) with
    | some index => schedule nodes budget index none
    | none =>
    match pendingIndex nodes completed (fun node => node.nodeId = lit "falsifier"), confident with
    | some index, some target => schedule nodes budget index (some target.propositionId)
    | _, _ => .terminate "no_applicable_rule" none

end Rezon

end VeraMono
