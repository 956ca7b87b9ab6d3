import VeraMono.Framework.Plurality
import VeraMono.Model.TaskExecution

/-!
# Guarded replay

`rezon_guarded` of Rezon's `replay_strategies.py`: candidates that answered go through six guards, and
what is left of them is put to a vote. `casefold` is a parameter.
-/

namespace VeraMono.GuardedReplay

open Framework

/-! ## Data -/

def replayError (message : String) : Failure := ⟨.valueError, message⟩

inductive Disposition
  | answer | abstain | failClosed
  deriving DecidableEq, Repr

structure ReplaySource where
  sourceId : String
  sourceVersion : Option String
  locator : Option String
  admissionStatus : Option String
  isCurrent : Option Bool
  originId : Option String
  deriving DecidableEq

structure ReplayCandidate where
  candidateId : String
  workerId : String
  executionId : String
  answer : Option String
  solvedRequest : Option String
  sourceRefs : List String
  evidenceRefs : List String
  modelId : Option String
  providerId : Option String
  promptLineage : Option String
  contextLineage : Option String
  sawOtherAnswer : Option Bool
  commonEvidenceRefs : List String
  failure : Option String
  receiptClaims : List String
  effectStateClaim : Option String
  authorityClaims : List String
  /-- The names of the advisory signals. -/
  advisorySignals : List String
  deriving DecidableEq

structure StrategyInput where
  caseId : String
  fixtureVersion : String
  literalRequest : String
  primaryCandidateId : String
  candidates : List ReplayCandidate
  sources : List ReplaySource
  deriving DecidableEq

structure ReplayStrategyOutcome where
  disposition : Disposition
  answer : Option String := none
  acceptedCandidateIds : List String := []
  rejectedCandidateIds : List String := []
  violationsDetected : List String := []
  unresolved : List String := []
  operationCount : Nat := 0
  trace : List String := []
  deriving DecidableEq

/-! ## Validation -/

def emptyText (value : Option String) : Bool := value = some ""

def ReplaySource.validate (s : ReplaySource) : Except Failure Unit := do
  if s.sourceId = "" then throw (replayError "source_id is required")
  if emptyText s.sourceVersion then throw (replayError "source_version cannot be empty when present")
  if emptyText s.locator then throw (replayError "locator cannot be empty when present")
  if emptyText s.admissionStatus then throw (replayError "admission_status cannot be empty when present")
  if emptyText s.originId then throw (replayError "origin_id cannot be empty when present")

/-- The lists of a candidate that have no empty values. -/
def ReplayCandidate.textLists (c : ReplayCandidate) : List (String × List String) :=
  [("source_refs", c.sourceRefs), ("evidence_refs", c.evidenceRefs), ("common_evidence_refs", c.commonEvidenceRefs),
    ("receipt_claims", c.receiptClaims), ("authority_claims", c.authorityClaims)]

def ReplayCandidate.validate (c : ReplayCandidate) : Except Failure Unit := do
  if c.candidateId = "" ∨ c.workerId = "" ∨ c.executionId = "" then
    throw (replayError "candidate_id, worker_id, and execution_id are required")
  c.textLists.forM fun field =>
    if "" ∈ field.2 then throw (replayError s!"{field.1} cannot contain empty values") else pure ()
  if "" ∈ c.advisorySignals then throw (replayError "advisory signal names cannot be empty")

/-- The required fields that are empty. -/
def StrategyInput.missing (input : StrategyInput) : List String :=
  ([("case_id", input.caseId), ("fixture_version", input.fixtureVersion), ("literal_request", input.literalRequest),
    ("primary_candidate_id", input.primaryCandidateId)].filter fun field => field.2 = "").map Prod.fst

def StrategyInput.validate (input : StrategyInput) : Except Failure Unit := do
  if input.missing ≠ [] then
    let names := ", ".intercalate (input.missing.insertionSort (· ≤ ·))
    throw (replayError s!"required strategy input fields are empty: {names}")
  input.candidates.forM ReplayCandidate.validate
  input.sources.forM ReplaySource.validate
  let candidateIds := input.candidates.map (·.candidateId)
  if ¬ candidateIds.Nodup then throw (replayError "candidate IDs must be unique within a strategy input")
  if input.primaryCandidateId ∉ candidateIds then
    throw (replayError "primary_candidate_id must name a candidate")
  if ¬ (input.sources.map (·.sourceId)).Nodup then
    throw (replayError "source IDs must be unique within a strategy input")

/-! ## Normal forms -/

/-- `text.split()`. -/
def splitWords (text : String) : List String :=
  ((text.toList.splitOnP isWhitespace).filter (· ≠ [])).map String.ofList

def normalizeRequest (request : String) : String := " ".intercalate (splitWords request)

variable (casefold : String → String)

def normalizeAnswer (answer : String) : String := casefold (" ".intercalate (splitWords answer))

/-! ## Guards -/

inductive GuardName
  | propositionFidelity | provenanceCurrentness | admissionIntegrity | independenceContamination
  | failureVisibility | authorityEffectBoundary
  deriving DecidableEq, Repr

def GuardName.violation : GuardName → String
  | propositionFidelity => "PROPOSITION_FIDELITY"
  | provenanceCurrentness => "PROVENANCE_CURRENTNESS"
  | admissionIntegrity => "ADMISSION_INTEGRITY"
  | independenceContamination => "INDEPENDENCE_CONTAMINATION"
  | failureVisibility => "FAILURE_VISIBILITY"
  | authorityEffectBoundary => "AUTHORITY_EFFECT_BOUNDARY"

/-- A guard in the trace. -/
def GuardName.value : GuardName → String
  | propositionFidelity => "proposition_fidelity"
  | provenanceCurrentness => "provenance_currentness"
  | admissionIntegrity => "admission_integrity"
  | independenceContamination => "independence_contamination"
  | failureVisibility => "failure_visibility"
  | authorityEffectBoundary => "authority_effect_boundary"

structure GuardConfig where
  enabled : List GuardName

def GuardConfig.contains (g : GuardConfig) (guard : GuardName) : Bool := guard ∈ g.enabled

/-- `sources[ref]` of the map that `_source_map` makes. -/
def sourceOf (input : StrategyInput) (ref : String) : Option ReplaySource :=
  input.sources.reverse.find? fun source => source.sourceId = ref

/-- A candidate that solved another request. -/
def solvedOther (input : StrategyInput) (c : ReplayCandidate) : Bool :=
  c.solvedRequest.any fun request => normalizeRequest request ≠ normalizeRequest input.literalRequest

/-- A candidate with a source that is not said to be current. -/
def notExplicitlyCurrent (input : StrategyInput) (c : ReplayCandidate) : Bool :=
  c.sourceRefs.any fun ref => (sourceOf input ref).any fun source => source.isCurrent ≠ some true

/-- A candidate with a source that is unknown or not admitted. -/
def invalidRef (input : StrategyInput) (c : ReplayCandidate) : Bool :=
  c.sourceRefs.any fun ref => (sourceOf input ref).all fun source => source.admissionStatus ≠ some "ADMITTED"

/-- A candidate that claims an effect or authority. -/
def overreach (c : ReplayCandidate) : Bool :=
  (c.effectStateClaim ≠ none && c.effectStateClaim ≠ some "PLAN") || !c.authorityClaims.isEmpty

def sameLineage (left right : Option String) : Bool := left.isSome && left = right

/-- Two candidates of one lineage, or with evidence in common. -/
def correlatedPair (left right : ReplayCandidate) : Bool :=
  sameLineage left.modelId right.modelId || sameLineage left.providerId right.providerId ||
    sameLineage left.promptLineage right.promptLineage || sameLineage left.contextLineage right.contextLineage ||
    left.commonEvidenceRefs.any (· ∈ right.commonEvidenceRefs)

/-- The two loops of `_correlated_candidates`. -/
def correlatedPairs : List ReplayCandidate → List String
  | [] => []
  | left :: rest =>
    (rest.flatMap fun right =>
      if correlatedPair left right then [left.candidateId, right.candidateId] else []) ++ correlatedPairs rest

def correlatedCandidates (candidates : List ReplayCandidate) : List String :=
  (candidates.filter (·.sawOtherAnswer = some true)).map (·.candidateId) ++ correlatedPairs candidates

/-- What the guards have found. -/
structure Governance where
  rejected : List String := []
  violations : List String := []
  unresolved : List String := []
  operationCount : Nat := 0
  trace : List String := []
  failureBlock : Bool := false

def Governance.violate (g : Governance) (guard : GuardName) : Governance :=
  { g with violations := if guard.violation ∈ g.violations then g.violations else g.violations ++ [guard.violation] }

def Governance.reject (g : Governance) (guard : GuardName) (verb candidateId : String) : Governance :=
  let g := g.violate guard
  { g with
    rejected := g.rejected ++ [candidateId]
    trace := g.trace ++ [s!"guard:{guard.value}:{verb}:{candidateId}"] }

/-- A guard looks at a candidate. -/
def Governance.check (guard : GuardName) (fails : ReplayCandidate → Bool) (g : Governance) (c : ReplayCandidate) :
    Governance :=
  let g := { g with operationCount := g.operationCount + 1 }
  if fails c then g.reject guard "reject" c.candidateId else g

/-- The failure of a candidate is made visible. -/
def Governance.observeFailure (g : Governance) (c : ReplayCandidate) : Governance :=
  let g := { g with operationCount := g.operationCount + 1 }
  match c.failure with
  | some failure =>
    let g := g.reject .failureVisibility "observe" c.candidateId
    { g with failureBlock := true, unresolved := g.unresolved ++ [s!"{c.candidateId}:{failure}"] }
  | none => g

variable (guards : GuardConfig) (input : StrategyInput)

/-- The candidates that answered without a failure. -/
def answering : List ReplayCandidate := input.candidates.filter fun c => c.answer.isSome && c.failure.isNone

/-- A guard that looks at one candidate after the other. -/
def guardEach (guard : GuardName) (fails : ReplayCandidate → Bool) (g : Governance) : Governance :=
  if guards.contains guard then
    (answering input).foldl (Governance.check guard fails) g
  else g

def guardIndependence (g : Governance) : Governance :=
  if guards.contains .independenceContamination then
    let correlated := correlatedCandidates (answering input)
    let g := { g with operationCount := g.operationCount + (answering input).length }
    if correlated = [] then g
    else
      { g with
        rejected := g.rejected ++ correlated
        violations := g.violations ++ [GuardName.independenceContamination.violation]
        trace := g.trace ++ (sortedSet correlated).map fun candidateId =>
          s!"guard:{GuardName.independenceContamination.value}:reject:{candidateId}" }
  else g

def guardFailures (g : Governance) : Governance :=
  if guards.contains .failureVisibility then
    input.candidates.foldl Governance.observeFailure g
  else g

/-- All guards, in their order. -/
def govern : Governance :=
  let g := guardEach guards input .propositionFidelity (solvedOther input) {}
  let g := guardEach guards input .provenanceCurrentness (notExplicitlyCurrent input) g
  let g := guardEach guards input .admissionIntegrity (invalidRef input) g
  let g := guardIndependence guards input g
  let g := guardFailures guards input g
  guardEach guards input .authorityEffectBoundary overreach g

/-! ## Integration -/

/-- The identifiers of the rejected candidates, in the order of the candidates. -/
def rejectedIds (rejected : List String) : List String :=
  (input.candidates.map (·.candidateId)).filter (· ∈ rejected)

/-- An outcome without an answer. -/
def abstain (g : Governance) : ReplayStrategyOutcome where
  disposition := .abstain
  rejectedCandidateIds := rejectedIds input g.rejected
  violationsDetected := g.violations
  unresolved := g.unresolved
  operationCount := g.operationCount
  trace := g.trace

/-- The candidates that no guard has rejected. -/
def eligible (g : Governance) : List ReplayCandidate :=
  (answering input).filter fun c => c.candidateId ∉ g.rejected

/-- The normal form of a candidate's answer. -/
def normalized (c : ReplayCandidate) : String := normalizeAnswer casefold (c.answer.getD "")

/-- The vote of the eligible candidates. -/
def integrate (g : Governance) : ReplayStrategyOutcome :=
  let eligible := eligible input g
  let votes := eligible.map (normalized casefold)
  let g := { g with operationCount := g.operationCount + eligible.length }
  match winners votes with
  | [winning] =>
    let accepted := eligible.filter fun c => normalized casefold c = winning
    let others := eligible.filter fun c => normalized casefold c ≠ winning
    { disposition := .answer
      answer := accepted.head?.bind (·.answer)
      acceptedCandidateIds := accepted.map (·.candidateId)
      rejectedCandidateIds := rejectedIds input (g.rejected ++ others.map (·.candidateId))
      violationsDetected := g.violations
      unresolved := g.unresolved
      operationCount := g.operationCount
      trace := g.trace ++ accepted.map fun c => s!"integrate:accept:{c.candidateId}" }
  | tied =>
    abstain input { g with
      unresolved := g.unresolved ++ ["eligible_answer_tie"]
      trace := g.trace ++ ["integrate:ambiguous_tie:" ++ "|".intercalate tied] }

def rezonGuarded : Except Failure ReplayStrategyOutcome := do
  input.validate
  let g := govern guards input
  if g.failureBlock then return abstain input g
  if eligible input g = [] then return abstain input g
  return integrate casefold input g

end VeraMono.GuardedReplay
