import VeraMono.Framework.Checks
import VeraMono.Model.IntranelJson
import VeraMono.Model.ResourceLease

/-!
# The feedback learner

`LocalFeedbackLearner` of `local_feedback_learning.py`: versions of exact-cue answers, the
staged candidate, its evaluation on held-out cases, approval and rollback. A call that raises
leaves nothing to go on with: the journal, its only caller here, works on a copy that it drops.
-/

namespace VeraMono

open Framework

namespace Feedback

inductive LearningError
  | learningBlocked (message : String)
  | valueError (message : String)
  deriving DecidableEq, Repr

open LearningError

/-- What the learner and the journal call. -/
structure Runtime where
  casefold : String → String
  /-- `sha256(text.encode("utf-8")).hexdigest()`. -/
  sha256 : String → String
  /-- `sha256(key).hexdigest()`. -/
  keyDigest : List UInt8 → String
  /-- Whether the key verifies a signature, written in hexadecimal, of a text. -/
  verify : List UInt8 → String → String → Bool
  /-- `json.loads` of a text that spells a document without floats. -/
  loads : String → Option Json

variable (rt : Runtime)

/-! ## Texts -/

def bounded (name : String) (limit : Nat) (value : String) : Except LearningError String :=
  if ¬ nonblank value ∨ limit < value.length then
    .error (valueError s!"{name} must be a bounded non-empty exact string")
  else .ok value

/-- `_cue`. -/
def cueOf (value : String) : Except LearningError String :=
  (bounded "cue" 512 value).map fun v => rt.casefold (String.ofList (strip v.toList))

/-- `_canonical`, and the text that `_hash` takes. -/
def canonical (document : Json) : String := String.ofList (Intranel.sortKeys document).dumps

/-- `_hash`, `_digest`. -/
def hash (document : Json) : String := rt.sha256 (canonical document)

/-! ## Samples and cases -/

structure FeedbackSample where
  sampleId : String
  sourceId : String
  cue : String
  answer : String
  consentRef : String
  privacyReviewRef : String
  provenanceRef : String
  deriving DecidableEq

structure HeldoutCase where
  caseId : String
  sourceId : String
  cue : String
  expected : String
  deriving DecidableEq

structure LocalFeedbackEvaluation where
  candidateRevision : String
  baselineRevision : String
  heldoutSha256 : String
  heldoutCases : Nat
  baselinePasses : Nat
  candidatePasses : Nat
  regressions : List String
  qualified : Bool
  authorizationEffect : String := "NONE"
  memoryAdmission : String := "NONE"
  deriving DecidableEq

def FeedbackSample.validate (row : FeedbackSample) : Except LearningError Unit := do
  let _ ← bounded "sample_id" 256 row.sampleId
  let _ ← bounded "source_id" 256 row.sourceId
  let _ ← bounded "consent_ref" 256 row.consentRef
  let _ ← bounded "privacy_review_ref" 256 row.privacyReviewRef
  let _ ← bounded "provenance_ref" 256 row.provenanceRef
  let _ ← cueOf rt row.cue
  let _ ← bounded "answer" 1024 row.answer

def HeldoutCase.validate (case : HeldoutCase) : Except LearningError Unit := do
  let _ ← bounded "case_id" 256 case.caseId
  let _ ← bounded "source_id" 256 case.sourceId
  let _ ← cueOf rt case.cue
  let _ ← bounded "expected" 1024 case.expected

/-- `asdict` of a sample, its keys in the order of `sort_keys`. -/
def FeedbackSample.document (row : FeedbackSample) : Json :=
  .obj [("answer", .str row.answer), ("consent_ref", .str row.consentRef), ("cue", .str row.cue),
    ("privacy_review_ref", .str row.privacyReviewRef), ("provenance_ref", .str row.provenanceRef),
    ("sample_id", .str row.sampleId), ("source_id", .str row.sourceId)]

/-- `asdict` of a case. -/
def HeldoutCase.document (case : HeldoutCase) : Json :=
  .obj [("case_id", .str case.caseId), ("cue", .str case.cue), ("expected", .str case.expected),
    ("source_id", .str case.sourceId)]

/-- `_evaluation_dict`. -/
def LocalFeedbackEvaluation.document (evidence : LocalFeedbackEvaluation) : Json :=
  .obj [("authorization_effect", .str evidence.authorizationEffect), ("baseline_passes", .int evidence.baselinePasses),
    ("baseline_revision", .str evidence.baselineRevision), ("candidate_passes", .int evidence.candidatePasses),
    ("candidate_revision", .str evidence.candidateRevision), ("heldout_cases", .int evidence.heldoutCases),
    ("heldout_sha256", .str evidence.heldoutSha256), ("memory_admission", .str evidence.memoryAdmission),
    ("qualified", .bool evidence.qualified), ("regressions", .arr (evidence.regressions.map .str))]

def versionDocument (samples : List FeedbackSample) : Json :=
  .obj [("local_feedback_schema", .int 1), ("samples", .arr (samples.map FeedbackSample.document))]

/-! ## The learner -/

def maxSamples : Nat := 64

def maxHoldout : Nat := 128

/-- A version under its revision, a sample under its cue. -/
abbrev Entry (α : Type) := String × α

/-- `LocalFeedbackLearner`. -/
structure Learner where
  versions : Table (Prod.fst : Entry (List FeedbackSample) → String)
  activeRevision : String
  pending : Option (String × List FeedbackSample)
  lastEvaluation : Option LocalFeedbackEvaluation
  lastEvaluatedCases : Option (List HeldoutCase)
  approvedCanaries : List HeldoutCase
  /-- The action, the revision and the reference of each review. -/
  reviews : List (String × String × String)

def genesisRevision : String := hash rt (versionDocument [])

/-- `LocalFeedbackLearner.__init__`. -/
def Learner.new : Learner where
  versions := Table.empty.insert (genesisRevision rt, [])
  activeRevision := genesisRevision rt
  pending := none
  lastEvaluation := none
  lastEvaluatedCases := none
  approvedCanaries := []
  reviews := []

def Learner.version (learner : Learner) (revision : String) : List FeedbackSample :=
  ((learner.versions.get? revision).map Prod.snd).getD []

/-- `next(iter(learner._versions))`. -/
def Learner.firstVersion (learner : Learner) : String := (learner.versions.rows.head?.map Prod.fst).getD ""

/-- The answer to a cue, already normalised. -/
def answerOf (normalized : String) : List FeedbackSample → Except LearningError (Option String)
  | [] => .ok none
  | item :: samples => do
    if (← cueOf rt item.cue) = normalized then return some item.answer
    answerOf normalized samples

/-- `LocalFeedbackLearner._lookup`. -/
def lookupIn (samples : List FeedbackSample) (cue : String) : Except LearningError (Option String) := do
  answerOf rt (← cueOf rt cue) samples

def Learner.lookup (learner : Learner) (cue : String) : Except LearningError (Option String) :=
  lookupIn rt (learner.version learner.activeRevision) cue

/-! ## Staging -/

/-- A candidate: samples under their cues. -/
abbrev Candidate := Table (Prod.fst : Entry FeedbackSample → String)

/-- The candidate of a version's own samples. -/
def candidateOf : List FeedbackSample → Candidate → Except LearningError Candidate
  | [], candidate => .ok candidate
  | row :: rows, candidate => do candidateOf rows (candidate.upsert (← cueOf rt row.cue, row))

/-- The loop of `stage` over what is submitted. -/
def submit : List FeedbackSample → List String → List String → Candidate → Except LearningError Candidate
  | [], _, _, candidate => .ok candidate
  | row :: rows, ids, cues, candidate => do
    row.validate rt
    let cue ← cueOf rt row.cue
    if row.sampleId ∈ ids ∨ cue ∈ cues then
      throw (learningBlocked "duplicate sample ID or conflicting cue in stage")
    submit rows (ids ++ [row.sampleId]) (cues ++ [cue]) (candidate.upsert (cue, row))

/-- The samples of a candidate, in the order of their cues. -/
def ordered (candidate : Candidate) : List FeedbackSample :=
  (candidate.rows.insertionSort fun a b => a.1 ≤ b.1).map Prod.snd

def Learner.stage (learner : Learner) (samples : List FeedbackSample) : Except LearningError (String × Learner) := do
  if samples = [] ∨ maxSamples < samples.length then
    throw (learningBlocked "stage requires a bounded non-empty tuple")
  let candidate ← candidateOf rt (learner.version learner.activeRevision) .empty
  let candidate ← submit rt samples [] [] candidate
  if maxSamples < candidate.rows.length then
    throw (learningBlocked "candidate exceeds local sample bound")
  if ¬ ((ordered candidate).map FeedbackSample.sampleId).Nodup then
    throw (learningBlocked "sample ID cannot rebind to another cue")
  let digest := hash rt (versionDocument (ordered candidate))
  if digest = learner.activeRevision then
    throw (learningBlocked "stage does not change the approved retrieval version")
  return (digest, { learner with
    pending := some (digest, ordered candidate), lastEvaluation := none, lastEvaluatedCases := none })

/-! ## Evaluation -/

/-- The accumulators of `evaluate`. -/
structure Scores where
  caseIds : List String := []
  caseSources : List String := []
  caseCues : List String := []
  baselinePasses : Nat := 0
  candidatePasses : Nat := 0
  regressions : List String := []

/-- One held-out case. -/
def score (active candidate : List FeedbackSample) (canaries index : Nat) (scores : Scores) (case : HeldoutCase) :
    Except LearningError Scores := do
  case.validate rt
  let cue ← cueOf rt case.cue
  if case.caseId ∈ scores.caseIds ∨ case.caseId ∈ (candidate ++ active).map FeedbackSample.sampleId ∨
      case.sourceId ∈ (candidate ++ active).map FeedbackSample.sourceId ∨
      case.sourceId ∈ scores.caseSources ∨ cue ∈ scores.caseCues then
    throw (learningBlocked "held-out case, source, or content is not independent")
  let before := decide ((← lookupIn rt active case.cue) = some case.expected)
  let after := decide ((← lookupIn rt candidate case.cue) = some case.expected)
  return {
    caseIds := scores.caseIds ++ [case.caseId]
    caseSources := scores.caseSources ++ [case.sourceId]
    caseCues := scores.caseCues ++ [cue]
    baselinePasses := scores.baselinePasses + before.toNat
    candidatePasses := scores.candidatePasses + after.toNat
    -- A canary that the candidate fails is a regression even where the active version fails it too.
    regressions := scores.regressions ++ if !after && (before || index < canaries) then [case.caseId] else [] }

/-- The loop of `evaluate`. -/
def scoreAll (active candidate : List FeedbackSample) (canaries : Nat) :
    List HeldoutCase → Nat → Scores → Except LearningError Scores
  | [], _, scores => .ok scores
  | case :: cases, index, scores => do
    scoreAll active candidate canaries cases (index + 1) (← score rt active candidate canaries index scores case)

def Learner.evaluate (learner : Learner) (candidateRevision : String) (holdout : List HeldoutCase) :
    Except LearningError (LocalFeedbackEvaluation × Learner) := do
  match learner.pending with
  | none => throw (learningBlocked "candidate is not the current staged revision")
  | some (revision, candidate) =>
    if candidateRevision ≠ revision then
      throw (learningBlocked "candidate is not the current staged revision")
    if maxHoldout < holdout.length ∨ (holdout = [] ∧ learner.approvedCanaries = []) then
      throw (learningBlocked "evaluation requires new or previously approved held-out cases")
    let allCases := learner.approvedCanaries ++ holdout
    if maxHoldout < allCases.length then
      throw (learningBlocked "cumulative held-out canaries exceed evaluation bound")
    let scores ← scoreAll rt (learner.version learner.activeRevision) candidate learner.approvedCanaries.length
      allCases 0 {}
    let result : LocalFeedbackEvaluation := {
      candidateRevision
      baselineRevision := learner.activeRevision
      heldoutSha256 := hash rt (.arr (allCases.map HeldoutCase.document))
      heldoutCases := allCases.length
      baselinePasses := scores.baselinePasses
      candidatePasses := scores.candidatePasses
      regressions := scores.regressions
      qualified := scores.regressions.isEmpty && scores.candidatePasses == allCases.length &&
        scores.candidatePasses > scores.baselinePasses }
    return (result, { learner with lastEvaluation := some result, lastEvaluatedCases := some allCases })

/-! ## Reviews -/

/-- The checks that `approve` and `rollback` share. -/
def Learner.checkReference (learner : Learner) (approvalRef : String) : Except LearningError Unit := do
  let _ ← bounded "approval_ref" 256 approvalRef
  if approvalRef ∈ learner.reviews.map (·.2.2) then
    throw (learningBlocked "operator review reference has already been consumed")

def Learner.approve (learner : Learner) (evidence : LocalFeedbackEvaluation) (approvalRef : String) :
    Except LearningError Learner := do
  learner.checkReference approvalRef
  match learner.pending, learner.lastEvaluatedCases with
  | some (revision, samples), some cases =>
    if learner.lastEvaluation ≠ some evidence ∨ revision ≠ evidence.candidateRevision ∨
        evidence.baselineRevision ≠ learner.activeRevision ∨ ¬ evidence.qualified then
      throw (learningBlocked "candidate lacks a current qualified held-out review")
    return {
      versions := learner.versions.upsert (revision, samples)
      activeRevision := revision
      pending := none
      lastEvaluation := none
      lastEvaluatedCases := none
      approvedCanaries := cases
      reviews := learner.reviews ++ [("APPROVE", revision, approvalRef)] }
  | _, _ => throw (learningBlocked "candidate lacks a current qualified held-out review")

def Learner.rollback (learner : Learner) (revision approvalRef : String) : Except LearningError Learner := do
  learner.checkReference approvalRef
  if learner.versions.get? revision = none ∨ revision = learner.activeRevision then
    throw (learningBlocked "rollback requires another previously approved revision")
  return { learner with
    activeRevision := revision
    pending := none
    lastEvaluation := none
    lastEvaluatedCases := none
    reviews := learner.reviews ++ [("ROLLBACK", revision, approvalRef)] }

end Feedback

end VeraMono
