import VeraMono.Model.Records

/-!
# Drift between a baseline and a candidate

`compare_snapshots` of the assurance package: the deterministic check a checkpoint
must pass before it is published.
-/

namespace VeraMono

variable {D : Type}

structure DriftPolicy where
  criticalFields : List String
  mutableFields : List String
  requiredFields : List String

structure DriftReport (D : Type) where
  baselineDigest : D
  candidateDigest : D
  status : DriftStatus
  findings : List FindingCode

/-- A candidate as the mapping the comparison sees: digests are hex strings. -/
def CandidateValues.mapping (H : Hashing D) (v : CandidateValues D) : List (String × PyValue) :=
  [("project_id", .str (.valid v.projectId)), ("identity_id", .str (.valid v.identityId)),
    ("runtime_id", .str (.valid v.runtimeId)),
    ("memory_head_digest", .str (.valid (H.hex v.memoryHeadDigest))),
    ("recovery_checkpoint_digest", .str (.valid (H.hex v.recoveryCheckpointDigest))),
    ("recovery_checkpoint_generation", .int v.recoveryCheckpointGeneration),
    ("control_source_digest", .str (.valid (H.hex v.controlSourceDigest)))]

/-- `dict.get`. -/
def lookupField (values : List (String × PyValue)) (field : String) : PyValue :=
  match values.find? fun kv => kv.1 = field with
  | some kv => kv.2
  | none => .none

/-- Python equality with a candidate's value, which is a string, an integer or
`None` where the candidate has no such field: `True` is 1 and `1.0` is 1. -/
def equalsCandidate (before after : PyValue) : Bool :=
  match after, before with
  | .none, .none => true
  | .str t, .str u => t = u
  | .int n, .int m => m = n
  | .int n, .bool b => n = if b then 1 else 0
  | .int n, .float (some q) => q = n
  | _, _ => false

def fieldFinding (policy : DriftPolicy) (base cand : List (String × PyValue)) (field : String) :
    Option FindingCode :=
  if equalsCandidate (lookupField base field) (lookupField cand field) then none
  else if field ∈ policy.mutableFields then none
  else if field ∈ policy.criticalFields then some .criticalDrift
  else some .undeclaredDrift

/-- The findings of `compare_snapshots`. -/
def driftFindings (policy : DriftPolicy) (base cand : List (String × PyValue)) :
    List FindingCode :=
  ((policy.requiredFields.filter fun field => field ∉ cand.map Prod.fst).map
      fun _ => .requiredFieldMissing) ++
    ((base.map Prod.fst ++ cand.map Prod.fst).dedup.insertionSort (· ≤ ·)).filterMap
      (fieldFinding policy base cand)

/-- The severity of a finding decides the status. -/
def driftStatus (findings : List FindingCode) : DriftStatus :=
  if FindingCode.requiredFieldMissing ∈ findings ∨ FindingCode.criticalDrift ∈ findings then .block
  else if findings = [] then .pass
  else .warn

/-- `Snapshot.digest` of a baseline that a caller supplied. -/
def mappingDigest (R : Runtime D) (values : List (String × PyValue)) : Except Failure D := do
  let json ← normalizeValue R.py .plain
    (.dict (values.map fun kv => (PyValue.str (.valid kv.1), kv.2)))
  return R.hash.sha256 (.snapshot R.config.currentnessSubjectId json)

def candidateDigest (R : Runtime D) (v : CandidateValues D) : D :=
  R.hash.sha256 (.candidateSnapshot R.config.currentnessSubjectId v)

/-- `compare_snapshots`; without a baseline the candidate is its own. -/
def compareSnapshots (R : Runtime D) (baseline : Option (List (String × PyValue)))
    (candidate : CandidateValues D) (policy : DriftPolicy) : Except Failure (DriftReport D) := do
  let cand := candidate.mapping R.hash
  let findings := driftFindings policy (baseline.getD cand) cand
  let baselineDigest ← match baseline with
    | none => .ok (candidateDigest R candidate)
    | some values => mappingDigest R values
  return ⟨baselineDigest, candidateDigest R candidate, driftStatus findings, findings⟩

def defaultPolicy : DriftPolicy where
  criticalFields := ["project_id", "identity_id", "control_source_digest"]
  mutableFields := ["runtime_id", "memory_head_digest", "recovery_checkpoint_digest",
    "recovery_checkpoint_generation"]
  requiredFields := ["project_id", "identity_id", "runtime_id", "memory_head_digest",
    "recovery_checkpoint_digest", "recovery_checkpoint_generation", "control_source_digest"]

end VeraMono
