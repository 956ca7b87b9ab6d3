import Mathlib.Data.List.Sort
import VeraMono.Model.Recovery

/-!
# Temporal orientation

`temporal.py` of R8A0: signed evidence of the times that a response is about, and the gate that
says whether temporal claims are allowed. Times are microseconds in UTC.
-/

namespace VeraMono.Temporal

def currentTime : String := "current_time"

/-- `REQUIRED_DIMENSIONS`. -/
def allDimensions : List String :=
  [currentTime, "current_chat_time", "project_interaction_time", "durable_state_time", "event_time", "record_time",
    "retrieval_time"]

def claimDimensions : List (String × List String) :=
  [("event_timestamp", [currentTime, "event_time"]),
    ("record_freshness", [currentTime, "record_time", "retrieval_time"]),
    ("project_state_freshness",
      [currentTime, "project_interaction_time", "durable_state_time", "retrieval_time"])]

structure TimeEvidence where
  dimension : String
  value : String
  source : String
  sourceKind : String
  observedAt : String
  sourceDigest : String
  sourceKeyId : String
  sourceSignature : String
  lowerBound : Option String
  upperBound : Option String
  deriving DecidableEq

structure ClaimScope where
  scopeId : String
  claims : List String
  deriving DecidableEq

/-- The standard library and the signatures. A key may be malformed; the signature is of all fields
of the evidence but itself. -/
structure OrientationRuntime (Key : Type) where
  /-- `repr` of a list of strings. -/
  repr : List String → String
  fromIsoFormat : String → IsoParse
  publicKeyId : Key → Except RecoveryFailure String
  verifySignature : TimeEvidence → Key → Bool
  evidenceDigest : List TimeEvidence → String
  evidenceId : TimeEvidence → String
  scopeDigest : ClaimScope → List String → String

variable {Key : Type} (R : OrientationRuntime Key)

def valueFailure (message : String) : RecoveryFailure := ⟨.valueError, message⟩

/-- `datetime.min`. -/
def datetimeMin : Int := -62135596800000000

/-- A time that `datetime` can hold. -/
def inRange (time : Int) : Except RecoveryFailure Int :=
  if time < datetimeMin ∨ datetimeMax < time then .error ⟨.overflowError, "date value out of range"⟩
  else .ok time

def parseTime (value : String) : Except RecoveryFailure Int :=
  match R.fromIsoFormat (String.ofList (value.toList.flatMap fun c =>
    if c = 'Z' then ['+', '0', '0', ':', '0', '0'] else [c])) with
  | .invalid message => .error (valueFailure message)
  | .naive => .error (valueFailure "timestamps must include a timezone")
  | .instant time => inRange time

/-- Five minutes. -/
def skew : Int := 300000000

/-! ## `ClaimScope` -/

def isScopeChar (c : Char) : Bool := c.isLower && c.val < 128 || c.isDigit

/-- `_SCOPE_ID`. -/
def isScopeId (s : String) : Bool :=
  match s.toList with
  | [] => false
  | c :: cs => isScopeChar c && cs.length ≤ 63 && cs.all fun c => isScopeChar c || c = '.' || c = '_' || c = '-'

namespace ClaimScope

def validate (scope : ClaimScope) : Except RecoveryFailure Unit := do
  if ¬ isScopeId scope.scopeId then throw (valueFailure "claim scope ID is invalid")
  if scope.claims = [] ∨ ¬ scope.claims.Nodup then
    throw (valueFailure "claim scope must contain unique claims")
  match (scope.claims.filter fun claim => (claimDimensions.lookup claim).isNone).insertionSort (· ≤ ·) with
  | [] => return ()
  | unknown => throw (valueFailure s!"claim scope contains unknown claims: {R.repr unknown}")

def requiredDimensions (scope : ClaimScope) : List String :=
  (scope.claims.flatMap fun claim => (claimDimensions.lookup claim).getD []).eraseDups

end ClaimScope

/-- A claim scope as a caller gives it: a mapping has the text of its scope id, and its claims if
they are a list, of strings or of anything else. -/
inductive ScopeArg
  | scope (scope : ClaimScope)
  | mapping (fieldsExact : Bool) (scopeId : String) (claims : Option (List (Option String)))

def normalizeClaimScope : Option ScopeArg → Except RecoveryFailure (Option ClaimScope)
  | none => .ok none
  | some (.scope scope) => (scope.validate R).map fun _ => some scope
  | some (.mapping fieldsExact scopeId claims) => do
    if ¬ fieldsExact then throw (valueFailure "claim scope fields are missing or unknown")
    match claims with
    | none => throw (valueFailure "claim scope claims must be a list")
    | some items =>
      if items.any fun item => item.getD "" = "" then
        throw (valueFailure "claim scope claims must be nonempty strings")
      let scope : ClaimScope := ⟨scopeId, items.filterMap id⟩
      scope.validate R
      return some scope

/-! ## `TimeEvidence` -/

namespace TimeEvidence

/-- An optional bound, parsed where it is not empty. -/
def bound (value : Option String) : Except RecoveryFailure (Option Int) :=
  if value.getD "" = "" then .ok none else (parseTime R (value.getD "")).map some

def bounded (item : TimeEvidence) : Bool := item.lowerBound.getD "" ≠ "" && item.upperBound.getD "" ≠ ""

/-- The source of the evidence signed it. -/
def authenticate (keys : List (String × Key)) (item : TimeEvidence) : Except RecoveryFailure Unit :=
  match keys.lookup item.source with
  | none => .error (valueFailure "time evidence source authentication mismatch")
  | some key => do
    let keyId ← R.publicKeyId key
    if keyId ≠ item.sourceKeyId ∨ ¬ R.verifySignature item key then
      throw (valueFailure "time evidence source authentication mismatch")

/-- The bounds are both there or neither, and the value is between them. -/
def checkBounds (value : Int) : Option Int → Option Int → Except RecoveryFailure Unit
  | none, none => .ok ()
  | some lower, some upper =>
    if upper < lower ∨ value < lower ∨ upper < value then .error (valueFailure "invalid temporal bounds")
    else .ok ()
  | _, _ => .error (valueFailure "bounded evidence requires both bounds")

/-- The times of the evidence agree with each other. -/
def checkTimes (item : TimeEvidence) : Except RecoveryFailure Unit := do
  let value ← parseTime R item.value
  let observed ← parseTime R item.observedAt
  let lower ← bound R item.lowerBound
  let upper ← bound R item.upperBound
  checkBounds value lower upper
  let earliest ← inRange (value - skew)
  if observed < earliest then throw (valueFailure "observation predates value")

def validate (keys : List (String × Key)) (item : TimeEvidence) : Except RecoveryFailure Unit := do
  item.authenticate R keys
  if item.dimension ∉ allDimensions then throw (valueFailure "unknown time dimension")
  if item.source = "" ∨ item.sourceDigest = "" then throw (valueFailure "source and source digest are required")
  if item.sourceKind ≠ item.dimension then throw (valueFailure "time evidence source kind mismatch")
  if ¬ isSha item.sourceDigest then throw (valueFailure "source digest must be lowercase SHA-256")
  item.checkTimes R

end TimeEvidence

/-! ## `OrientationGate` -/

/-- What `evaluate` is called with, beside the evidence. -/
structure Policy where
  /-- Nothing where the time has no offset. -/
  now : Option Int
  requiredDimensions : List String
  sourceMode : String
  degradedAllowed : Bool
  claimScope : Option ScopeArg
  responseScope : Option String

structure OrientationGate (Key : Type) where
  keys : List (String × Key)
  maxAge : Int
  keys_ne : keys ≠ []
  maxAge_pos : 0 < maxAge

structure OrientationReceipt where
  state : OrientationState
  evaluatedAt : Int
  evidenceDigest : String
  missingDimensions : List String
  staleDimensions : List String
  conflictedDimensions : List String
  invalidDimensions : List String
  claimsAllowed : Bool
  sourceMode : String
  requiredDimensions : List String
  claimScope : Option ClaimScope
  claimScopeDigest : Option String
  boundedClaimsOnly : Bool
  supportingEvidenceIds : List String

def sortedDimensions (dimensions : List String) : List String := dimensions.eraseDups.insertionSort (· ≤ ·)

/-- The evidence of a dimension. -/
def grouped (evidence : List TimeEvidence) (dimension : String) : List TimeEvidence :=
  evidence.filter fun item => item.dimension = dimension

/-- The dimensions that have evidence. -/
def groups (evidence : List TimeEvidence) : List String := (evidence.map TimeEvidence.dimension).eraseDups

/-- The checked arguments of a call: the time, the dimensions and the scope. -/
def Policy.check (p : Policy) : Except RecoveryFailure (Int × List String × Option ClaimScope) := do
  if p.responseScope.isSome then
    throw (valueFailure "free-form response_scope is unsupported; use claim_scope")
  match p.now with
  | none => throw (valueFailure "now must include a timezone")
  | some now =>
    if p.sourceMode ≠ "CURRENT_SOURCE" ∧ p.sourceMode ≠ "FRESH_BOUND_SNAPSHOT" then
      throw (valueFailure "unsupported source mode")
    let now ← inRange now
    let required := p.requiredDimensions.eraseDups
    let scope ← normalizeClaimScope R p.claimScope
    if required = [] ∨ required.any fun dimension => dimension ∉ allDimensions then
      throw (valueFailure "required dimensions are empty or unknown")
    if currentTime ∉ required then throw (valueFailure "every temporal scope must require current_time")
    if scope.any fun scope => ¬ (required ⊆ scope.requiredDimensions ∧ scope.requiredDimensions ⊆ required) then
      throw (valueFailure "claim scope does not map exactly to required dimensions")
    return (now, required, scope)

namespace OrientationGate

variable (G : OrientationGate Key)

def invalidDimensions : List TimeEvidence → Except RecoveryFailure (List String)
  | [] => .ok []
  | item :: rest =>
    match item.validate R G.keys with
    | .ok () => invalidDimensions rest
    | .error e =>
      if e.kind = .valueError then (invalidDimensions rest).map (item.dimension :: ·) else .error e

/-- Whether an item is out of its age or ahead of the clock. -/
def staleItem (now : Int) (dimension : String) (item : TimeEvidence) : Except RecoveryFailure Bool := do
  let observed ← parseTime R item.observedAt
  let value ← parseTime R item.value
  return (G.maxAge < now - observed ∨ skew < observed - now ∨
    dimension = currentTime ∧ G.maxAge < (now - value).natAbs : Bool)

/-- What is found about a dimension. -/
structure Finding where
  dimension : String
  conflict : Bool
  stale : Bool
  unbounded : Bool

/-- The pass of the second loop for a dimension. -/
def assessDimension (now : Int) (sourceMode : String) (invalid : List String) (evidence : List TimeEvidence)
    (dimension : String) : Except RecoveryFailure Finding := do
  let valid := (grouped evidence dimension).filter fun _ => dimension ∉ invalid
  let stale ← sequence (valid.map (staleItem R G now dimension))
  return ⟨dimension, 1 < valid.length, stale.any id,
    sourceMode = "FRESH_BOUND_SNAPSHOT" && valid.any fun item => !item.bounded⟩

def stateOf (sourceMode : String) (conflict invalid missing stale full structuredBounded : Bool) : OrientationState :=
  if conflict then .conflicted
  else if invalid || missing then .unknown
  else if stale then .stale
  else if full then
    if sourceMode = "FRESH_BOUND_SNAPSHOT" then .completeFromFreshSnapshot else .complete
  else if structuredBounded then .degradedBounded
  else .unknown

/-- The item of a dimension that has just one. -/
def only : List TimeEvidence → Option TimeEvidence
  | [item] => some item
  | _ => none

/-- The only evidence of each required dimension that has just one. -/
def selected (evidence : List TimeEvidence) (required : List String) : List TimeEvidence :=
  required.filterMap fun dimension => only (grouped evidence dimension)

def evaluate (evidence : List TimeEvidence) (p : Policy) : Except RecoveryFailure OrientationReceipt := do
  let (now, required, scope) ← p.check R
  let invalid ← invalidDimensions R G evidence
  let missing := required.filter fun dimension => dimension ∉ groups evidence
  let findings ← sequence ((groups evidence).map (assessDimension R G now p.sourceMode invalid evidence))
  let conflict := (findings.filter Finding.conflict).map Finding.dimension
  let stale := (findings.filter Finding.stale).map Finding.dimension
  let invalid := invalid ++ (findings.filter Finding.unbounded).map Finding.dimension
  let full := allDimensions.all fun dimension => dimension ∈ required
  let chosen := selected evidence required
  let bounded := chosen.length = required.length && chosen.all TimeEvidence.bounded
  let structuredBounded := p.degradedAllowed && scope.isSome && bounded
  let state := stateOf p.sourceMode (conflict ≠ []) (invalid ≠ []) (missing ≠ []) (stale ≠ []) full structuredBounded
  return {
    state
    evaluatedAt := now
    evidenceDigest := R.evidenceDigest evidence
    missingDimensions := sortedDimensions missing
    staleDimensions := sortedDimensions stale
    conflictedDimensions := sortedDimensions conflict
    invalidDimensions := sortedDimensions invalid
    claimsAllowed := state = .complete || state = .completeFromFreshSnapshot || state = .degradedBounded
    sourceMode := p.sourceMode
    requiredDimensions := required
    claimScope := scope
    claimScopeDigest := scope.map fun scope => R.scopeDigest scope required
    boundedClaimsOnly := state = .degradedBounded
    supportingEvidenceIds := if state = .degradedBounded then chosen.map R.evidenceId else [] }

end OrientationGate

end VeraMono.Temporal
