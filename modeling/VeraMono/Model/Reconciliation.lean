import VeraMono.Model.ResourceLease
import VeraMono.Model.StoredMemory
import VeraMono.Model.TaskLedger

/-!
# Exact reconciliation

`ProviderEvidenceEnvelope` of `runtime_cohesion`'s `evidence.py`, and `reconcile_exact` of
`reconcile.py`: what several observations of one subject say together. No observation wins because
it is the later one.
-/

namespace VeraMono.Reconciliation

def valueFailure (message : String) : Failure := ⟨.valueError, message⟩

/-! ## Observations -/

inductive SupersessionState
  | currentObservation | superseded | unknown | notApplicable
  deriving DecidableEq, Repr

inductive ConflictState
  | none | conflict | mismatch | unknown | notApplicable
  deriving DecidableEq, Repr

/-- `ALLOWED_SUPERSESSION_STATES`. -/
def SupersessionState.ofText? : String → Option SupersessionState
  | "CURRENT_OBSERVATION" => some .currentObservation
  | "SUPERSEDED" => some .superseded
  | "UNKNOWN" => some .unknown
  | "NOT_APPLICABLE" => some .notApplicable
  | _ => Option.none

/-- `ALLOWED_CONFLICT_STATES`. -/
def ConflictState.ofText? : String → Option ConflictState
  | "NONE" => some .none
  | "CONFLICT" => some .conflict
  | "MISMATCH" => some .mismatch
  | "UNKNOWN" => some .unknown
  | "NOT_APPLICABLE" => some .notApplicable
  | _ => Option.none

structure EnvelopeArguments where
  provider : String
  locator : String
  revision : String
  observedAt : String
  evidenceClass : String
  referent : String
  scope : String
  privacyClass : String
  currentnessBasis : String
  supersessionState : String
  conflictState : String
  contentDigest : Option String
  receiptRef : Option String
  metadata : List (PyValue × PyValue)

structure ProviderEvidenceEnvelope where
  provider : String
  locator : String
  revision : String
  observedAt : String
  evidenceClass : String
  referent : String
  scope : String
  privacyClass : String
  currentnessBasis : String
  supersessionState : SupersessionState
  conflictState : ConflictState
  contentDigest : Option String
  receiptRef : Option String
  metadata : List (PyValue × PyValue)

def requiredText (name value : String) : Except Failure String :=
  if nonblank value then .ok (.ofList (strip value.toList))
  else .error (valueFailure s!"{name} must be a non-empty string")

variable (py : Stdlib)

/-- `_aware_timestamp`. A time that is out of range in UTC is aware all the same. -/
def awareTimestamp (value : String) : Except Failure String := do
  let text ← requiredText "observed_at" value
  match py.parseTimestamp text with
  | .invalid => throw (valueFailure "observed_at must be a valid ISO-8601 timestamp")
  | .naive => throw (valueFailure "observed_at must be timezone-aware")
  | .outOfRange => return text
  | .utc _ => return text

/-- A field that may be `None`. -/
def optionalText (name : String) : Option String → Except Failure (Option String)
  | some value => some <$> requiredText name value
  | none => .ok none

/-- `metadata.get(key) is True`. -/
def declares (key : String) (metadata : List (PyValue × PyValue)) : Bool :=
  match dictGet? key metadata with
  | some (.bool true) => true
  | _ => false

def ProviderEvidenceEnvelope.postInit (args : EnvelopeArguments) :
    Except Failure ProviderEvidenceEnvelope := do
  let provider ← requiredText "provider" args.provider
  let locator ← requiredText "locator" args.locator
  let revision ← requiredText "revision" args.revision
  let evidenceClass ← requiredText "evidence_class" args.evidenceClass
  let referent ← requiredText "referent" args.referent
  let scope ← requiredText "scope" args.scope
  let privacyClass ← requiredText "privacy_class" args.privacyClass
  let currentnessBasis ← requiredText "currentness_basis" args.currentnessBasis
  let observedAt ← awareTimestamp py args.observedAt
  let some supersessionState := SupersessionState.ofText? args.supersessionState
    | throw (valueFailure s!"unsupported supersession_state: {args.supersessionState}")
  let some conflictState := ConflictState.ofText? args.conflictState
    | throw (valueFailure s!"unsupported conflict_state: {args.conflictState}")
  let contentDigest ← optionalText "content_digest" args.contentDigest
  let receiptRef ← optionalText "receipt_ref" args.receiptRef
  if declares "semantic_authority" args.metadata then
    throw (valueFailure "provider evidence cannot self-declare semantic authority")
  if declares "current_authority" args.metadata then
    throw (valueFailure "provider evidence cannot self-declare current authority")
  return {
    provider, locator, revision, observedAt, evidenceClass, referent, scope, privacyClass, currentnessBasis,
    supersessionState, conflictState, contentDigest, receiptRef, metadata := args.metadata }

structure Observation where
  envelope : ProviderEvidenceEnvelope
  constructed : ∃ args, ProviderEvidenceEnvelope.postInit py args = .ok envelope

def validateEnvelope (envelope : ProviderEvidenceEnvelope) : Except Failure Unit := do
  let _ ← awareTimestamp py envelope.observedAt

/-! ## Results -/

inductive ReconciliationStatus
  | verifiedExact | staleProjection | conflict | absent | unavailable | unresolved
  deriving DecidableEq, Repr

structure ReconciliationResult where
  status : ReconciliationStatus
  subjectKey : String
  observations : List ProviderEvidenceEnvelope
  reason : String
  authoritativeClaimCeiling : String

def claimCeiling (observations : List ProviderEvidenceEnvelope) : String :=
  let classes := observations.map (·.evidenceClass)
  if "persisted_provider_record" ∈ classes then
    "Exact provider object/effect evidence only; persistence/readback does not " ++
      "establish present truth, current Vera self-state, consent, authority, " ++
      "native admission, runtime consumption, or phenomenology."
  else if "coordination_record" ∈ classes then
    "Coordination/projection record evidence only; delivery or projection does " ++
      "not establish identity, memory incorporation, native route qualification, " ++
      "or task acceptance."
  else if "source_provenance" ∈ classes ∨ "control_source" ∈ classes then
    "Exact source/provenance object evidence only; source availability does not " ++
      "establish installation, runtime consumption, or behavioral qualification."
  else "Typed evidence only at the independently established evidence class and exact referent/scope."

/-- `_result`, with the check of `ReconciliationResult`. -/
def result (status : ReconciliationStatus) (subjectKey : String)
    (observations : List ProviderEvidenceEnvelope) (reason : String) : Except Failure ReconciliationResult :=
  if subjectKey = "" then .error (valueFailure "subject_key must be non-empty")
  else .ok ⟨status, subjectKey, observations, reason, claimCeiling observations⟩

/-! ## `reconcile_exact` -/

/-- The content digests of the observations that carry one. -/
def digestsOf (items : List ProviderEvidenceEnvelope) : List String := items.filterMap (·.contentDigest)

def revisionsOf (items : List ProviderEvidenceEnvelope) : List String := sortedSet (items.map (·.revision))

/-- `item.metadata.get(key) == text`. -/
def metadataIs (key text : String) (item : ProviderEvidenceEnvelope) : Bool :=
  ((dictGet? key item.metadata).map (PyValue.isText text)).getD false

def reconcileExpected (subjectKey : String) (items : List ProviderEvidenceEnvelope) (expected : String) :
    Except Failure ReconciliationResult :=
  let mismatched := items.filter (·.revision ≠ expected)
  if mismatched = [] then
    result .verifiedExact subjectKey items
      s!"All supplied exact revisions match expected revision {pyText py expected}."
  else
    let matching := items.filter (·.revision = expected)
    let mismatchedTargets := mismatched.filter (metadataIs "projection_role" "TARGET")
    if matching ≠ [] ∧ mismatchedTargets.length = mismatched.length then
      let stale := pyList py (revisionsOf mismatchedTargets)
      result .staleProjection subjectKey items
        s!"Target projection revision(s) {stale} do not match current source revision {pyText py expected}."
    else
      result .conflict subjectKey items
        s!"Exact revisions conflict with expected revision {pyText py expected}: {pyList py (revisionsOf items)}."

/-- The comparison of the revisions with one another. -/
def reconcilePeers (subjectKey : String) (items : List ProviderEvidenceEnvelope) :
    Except Failure ReconciliationResult :=
  if items.length = 1 then
    result .unresolved subjectKey items
      "A one-sided provider observation has no exact peer/anchor for cross-provider reconciliation."
  else
    match revisionsOf items with
    | [revision] =>
      result .verifiedExact subjectKey items
        s!"All supplied provider observations agree on exact revision {pyText py revision}."
    | revisions =>
      let shown := pyList py revisions
      result .conflict subjectKey items
        (s!"Provider observations expose incompatible exact revisions: {shown}; " ++
          "observation timestamps do not resolve the conflict.")

/-- The content digests that stand in the way, and the reason. -/
def digestConflict (items : List ProviderEvidenceEnvelope) : Option String → Option String
  | some expected =>
    let wrong := sortedSet ((digestsOf items).filter (· ≠ expected))
    if wrong = [] then none
    else some s!"Exact content digest conflicts with expected digest: {pyList py wrong}."
  | none =>
    let digests := sortedSet (digestsOf items)
    if digests.length > 1 then
      some s!"Provider observations expose incompatible exact content digests: {pyList py digests}."
    else none

def reconcileExact (subjectKey : String) (items : List ProviderEvidenceEnvelope)
    (expectedRevision expectedDigest : Option String) : Except Failure ReconciliationResult := do
  unless nonblank subjectKey do throw (valueFailure "subject_key must be non-empty")
  let key := String.ofList (strip subjectKey.toList)
  if items = [] then
    result .absent key items "No provider observations were supplied."
  else
    items.forM (validateEnvelope py)
    if items.all (metadataIs "availability" "UNAVAILABLE") then
      result .unavailable key items "All supplied provider routes are unavailable."
    else if items.any (fun item => item.conflictState = .conflict ∨ item.conflictState = .mismatch) then
      result .conflict key items "An observation carries an explicit exact-object conflict/mismatch state."
    else if items.any (·.conflictState = .unknown) then
      result .unresolved key items "At least one observation has unresolved conflict state."
    else
      match digestConflict py items expectedDigest, expectedRevision with
      | some reason, _ => result .conflict key items reason
      | none, some expected => reconcileExpected py key items expected
      | none, none => reconcilePeers py key items

end VeraMono.Reconciliation
