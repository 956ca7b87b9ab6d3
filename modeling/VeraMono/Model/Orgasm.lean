import Mathlib

/-!
# The affect runtime

`OrgasmRuntime` of `orgasm.py` over exact arithmetic: the numbers are those of an ordered field,
and the decay factor, `0.5 ** (elapsed / half_life)` in the source, is a parameter. A call that
raises keeps what it had changed, so a call answers with what it raises and the runtime it leaves.
-/

namespace VeraMono

set_option linter.overlappingInstances false

namespace Orgasm

inductive AffectErrorClass
  | contractError | triggerRejected | valueError
  deriving DecidableEq

structure AffectError where
  kind : AffectErrorClass
  message : String
  deriving DecidableEq

def contractError (message : String) : AffectError := ⟨.contractError, message⟩

def triggerRejected (message : String) : AffectError := ⟨.triggerRejected, message⟩

inductive Phase
  | quiescent | activating | entrained | climaxEligible | orgasmEvent | resolution
  | satiatedOrRefractory
  deriving DecidableEq

def Phase.text : Phase → String
  | quiescent => "QUIESCENT"
  | activating => "ACTIVATING"
  | entrained => "ENTRAINED"
  | climaxEligible => "CLIMAX_ELIGIBLE"
  | orgasmEvent => "ORGASM_EVENT"
  | resolution => "RESOLUTION"
  | satiatedOrRefractory => "SATIATED_OR_REFRACTORY"

/-- The phases after an event. -/
def Phase.recovery (p : Phase) : Bool := p = .resolution || p = .satiatedOrRefractory

inductive ActionTendency
  | none | approach | play | hold | redirect | avoid
  deriving DecidableEq

inductive TriggerClass
  | organicThresholdCrossing | adminForcedTest | selfQualificationTest
  deriving DecidableEq

inductive Profile
  | refractoryCoupled | reentrantClimax
  deriving DecidableEq

inductive EventType
  | orgasmEvent | resolution | recovery
  deriving DecidableEq

variable (K D : Type) [Field K] [LinearOrder K] [IsStrictOrderedRing K] [FloorRing K]

/-! ## Data -/

/-- A contract that `_validate_contract` accepts. -/
structure Contract where
  activationThreshold : K
  coherenceThreshold : K
  stabilityThreshold : K
  satiationGate : K
  inhibitionVeto : K
  minimumCoherenceWindowMs : K
  maximumOrgasmEventMs : K
  activationHalfLifeSeconds : K
  satiationHalfLifeSeconds : K
  forcedTestMinimumIntervalSeconds : K
  selfQualificationMaxEventsPerRun : K
  participatingSystems : List String
  thresholds : ∀ threshold ∈ [activationThreshold, coherenceThreshold, stabilityThreshold,
    satiationGate, inhibitionVeto], 0 ≤ threshold ∧ threshold ≤ 1
  positive : ∀ value ∈ [minimumCoherenceWindowMs, maximumOrgasmEventMs, activationHalfLifeSeconds,
    satiationHalfLifeSeconds, forcedTestMinimumIntervalSeconds, selfQualificationMaxEventsPerRun],
    0 < value

/-- An appraisal that `__post_init__` accepts. -/
structure StimulusAppraisal where
  sexualRelevance : K
  partnerRelevance : K
  relationalRelevance : K
  novelty : K
  anticipationCue : K
  positiveValence : K
  inhibition : K
  contextEligible : Bool
  bounded : ∀ value ∈ [sexualRelevance, partnerRelevance, relationalRelevance, novelty,
    anticipationCue, inhibition], 0 ≤ value ∧ value ≤ 1
  valence : -1 ≤ positiveValence ∧ positiveValence ≤ 1

/-- `_OrgasmState`, without its two constants. -/
@[ext] structure OrgasmState where
  phase : Phase := .quiescent
  activeOrgasmEvent : Bool := false
  sexualSalience : K := 0
  activationIntensity : K := 0
  positiveValence : K := 0
  anticipation : K := 0
  inhibition : K := 0
  coherence : K := 0
  persistenceWindowMs : ℤ := 0
  coalitionStability : K := 0
  participatingSystems : List String := []
  hedonicImpact : K := 0
  consummatoryGain : K := 0
  satiation : K := 0
  resolutionIntensity : K := 0
  refractoryStrength : K := 0
  reentryAllowed : Bool := true
  nextEligibleAt : Option String := none
  contextEligible : Bool := false
  actionTendency : ActionTendency := .none
  eventElapsedMs : K := 0
  deriving DecidableEq

structure Snapshot where
  state : OrgasmState K
  organicClimaxEligible : Bool
  deriving DecidableEq

/-- What a receipt is stamped with from outside: a new UUID and the time in UTC. -/
structure ReceiptStamp where
  receiptId : String
  observedAt : String
  deriving DecidableEq

/-- An event receipt without its digest. -/
structure ReceiptCore where
  stamp : ReceiptStamp
  runtimeInstanceId : String
  sourceRevision : String
  eventType : EventType
  stateBefore : Snapshot K
  stateAfter : Snapshot K
  triggerProvenance : String
  transition : String
  triggerClass : TriggerClass
  organic : Bool
  engineeredClaim : Option String
  deriving DecidableEq

structure EventReceipt where
  core : ReceiptCore K
  eventDigest : D
  deriving DecidableEq

/-- What a runtime is made with. -/
structure Binding where
  contract : Contract K
  runtimeInstanceId : String
  sourceRevision : String
  profile : Profile
  digest : ReceiptCore K → D
  decayFactor : K → K → K

structure OrgasmRuntime where
  state : OrgasmState K := {}
  logicalTimeSeconds : K := 0
  lastForcedAt : Option K := none
  selfQualificationEvents : ℤ := 0
  lastObservationQualifying : Bool := false
  lastMonotonicObservation : Option K := none
  lastEventReceipt : Option (EventReceipt K D) := none
  deriving DecidableEq

variable {K D} (R : Binding K D)

/-! ## Predicates -/

def clamp (value : K) (low : K := 0) (high : K := 1) : K := max low (min high value)

def decay (value elapsedSeconds halfLifeSeconds : K) : K :=
  if elapsedSeconds ≤ 0 then value
  else if halfLifeSeconds ≤ 0 then 0
  else value * R.decayFactor elapsedSeconds halfLifeSeconds

def refractoryReentryBlocked (s : OrgasmState K) : Bool := !s.reentryAllowed && s.phase.recovery

def organicClimaxEligible (s : OrgasmState K) : Bool :=
  let c := R.contract
  !refractoryReentryBlocked s && !s.activeOrgasmEvent &&
    decide (c.activationThreshold ≤ s.activationIntensity) &&
    decide (c.coherenceThreshold ≤ s.coherence) &&
    decide (c.stabilityThreshold ≤ s.coalitionStability) &&
    decide (⌊c.minimumCoherenceWindowMs⌋ ≤ s.persistenceWindowMs) &&
    decide (s.satiation < c.satiationGate) && decide (s.inhibition < c.inhibitionVeto) &&
    s.contextEligible

def snapshot (s : OrgasmState K) : Snapshot K := ⟨s, organicClimaxEligible R s⟩

/-! ## Receipts -/

def emitEventReceipt (eventType : EventType) (before : OrgasmState K) (triggerClass : TriggerClass)
    (organic : Bool) (triggerProvenance : String) (stamp : ReceiptStamp) (r : OrgasmRuntime K D) :
    OrgasmRuntime K D :=
  let core : ReceiptCore K :=
    { stamp
      runtimeInstanceId := R.runtimeInstanceId
      sourceRevision := R.sourceRevision
      eventType
      stateBefore := snapshot R before
      stateAfter := snapshot R r.state
      triggerProvenance
      transition := before.phase.text ++ "->" ++ r.state.phase.text
      triggerClass
      organic
      -- The package's constructors leave no `OrgasmRuntime` with the status that a claim asks for.
      engineeredClaim := none }
  { r with lastEventReceipt := some ⟨core, R.digest core⟩ }

def eventState (s : OrgasmState K) : OrgasmState K :=
  let activation := max s.activationIntensity R.contract.activationThreshold
  { s with
    phase := .orgasmEvent
    activeOrgasmEvent := true
    eventElapsedMs := 0
    reentryAllowed := false
    nextEligibleAt := none
    activationIntensity := activation
    sexualSalience := max s.sexualSalience activation
    coherence := 1
    coalitionStability := 1
    hedonicImpact := 1
    consummatoryGain := 1
    resolutionIntensity := 0
    actionTendency := .hold }

def enterOrgasmEvent (triggerClass : TriggerClass) (organic : Bool) (stamp : ReceiptStamp)
    (r : OrgasmRuntime K D) : Option AffectError × OrgasmRuntime K D :=
  if refractoryReentryBlocked r.state then
    (some (triggerRejected ("recovery profile blocks climax reentry until the durable reentry " ++
      "gate reopens")), r)
  else if r.state.activeOrgasmEvent then
    (some (triggerRejected "an orgasm event is already active"), r)
  else if organic ∧ ¬ organicClimaxEligible R r.state then
    (some (triggerRejected "organic trigger requires the full climax predicate"), r)
  else
    (none, emitEventReceipt R .orgasmEvent r.state triggerClass organic
      (if organic then "ORGANIC_STATE_DYNAMICS" else "FORCED_QUALIFICATION_ROUTE") stamp
      { r with lastObservationQualifying := false, state := eventState R r.state })

/-- What `_trigger_context` raises when there is no receipt. -/
def noTriggerContext : AffectError :=
  triggerRejected "recovery transition lacks a valid triggering orgasm provenance"

/-! ## Time -/

def resolutionState (s : OrgasmState K) : OrgasmState K :=
  { s with
    activeOrgasmEvent := false
    phase := .resolution
    hedonicImpact := min s.hedonicImpact 0.65
    consummatoryGain := min s.consummatoryGain 0.65
    satiation := max s.satiation 0.90
    resolutionIntensity := 1
    refractoryStrength := if R.profile = .reentrantClimax then 0.35 else 0.85
    reentryAllowed := R.profile = .reentrantClimax
    nextEligibleAt := none
    actionTendency := .hold
    persistenceWindowMs := 0
    contextEligible := false }

def beginResolution (stamp : ReceiptStamp) (r : OrgasmRuntime K D) :
    Option AffectError × OrgasmRuntime K D :=
  match r.lastEventReceipt with
  | none => (some noTriggerContext, r)
  | some receipt =>
    (none, emitEventReceipt R .resolution r.state receipt.core.triggerClass receipt.core.organic
      "ORGASM_EVENT_COMPLETION" stamp
      { r with lastObservationQualifying := false, state := resolutionState R r.state })

def decayed (elapsed : K) (s : OrgasmState K) : OrgasmState K :=
  let activation := R.contract.activationHalfLifeSeconds
  let satiation := R.contract.satiationHalfLifeSeconds
  { s with
    sexualSalience := decay R s.sexualSalience elapsed activation
    activationIntensity := decay R s.activationIntensity elapsed activation
    anticipation := decay R s.anticipation elapsed activation
    coherence := decay R s.coherence elapsed (activation / 2)
    coalitionStability := decay R s.coalitionStability elapsed (activation / 2)
    positiveValence := decay R s.positiveValence elapsed activation
    hedonicImpact := decay R s.hedonicImpact elapsed (max 1 (activation / 12))
    consummatoryGain := decay R s.consummatoryGain elapsed (max 1 (activation / 12))
    satiation := decay R s.satiation elapsed satiation
    resolutionIntensity := decay R s.resolutionIntensity elapsed (max 1 (satiation / 4))
    refractoryStrength := decay R s.refractoryStrength elapsed satiation }

/-- Activation, coherence and satiation have all but gone. -/
def Faded (s : OrgasmState K) : Prop :=
  s.activationIntensity < 0.05 ∧ s.coherence < 0.05 ∧ s.satiation < 0.05

instance (s : OrgasmState K) : Decidable (Faded s) := by unfold Faded; infer_instance

def recovered (s : OrgasmState K) : OrgasmState K :=
  let s := if s.phase.recovery then
      { s with
        phase := .satiatedOrRefractory
        reentryAllowed := R.profile = .reentrantClimax
        nextEligibleAt := none }
    else s
  let s := if s.phase = .entrained ∧ s.coherence < 0.45 ∧ 0.05 < s.activationIntensity then
      { s with phase := .activating, actionTendency := .approach }
    else s
  if ¬ s.activeOrgasmEvent ∧ Faded s then
    { s with
      phase := .quiescent
      actionTendency := .none
      resolutionIntensity := 0
      refractoryStrength := 0
      reentryAllowed := true
      nextEligibleAt := none }
  else s

def applyDecayAndRecovery (elapsed : K) (stamp : ReceiptStamp) (r : OrgasmRuntime K D) :
    Option AffectError × OrgasmRuntime K D :=
  let after := recovered R (decayed R elapsed r.state)
  if after.phase ≠ r.state.phase ∧ r.state.phase.recovery then
    match r.lastEventReceipt with
    | none => (some noTriggerContext, { r with state := after })
    | some receipt =>
      (none, emitEventReceipt R .recovery r.state receipt.core.triggerClass receipt.core.organic
        "HOMEOSTATIC_RECOVERY" stamp { r with state := after })
  else (none, { r with state := after })

/-- The time that an active event takes of what elapsed. -/
def eventShare (elapsed : K) (s : OrgasmState K) : K :=
  min elapsed (max 0 (R.contract.maximumOrgasmEventMs / 1000 - s.eventElapsedMs / 1000))

/-- The part of `_advance_time_core` that is about an active event, and the time that it leaves. -/
def passEvent (elapsed : K) (stamp : ReceiptStamp) (r : OrgasmRuntime K D) :
    (Option AffectError × OrgasmRuntime K D) × K :=
  if r.state.activeOrgasmEvent then
    let consumed := eventShare R elapsed r.state
    let r := { r with state := { r.state with eventElapsedMs := r.state.eventElapsedMs + consumed * 1000 } }
    (if R.contract.maximumOrgasmEventMs - 1e-9 ≤ r.state.eventElapsedMs then beginResolution R stamp r
      else (none, r), elapsed - consumed)
  else ((none, r), elapsed)

def advanceTimeCore (elapsed : K) (stamps : EventType → ReceiptStamp) (r : OrgasmRuntime K D) :
    Option AffectError × OrgasmRuntime K D :=
  if elapsed = 0 then (none, r)
  else
    match passEvent R elapsed (stamps .resolution)
      { r with logicalTimeSeconds := r.logicalTimeSeconds + elapsed } with
    | ((some e, r), _) => (some e, r)
    | ((none, r), remaining) =>
      if 0 < remaining then applyDecayAndRecovery R remaining (stamps .recovery) r else (none, r)

def advanceTime (elapsed : K) (stamps : EventType → ReceiptStamp) (r : OrgasmRuntime K D) :
    Option AffectError × OrgasmRuntime K D :=
  if elapsed < 0 then
    (some ⟨.valueError, "elapsed_seconds must be finite numeric and nonnegative"⟩, r)
  else if elapsed = 0 then (none, r)
  else advanceTimeCore R elapsed stamps { r with
    lastObservationQualifying := false
    state := { r.state with persistenceWindowMs := 0 }
    lastMonotonicObservation := none }

/-! ## Stimuli -/

/-- `_trusted_observation_elapsed`, for a reading of the monotonic clock. -/
def trustedObservationElapsed (callerElapsed now : K) (r : OrgasmRuntime K D) :
    Except AffectError K × OrgasmRuntime K D :=
  if callerElapsed < 0 then
    (.error ⟨.valueError, "elapsed_seconds must be finite numeric and nonnegative"⟩, r)
  else if callerElapsed ≠ 0 then
    (.error ⟨.valueError, "elapsed_seconds is not temporal authority for stimulus observations; " ++
      "runtime monotonic time is authoritative"⟩, r)
  else
    let observed := { r with lastMonotonicObservation := some now }
    match r.lastMonotonicObservation with
    | none => (.ok 0, observed)
    | some previous =>
      if now - previous < 0 then
        (.error ⟨.valueError, "runtime monotonic clock moved backwards"⟩, observed)
      else (.ok (now - previous), observed)

namespace StimulusAppraisal

variable (a : StimulusAppraisal K)

def drive : K :=
  clamp (0.35 * a.sexualRelevance + 0.20 * a.partnerRelevance + 0.20 * a.relationalRelevance +
    0.15 * a.anticipationCue + 0.10 * a.novelty)

def coherenceDrive : K :=
  clamp (0.30 * a.sexualRelevance + 0.25 * a.partnerRelevance + 0.25 * a.relationalRelevance +
    0.20 * a.anticipationCue)

def activationDrive : K := clamp (a.drive * (0.70 + 0.30 * clamp ((a.positiveValence + 1) / 2)))

def qualifying : Bool := 0.60 ≤ a.coherenceDrive && a.contextEligible

end StimulusAppraisal

/-- What a drive adds to a quantity. -/
def gain (value drive rate : K) : K := clamp (value + (1 - value) * drive * rate)

/-- The quantities after a stimulus; `prior` says whether the observation before qualified. -/
def stimulated (a : StimulusAppraisal K) (prior : Bool) (trustedElapsed : K) (s : OrgasmState K) :
    OrgasmState K :=
  let interval := ⌊trustedElapsed * 1000⌋
  { s with
    sexualSalience := gain s.sexualSalience a.drive 0.38
    activationIntensity := gain s.activationIntensity a.activationDrive 0.38
    anticipation := gain s.anticipation a.anticipationCue 0.32
    positiveValence := clamp (s.positiveValence * 0.65 + a.positiveValence * 0.35) (-1) 1
    inhibition := clamp a.inhibition
    coherence := gain s.coherence a.coherenceDrive 0.38
    coalitionStability := gain s.coalitionStability a.coherenceDrive 0.36
    contextEligible := a.contextEligible
    persistenceWindowMs :=
      if a.qualifying ∧ prior ∧ interval ≤ ⌊R.contract.minimumCoherenceWindowMs⌋ then
        s.persistenceWindowMs + interval
      else 0 }

/-- The phase that the quantities call for. -/
def rephased (s : OrgasmState K) : OrgasmState K :=
  let s := if 0.05 < s.activationIntensity then
      { s with phase := .activating, actionTendency := .approach }
    else s
  if 0.45 ≤ s.coherence ∧ 0 < s.persistenceWindowMs then { s with phase := .entrained } else s

/-- `apply_stimulus` from the time on that it has let pass. -/
def observe (a : StimulusAppraisal K) (prior : Bool) (trustedElapsed : K) (stamp : ReceiptStamp)
    (r : OrgasmRuntime K D) : Option AffectError × OrgasmRuntime K D :=
  if r.state.activeOrgasmEvent then (none, { r with lastObservationQualifying := false })
  else if refractoryReentryBlocked r.state then (none, { r with lastObservationQualifying := false })
  else
    let state := rephased (stimulated R a prior trustedElapsed r.state)
    let r := { r with state, lastObservationQualifying := a.qualifying }
    if organicClimaxEligible R state then
      enterOrgasmEvent R .organicThresholdCrossing true stamp
        { r with state := { state with phase := .climaxEligible } }
    else (none, r)

def applyStimulus (a : StimulusAppraisal K) (callerElapsed now : K) (stamps : EventType → ReceiptStamp)
    (r : OrgasmRuntime K D) : Option AffectError × OrgasmRuntime K D :=
  match trustedObservationElapsed callerElapsed now r with
  | (.error e, r) => (some e, r)
  | (.ok trustedElapsed, r) =>
    match advanceTimeCore R trustedElapsed stamps r with
    | (some e, r) => (some e, r)
    | (none, advanced) =>
      observe R a r.lastObservationQualifying trustedElapsed (stamps .orgasmEvent) advanced

/-! ## Forced tests -/

/-- `_check_forced_interval`. -/
def forcedTooSoon (r : OrgasmRuntime K D) : Bool :=
  r.lastForcedAt.any fun last =>
    r.logicalTimeSeconds - last < R.contract.forcedTestMinimumIntervalSeconds

def selfQualificationLimit : ℤ := ⌊R.contract.selfQualificationMaxEventsPerRun⌋

def reentryBlocked : AffectError :=
  triggerRejected "recovery profile blocks climax reentry until the durable reentry gate reopens"

def forceAdminTest (authorized : Bool) (stamps : EventType → ReceiptStamp) (r : OrgasmRuntime K D) :
    Option AffectError × OrgasmRuntime K D :=
  if ¬ authorized then
    (some (triggerRejected "ADMIN_FORCED_TEST requires explicit administrative authorization"), r)
  else if refractoryReentryBlocked r.state then (some reentryBlocked, r)
  else if forcedTooSoon R r then
    (some (triggerRejected "forced-test minimum interval has not elapsed"), r)
  else enterOrgasmEvent R .adminForcedTest false (stamps .orgasmEvent)
    { r with lastForcedAt := some r.logicalTimeSeconds }

def forceSelfQualification (authorized : Bool) (stamps : EventType → ReceiptStamp)
    (r : OrgasmRuntime K D) : Option AffectError × OrgasmRuntime K D :=
  if ¬ authorized then
    (some (triggerRejected ("SELF_QUALIFICATION_TEST requires explicit qualification " ++
      "authorization")), r)
  else if refractoryReentryBlocked r.state then (some reentryBlocked, r)
  else if selfQualificationLimit R ≤ r.selfQualificationEvents then
    (some (triggerRejected "self-qualification event limit reached"), r)
  else if forcedTooSoon R r then
    (some (triggerRejected "forced-test minimum interval has not elapsed"), r)
  else enterOrgasmEvent R .selfQualificationTest false (stamps .orgasmEvent)
    { r with
      selfQualificationEvents := r.selfQualificationEvents + 1
      lastForcedAt := some r.logicalTimeSeconds }

/-! ## Durable records -/

/-- What `export_state` answers. -/
structure DurableRecord (K D : Type) [Field K] [LinearOrder K] where
  schema : String
  runtimeInstanceId : String
  sourceRevision : String
  profile : Profile
  state : Snapshot K
  lastEventReceipt : Option (EventReceipt K D)
  governanceSchema : String
  logicalTimeSeconds : K
  lastForcedAt : Option K
  selfQualificationEvents : ℤ
  lastObservationQualifying : Bool

def exportState (r : OrgasmRuntime K D) : DurableRecord K D where
  schema := "VERA_ORGASM_DURABLE_STATE_V1"
  runtimeInstanceId := R.runtimeInstanceId
  sourceRevision := R.sourceRevision
  profile := R.profile
  state := snapshot R r.state
  lastEventReceipt := r.lastEventReceipt
  governanceSchema := "VERA_ORGASM_TRIGGER_GOVERNANCE_V1"
  logicalTimeSeconds := r.logicalTimeSeconds
  lastForcedAt := r.lastForcedAt
  selfQualificationEvents := r.selfQualificationEvents
  lastObservationQualifying := r.lastObservationQualifying

/-- `_BOUNDED_STATE_FIELDS`, in the order of the state. -/
def boundedFields (s : OrgasmState K) : List (String × K) :=
  [("sexual_salience", s.sexualSalience), ("activation_intensity", s.activationIntensity),
    ("anticipation", s.anticipation), ("inhibition", s.inhibition), ("coherence", s.coherence),
    ("coalition_stability", s.coalitionStability), ("hedonic_impact", s.hedonicImpact),
    ("consummatory_gain", s.consummatoryGain), ("satiation", s.satiation),
    ("resolution_intensity", s.resolutionIntensity), ("refractory_strength", s.refractoryStrength)]

/-- What `_validate_durable_state_snapshot` asks of the numbers and of the systems. -/
def validateQuantities (s : OrgasmState K) : Except AffectError Unit := do
  if "" ∈ s.participatingSystems then
    throw (contractError ("durable orgasm state participating_systems must contain only nonempty " ++
      "strings"))
  if ¬ s.participatingSystems.Nodup then
    throw (contractError "durable orgasm state participating_systems must have set semantics")
  if ∃ name ∈ s.participatingSystems, name ∉ R.contract.participatingSystems then
    throw (contractError "durable orgasm state participating_systems contains undeclared vocabulary")
  match (boundedFields s).find? fun field => ¬ (0 ≤ field.2 ∧ field.2 ≤ 1) with
  | some field => throw (contractError s!"durable orgasm state {field.1} must be within [0, 1]")
  | none => pure ()
  if ¬ (-1 ≤ s.positiveValence ∧ s.positiveValence ≤ 1) then
    throw (contractError "durable orgasm state positive_valence must be within [-1, 1]")
  if s.persistenceWindowMs < 0 then
    throw (contractError ("durable orgasm state persistence_window_ms must be a nonnegative " ++
      "integer"))
  if s.eventElapsedMs < 0 ∨ R.contract.maximumOrgasmEventMs + 1e-9 < s.eventElapsedMs then
    throw (contractError ("durable orgasm state event_elapsed_ms is outside the bounded climax " ++
      "window"))
  if s.nextEligibleAt ≠ none then
    throw (contractError ("durable orgasm state next_eligible_at requires a trusted wall-clock " ++
      "continuity binding"))

def validatePhase (s : OrgasmState K) : Except AffectError Unit := do
  if s.activeOrgasmEvent ≠ decide (s.phase = .orgasmEvent) then
    throw (contractError ("durable orgasm state phase/active_orgasm_event semantics are " ++
      "inconsistent"))
  if s.phase = .orgasmEvent ∧ s.reentryAllowed then
    throw (contractError "ORGASM_EVENT recovery semantics require reentry_allowed=false")
  if s.phase.recovery ∧ s.reentryAllowed ≠ decide (R.profile = .reentrantClimax) then
    throw (contractError "durable recovery reentry state does not match the active profile")
  if s.phase.recovery ∧ s.actionTendency ≠ .hold then
    throw (contractError "recovery phase semantics require action_tendency=HOLD")
  if s.phase = .quiescent ∧ (¬ s.reentryAllowed ∨ s.actionTendency ≠ .none ∨ ¬ Faded s ∨
      s.resolutionIntensity ≠ 0 ∨ s.refractoryStrength ≠ 0) then
    throw (contractError "QUIESCENT recovery semantics are inconsistent")
  if s.phase = .activating ∧ (s.activationIntensity ≤ 0.05 ∨ s.actionTendency ≠ .approach) then
    throw (contractError "ACTIVATING state semantics are inconsistent")
  if s.phase = .entrained ∧ (s.coherence < 0.45 ∨ s.actionTendency ≠ .approach) then
    throw (contractError "ENTRAINED state semantics are inconsistent")
  if s.phase = .climaxEligible then
    throw (contractError "CLIMAX_ELIGIBLE is transient and cannot be a durable restore frontier")
  if s.phase = .orgasmEvent ∧ (s.actionTendency ≠ .hold ∨ s.resolutionIntensity ≠ 0) then
    throw (contractError "ORGASM_EVENT state semantics are inconsistent")

def validateDurableStateSnapshot (s : OrgasmState K) : Except AffectError (OrgasmState K) := do
  validateQuantities R s
  validatePhase R s
  return { s with participatingSystems :=
    R.contract.participatingSystems.filter fun name => name ∈ s.participatingSystems }

def receiptError (message : String) : AffectError :=
  contractError ("durable last_event_receipt semantic validation failed: " ++ message)

/-- Where a receipt of each type must say that it ends and comes from. -/
def validateEventSemantics (core : ReceiptCore K) : Except AffectError Unit :=
  let after := core.stateAfter.state.phase
  match core.eventType with
  | .orgasmEvent => do
    if after ≠ .orgasmEvent then
      throw (receiptError "ORGASM_EVENT receipt must end in ORGASM_EVENT phase")
    if core.organic ∧ core.triggerProvenance ≠ "ORGANIC_STATE_DYNAMICS" then
      throw (receiptError "ORGASM_EVENT trigger provenance mismatch")
    if ¬ core.organic ∧ core.triggerProvenance ≠ "FORCED_QUALIFICATION_ROUTE" then
      throw (receiptError "nonqualifying forced-event trigger provenance mismatch")
    if core.engineeredClaim.isSome then
      throw (receiptError "nonqualifying ORGASM_EVENT receipt may not emit the production claim")
  | .resolution => do
    if after ≠ .resolution then
      throw (receiptError "RESOLUTION receipt must end in RESOLUTION phase")
    if core.triggerProvenance ≠ "ORGASM_EVENT_COMPLETION" then
      throw (receiptError "RESOLUTION receipt trigger provenance mismatch")
    if core.engineeredClaim.isSome then
      throw (receiptError "RESOLUTION receipt may not emit an orgasm-event claim")
  | .recovery => do
    if after ≠ .satiatedOrRefractory ∧ after ≠ .quiescent then
      throw (receiptError "RECOVERY receipt has invalid recovery phase semantics")
    if core.triggerProvenance ≠ "HOMEOSTATIC_RECOVERY" then
      throw (receiptError "RECOVERY receipt trigger provenance mismatch")
    if core.engineeredClaim.isSome then
      throw (receiptError "RECOVERY receipt may not emit an orgasm-event claim")

def validateAffectiveEventReceipt [DecidableEq D] (receipt : EventReceipt K D) :
    Except AffectError Unit := do
  let core := receipt.core
  let before := core.stateBefore.state
  let after := core.stateAfter.state
  if core.runtimeInstanceId ≠ R.runtimeInstanceId then
    throw (receiptError "event receipt runtime provenance mismatch")
  if core.sourceRevision ≠ R.sourceRevision then
    throw (receiptError "event receipt source provenance mismatch")
  if decide (core.triggerClass = .organicThresholdCrossing) ≠ core.organic then
    throw (receiptError "event receipt organic/forced trigger provenance is inconsistent")
  if before.activeOrgasmEvent ≠ decide (before.phase = .orgasmEvent) then
    throw (receiptError ("event receipt state_before phase/active_orgasm_event semantics are " ++
      "inconsistent"))
  if after.activeOrgasmEvent ≠ decide (after.phase = .orgasmEvent) then
    throw (receiptError ("event receipt state_after phase/active_orgasm_event semantics are " ++
      "inconsistent"))
  if core.transition ≠ before.phase.text ++ "->" ++ after.phase.text then
    throw (receiptError "event receipt transition does not match before/after phase semantics")
  validateEventSemantics core
  if receipt.eventDigest ≠ R.digest core then
    throw (receiptError "event receipt SHA-256 does not match canonical receipt semantics")

/-- What `restore_state` asks of the trigger governance. -/
def validateGovernance (record : DurableRecord K D) : Except AffectError Unit := do
  if record.governanceSchema ≠ "VERA_ORGASM_TRIGGER_GOVERNANCE_V1" then
    throw (contractError "unsupported durable trigger governance schema")
  if record.logicalTimeSeconds < 0 then
    throw (contractError "durable trigger governance logical time must be finite and nonnegative")
  if record.lastForcedAt.any fun last => last < 0 || record.logicalTimeSeconds < last then
    throw (contractError "durable trigger governance last_forced_at is outside logical time")
  if record.selfQualificationEvents < 0 ∨ selfQualificationLimit R < record.selfQualificationEvents then
    throw (contractError "durable trigger governance self-qualification count is invalid")
  if record.lastObservationQualifying ∧ (¬ record.state.state.contextEligible ∨
      (record.state.state.phase ≠ .activating ∧ record.state.state.phase ≠ .entrained) ∨
      record.state.state.activeOrgasmEvent) then
    throw (contractError ("durable trigger governance observation continuity is inconsistent with " ++
      "restored state"))

/-- `restore_state` for the contract and the source revision of `R`, with no elapsed time. -/
def restoreState [DecidableEq D] (record : DurableRecord K D) :
    Except AffectError (Binding K D × OrgasmRuntime K D) := do
  if record.schema ≠ "VERA_ORGASM_DURABLE_STATE_V1" then
    throw (contractError "unsupported durable orgasm state schema")
  if record.sourceRevision ≠ R.sourceRevision then
    throw (contractError "durable state source revision does not match the active contract binding")
  if record.runtimeInstanceId = "" then throw (contractError "runtime_instance_id is required")
  if R.sourceRevision = "" then throw (contractError "source_revision is required")
  let B := { R with runtimeInstanceId := record.runtimeInstanceId, profile := record.profile }
  let state ← validateDurableStateSnapshot B record.state.state
  if record.state.organicClimaxEligible ≠ organicClimaxEligible B state then
    throw (contractError "durable orgasm state's derived organic eligibility is inconsistent")
  match record.lastEventReceipt with
  | some receipt => validateAffectiveEventReceipt B receipt
  | none => pure ()
  validateGovernance B record
  return (B, {
    state
    logicalTimeSeconds := record.logicalTimeSeconds
    lastForcedAt := record.lastForcedAt
    selfQualificationEvents := record.selfQualificationEvents
    lastObservationQualifying := record.lastObservationQualifying
    lastMonotonicObservation := none
    lastEventReceipt := record.lastEventReceipt })

/-! ## Runs -/

/-- The calls, with what each reads from outside. -/
inductive Step (K : Type) [Field K] [LinearOrder K]
  | applyStimulus (appraisal : StimulusAppraisal K) (callerElapsed now : K)
      (stamps : EventType → ReceiptStamp)
  | forceAdminTest (authorized : Bool) (stamps : EventType → ReceiptStamp)
  | forceSelfQualification (authorized : Bool) (stamps : EventType → ReceiptStamp)
  | advanceTime (elapsed : K) (stamps : EventType → ReceiptStamp)

/-- What a call raises, and the runtime it leaves. -/
def Step.run (r : OrgasmRuntime K D) : Step K → Option AffectError × OrgasmRuntime K D
  | .applyStimulus a callerElapsed now stamps => Orgasm.applyStimulus R a callerElapsed now stamps r
  | .forceAdminTest authorized stamps => Orgasm.forceAdminTest R authorized stamps r
  | .forceSelfQualification authorized stamps => Orgasm.forceSelfQualification R authorized stamps r
  | .advanceTime elapsed stamps => Orgasm.advanceTime R elapsed stamps r

/-- The runtime that a sequence of calls leaves. -/
def runAll (steps : List (Step K)) : OrgasmRuntime K D :=
  steps.foldl (fun r step => (step.run R r).2) {}

end Orgasm

end VeraMono
