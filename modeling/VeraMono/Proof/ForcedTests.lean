import VeraMono.Proof.Orgasm

/-!
# What a rejected test costs

A forced test is charged before it enters its event: `force_admin_test` notes its time, and
`force_self_qualification` counts itself too. The gates come first, so a test that one of them
stops is not charged. A test during an active event passes the gates, and it is charged and then
rejected. `run_passing` and `run_stopped` say which test is charged, `forcedEvents_spaced` keeps
the interval, and `overlapping_test_charged` is the test that is charged and rejected.
-/

namespace VeraMono.Orgasm

set_option linter.overlappingInstances false

variable {K D : Type} [Field K] [LinearOrder K] [IsStrictOrderedRing K] [FloorRing K]

/-! ## Runs -/

/-- The runtime that a sequence of calls makes of `r`. -/
def runFrom (R : Binding K D) (r : OrgasmRuntime K D) (steps : List (Step K)) : OrgasmRuntime K D :=
  steps.foldl (fun r step => (step.run R r).2) r

def forcedClass : Step K → Option TriggerClass
  | .forceAdminTest _ _ => some .adminForcedTest
  | .forceSelfQualification _ _ => some .selfQualificationTest
  | _ => none

/-- The forced events of a run that took place, with their logical times. -/
def forcedEvents (R : Binding K D) : OrgasmRuntime K D → List (Step K) → List (TriggerClass × K)
  | _, [] => []
  | r, step :: steps =>
    match forcedClass step, (step.run R r).1 with
    | some triggerClass, none => (triggerClass, r.logicalTimeSeconds) :: forcedEvents R (step.run R r).2 steps
    | _, _ => forcedEvents R (step.run R r).2 steps

/-- A forced test that the gates of its own method let through. -/
def PassesGates (R : Binding K D) (r : OrgasmRuntime K D) : Step K → Prop
  | .forceAdminTest authorized _ =>
    authorized = true ∧ refractoryReentryBlocked r.state = false ∧ forcedTooSoon R r = false
  | .forceSelfQualification authorized _ =>
    authorized = true ∧ refractoryReentryBlocked r.state = false ∧
      r.selfQualificationEvents < selfQualificationLimit R ∧ forcedTooSoon R r = false
  | _ => False

/-- A forced test that is let through to an event that is active. -/
def Overlaps (R : Binding K D) (r : OrgasmRuntime K D) (step : Step K) : Prop :=
  PassesGates R r step ∧ r.state.activeOrgasmEvent = true

/-- What a forced test writes before it enters its event. -/
def charged (triggerClass : TriggerClass) (r : OrgasmRuntime K D) : OrgasmRuntime K D :=
  { r with
    lastForcedAt := some r.logicalTimeSeconds
    selfQualificationEvents :=
      r.selfQualificationEvents + if triggerClass = .selfQualificationTest then 1 else 0 }

variable {R : Binding K D} {r r' r'' : OrgasmRuntime K D} {step : Step K} {triggerClass : TriggerClass}

/-! ## Forced tests -/

omit [IsStrictOrderedRing K] in
theorem enter_charged (triggerClass : TriggerClass) (hblocked : refractoryReentryBlocked r.state = false) (stamp : ReceiptStamp) :
    (r.state.activeOrgasmEvent = true ∧
      ∃ e, enterOrgasmEvent R triggerClass false stamp (charged triggerClass r) = (some e, charged triggerClass r)) ∨
    (r.state.activeOrgasmEvent = false ∧
      enterOrgasmEvent R triggerClass false stamp (charged triggerClass r) =
        (none, emitEventReceipt R .orgasmEvent r.state triggerClass false "FORCED_QUALIFICATION_ROUTE" stamp
          { charged triggerClass r with lastObservationQualifying := false, state := eventState R r.state })) := by
  have hstate : (charged triggerClass r).state = r.state := rfl
  cases hactive : r.state.activeOrgasmEvent <;>
    simp [enterOrgasmEvent, hstate, hblocked, hactive]

omit [IsStrictOrderedRing K] in
/-- A test that its gates let through is charged, and enters its event with that. -/
theorem run_passing (hc : forcedClass step = some triggerClass) (hp : PassesGates R r step) :
    refractoryReentryBlocked r.state = false ∧ forcedTooSoon R r = false ∧
      ∃ stamp, step.run R r = enterOrgasmEvent R triggerClass false stamp (charged triggerClass r) := by
  cases step with
  | applyStimulus => cases hc
  | advanceTime => cases hc
  | forceAdminTest authorized stamps =>
    obtain rfl := Option.some.inj hc
    obtain ⟨hauth, hblocked, hsoon⟩ := hp
    exact ⟨hblocked, hsoon, stamps .orgasmEvent, by simp [Step.run, forceAdminTest, charged, hauth, hblocked, hsoon]⟩
  | forceSelfQualification authorized stamps =>
    obtain rfl := Option.some.inj hc
    obtain ⟨hauth, hblocked, hcount, hsoon⟩ := hp
    exact ⟨hblocked, hsoon, stamps .orgasmEvent,
      by simp [Step.run, forceSelfQualification, charged, hauth, hblocked, not_le.2 hcount, hsoon]⟩

omit [IsStrictOrderedRing K] in
/-- A test that its gates stop leaves the runtime as it was. -/
theorem run_stopped (hc : forcedClass step = some triggerClass) (hp : ¬ PassesGates R r step) :
    ∃ e, step.run R r = (some e, r) := by
  cases step with
  | applyStimulus => cases hc
  | advanceTime => cases hc
  | forceAdminTest authorized stamps =>
    simp only [Step.run, forceAdminTest]
    split
    · exact ⟨_, rfl⟩
    next hauth =>
      split
      · exact ⟨_, rfl⟩
      next hblocked =>
        split
        · exact ⟨_, rfl⟩
        next hsoon => exact absurd ⟨not_not.1 hauth, by simpa using hblocked, by simpa using hsoon⟩ hp
  | forceSelfQualification authorized stamps =>
    simp only [Step.run, forceSelfQualification]
    split
    · exact ⟨_, rfl⟩
    next hauth =>
      split
      · exact ⟨_, rfl⟩
      next hblocked =>
        split
        · exact ⟨_, rfl⟩
        next hcount =>
          split
          · exact ⟨_, rfl⟩
          next hsoon =>
            exact absurd ⟨not_not.1 hauth, by simpa using hblocked, not_le.1 hcount, by simpa using hsoon⟩ hp

omit [IsStrictOrderedRing K] in
/-- A forced test is stopped by its gates, or charged and rejected, or charged and entered. -/
theorem forced_cases (r : OrgasmRuntime K D) (hc : forcedClass step = some triggerClass) :
    (¬ PassesGates R r step ∧ ∃ e, step.run R r = (some e, r)) ∨
    (Overlaps R r step ∧ ∃ e, step.run R r = (some e, charged triggerClass r)) ∨
    (PassesGates R r step ∧ r.state.activeOrgasmEvent = false ∧ ∃ stamp, step.run R r =
      (none, emitEventReceipt R .orgasmEvent r.state triggerClass false "FORCED_QUALIFICATION_ROUTE" stamp
        { charged triggerClass r with lastObservationQualifying := false, state := eventState R r.state })) := by
  by_cases hp : PassesGates R r step
  · obtain ⟨hblocked, -, stamp, hrun⟩ := run_passing hc hp
    rw [hrun]
    obtain ⟨hactive, hr⟩ | ⟨hactive, hr⟩ := enter_charged (R := R) triggerClass hblocked stamp
    · exact .inr (.inl ⟨⟨hp, hactive⟩, hr⟩)
    · exact .inr (.inr ⟨hp, hactive, stamp, hr⟩)
  · exact .inl ⟨hp, run_stopped hc hp⟩

omit [IsStrictOrderedRing K] in
theorem forcedClass_of_passes (hp : PassesGates R r step) : forcedClass step ≠ none := by
  cases step <;> simp_all [PassesGates, forcedClass]

omit [IsStrictOrderedRing K] [FloorRing K] in
/-- What was charged is not what it was: the test was not too soon, and the next one is. -/
theorem charged_ne (hsoon : forcedTooSoon R r = false) : charged triggerClass r ≠ r := by
  intro h
  have hforced : r.lastForcedAt = some r.logicalTimeSeconds := (congrArg OrgasmRuntime.lastForcedAt h).symm
  have hpos : 0 < R.contract.forcedTestMinimumIntervalSeconds := R.contract.positive _ (by simp)
  simp [forcedTooSoon, hforced, hpos] at hsoon

/-! ## Other calls -/

/-- The receipts of events that were issued in between were issued without an active event and with
reentry open. -/
def Exclusive (r r' : OrgasmRuntime K D) : Prop :=
  ∀ receipt, r'.lastEventReceipt = some receipt → receipt.core.eventType = .orgasmEvent →
    r.lastEventReceipt = some receipt ∨
      (receipt.core.stateBefore.state.activeOrgasmEvent = false ∧
        refractoryReentryBlocked receipt.core.stateBefore.state = false)

/-- Time has passed, and nothing was charged. -/
structure Uncharged (r r' : OrgasmRuntime K D) : Prop where
  forced : r'.lastForcedAt = r.lastForcedAt
  count : r'.selfQualificationEvents = r.selfQualificationEvents
  time : r.logicalTimeSeconds ≤ r'.logicalTimeSeconds
  events : Exclusive r r'

omit [LinearOrder K] [IsStrictOrderedRing K] [FloorRing K] in
theorem Exclusive.refl (r : OrgasmRuntime K D) : Exclusive r r := fun _ h _ => .inl h

omit [LinearOrder K] [IsStrictOrderedRing K] [FloorRing K] in
theorem Exclusive.trans (h : Exclusive r r') (h' : Exclusive r' r'') : Exclusive r r'' := fun receipt hr ht =>
  (h' receipt hr ht).elim (fun hr' => h receipt hr' ht) .inr

omit [IsStrictOrderedRing K] [FloorRing K] in
theorem Uncharged.refl (r : OrgasmRuntime K D) : Uncharged r r := ⟨rfl, rfl, le_rfl, .refl r⟩

omit [IsStrictOrderedRing K] [FloorRing K] in
theorem Uncharged.trans (h : Uncharged r r') (h' : Uncharged r' r'') : Uncharged r r'' :=
  ⟨h'.forced.trans h.forced, h'.count.trans h.count, h.time.trans h'.time, h.events.trans h'.events⟩

omit [IsStrictOrderedRing K] in
theorem Exclusive.emit {eventType : EventType} {before : OrgasmState K} {organic : Bool} {provenance : String}
    {stamp : ReceiptStamp} (ht : eventType ≠ .orgasmEvent) :
    Exclusive r (emitEventReceipt R eventType before triggerClass organic provenance stamp r') := by
  intro receipt hr htype
  obtain rfl := Option.some.inj hr
  exact absurd htype ht

omit [IsStrictOrderedRing K] in
theorem Exclusive.enter {before : OrgasmState K} {organic : Bool} {provenance : String} {stamp : ReceiptStamp}
    (hactive : before.activeOrgasmEvent = false) (hblocked : refractoryReentryBlocked before = false) :
    Exclusive r (emitEventReceipt R .orgasmEvent before triggerClass organic provenance stamp r') := by
  intro receipt hr _
  obtain rfl := Option.some.inj hr
  exact .inr ⟨hactive, hblocked⟩

omit [IsStrictOrderedRing K] in
theorem uncharged_resolution (stamp : ReceiptStamp) (r : OrgasmRuntime K D) :
    Uncharged r (beginResolution R stamp r).2 := by
  unfold beginResolution
  split
  · exact .refl r
  · exact ⟨rfl, rfl, le_rfl, .emit (by decide)⟩

omit [IsStrictOrderedRing K] in
theorem uncharged_recovery (elapsed : K) (stamp : ReceiptStamp) (r : OrgasmRuntime K D) :
    Uncharged r (applyDecayAndRecovery R elapsed stamp r).2 := by
  unfold applyDecayAndRecovery
  dsimp only
  split
  · split
    · exact ⟨rfl, rfl, le_rfl, .refl r⟩
    · exact ⟨rfl, rfl, le_rfl, .emit (by decide)⟩
  · exact ⟨rfl, rfl, le_rfl, .refl r⟩

omit [IsStrictOrderedRing K] in
theorem uncharged_event (elapsed : K) (stamp : ReceiptStamp) (r : OrgasmRuntime K D) :
    Uncharged r (passEvent R elapsed stamp r).1.2 := by
  unfold passEvent
  split
  · dsimp only
    split
    · refine Uncharged.trans ?_ (uncharged_resolution stamp _)
      exact ⟨rfl, rfl, le_rfl, .refl r⟩
    · exact ⟨rfl, rfl, le_rfl, .refl r⟩
  · exact .refl r

theorem uncharged_advance {elapsed : K} (he : 0 ≤ elapsed) (stamps : EventType → ReceiptStamp)
    (r : OrgasmRuntime K D) : Uncharged r (advanceTimeCore R elapsed stamps r).2 := by
  unfold advanceTimeCore
  split
  · exact .refl r
  have hlater : Uncharged r { r with logicalTimeSeconds := r.logicalTimeSeconds + elapsed } :=
    ⟨rfl, rfl, le_add_of_nonneg_right he, .refl r⟩
  have hpassed := hlater.trans (uncharged_event (R := R) elapsed (stamps .resolution) _)
  split
  next e r' remaining hpass =>
    rw [hpass] at hpassed
    exact hpassed
  next r' remaining hpass =>
    rw [hpass] at hpassed
    split
    · exact hpassed.trans (uncharged_recovery ..)
    · exact hpassed

omit [IsStrictOrderedRing K] in
theorem uncharged_enter {organic : Bool} (stamp : ReceiptStamp) (r : OrgasmRuntime K D) :
    Uncharged r (enterOrgasmEvent R triggerClass organic stamp r).2 := by
  unfold enterOrgasmEvent
  split
  · exact .refl r
  next hblocked =>
    split
    · exact .refl r
    next hactive =>
      split
      · exact .refl r
      · exact ⟨rfl, rfl, le_rfl, .enter (by simpa using hactive) (by simpa using hblocked)⟩

omit [IsStrictOrderedRing K] in
theorem uncharged_observe (a : StimulusAppraisal K) (prior : Bool) (elapsed : K) (stamp : ReceiptStamp)
    (r : OrgasmRuntime K D) : Uncharged r (observe R a prior elapsed stamp r).2 := by
  unfold observe
  split
  · exact ⟨rfl, rfl, le_rfl, .refl r⟩
  split
  · exact ⟨rfl, rfl, le_rfl, .refl r⟩
  dsimp only
  split
  · refine Uncharged.trans ?_ (uncharged_enter stamp _)
    exact ⟨rfl, rfl, le_rfl, .refl r⟩
  · exact ⟨rfl, rfl, le_rfl, .refl r⟩

/-- A call that is no forced test charges nothing. -/
theorem uncharged_run (hc : forcedClass step = none) (r : OrgasmRuntime K D) : Uncharged r (step.run R r).2 := by
  cases step with
  | forceAdminTest => cases hc
  | forceSelfQualification => cases hc
  | advanceTime elapsed stamps =>
    simp only [Step.run, advanceTime]
    split_ifs with hneg hzero
    · exact .refl r
    · exact .refl r
    · refine Uncharged.trans ?_ (uncharged_advance (not_lt.1 hneg) stamps _)
      exact ⟨rfl, rfl, le_rfl, .refl r⟩
  | applyStimulus a callerElapsed now stamps =>
    classical
    simp only [Step.run, applyStimulus]
    obtain ⟨e, observation, hr⟩ | ⟨elapsed, observation, he, hr⟩ := trustedObservationElapsed_cases callerElapsed now r
    · rw [hr]
      exact ⟨rfl, rfl, le_rfl, .refl r⟩
    · rw [hr]
      dsimp only
      have hadvanced := uncharged_advance (R := R) he stamps { r with lastMonotonicObservation := observation }
      have hobserved : Uncharged r { r with lastMonotonicObservation := observation } := ⟨rfl, rfl, le_rfl, .refl r⟩
      split
      next e r' hadv =>
        rw [hadv] at hadvanced
        exact hobserved.trans hadvanced
      next r' hadv =>
        rw [hadv] at hadvanced
        exact (hobserved.trans hadvanced).trans (uncharged_observe ..)

/-! ## Runs in which no test overlaps an event -/

/-- What the forced tests of a run cost. -/
structure FairlyCharged (R : Binding K D) (r : OrgasmRuntime K D) (steps : List (Step K)) : Prop where
  /-- A forced test that raises leaves the runtime as it was. -/
  rejected : ∀ earlier step, earlier ++ [step] <+: steps → forcedClass step ≠ none →
    ∀ e r', step.run R (runFrom R r earlier) = (some e, r') → r' = runFrom R r earlier
  /-- Every self-qualification event is counted, and nothing else is. -/
  counted : ∀ reached, reached <+: steps → (runFrom R r reached).selfQualificationEvents =
    r.selfQualificationEvents + (forcedEvents R r reached).countP (·.1 = .selfQualificationTest)
  spaced : (forcedEvents R r steps).Pairwise fun a b =>
    a.2 + R.contract.forcedTestMinimumIntervalSeconds ≤ b.2
  /-- No event starts while one is active or reentry is blocked. -/
  exclusive : ∀ earlier step, earlier ++ [step] <+: steps →
    Exclusive (runFrom R r earlier) (runFrom R r (earlier ++ [step]))

theorem exclusive_run (r : OrgasmRuntime K D) (step : Step K) : Exclusive r (step.run R r).2 := by
  cases hc : forcedClass step with
  | none => exact (uncharged_run hc r).events
  | some triggerClass =>
    obtain ⟨-, e, hr⟩ | ⟨-, e, hr⟩ | ⟨hp, hactive, stamp, hr⟩ := forced_cases (R := R) r hc
    · rw [hr]
      exact .refl r
    · rw [hr]
      exact .refl r
    · rw [hr]
      exact .enter hactive (run_passing hc hp).1

section

variable (steps : List (Step K))

omit [IsStrictOrderedRing K] in
theorem forcedEvents_other (hc : forcedClass step = none) :
    forcedEvents R r (step :: steps) = forcedEvents R (step.run R r).2 steps := by
  simp [forcedEvents, hc]

omit [IsStrictOrderedRing K] in
theorem forcedEvents_rejected {e : AffectError} (hr : step.run R r = (some e, r')) :
    forcedEvents R r (step :: steps) = forcedEvents R r' steps := by
  simp [forcedEvents, hr]

omit [IsStrictOrderedRing K] in
theorem forcedEvents_entered (hc : forcedClass step = some triggerClass) (hr : step.run R r = (none, r')) :
    forcedEvents R r (step :: steps) = (triggerClass, r.logicalTimeSeconds) :: forcedEvents R r' steps := by
  simp [forcedEvents, hc, hr]

end

omit [FloorRing K] in
theorem interval_passed (hsoon : forcedTooSoon R r = false) {last : K} (hl : r.lastForcedAt = some last) :
    last + R.contract.forcedTestMinimumIntervalSeconds ≤ r.logicalTimeSeconds := by
  simp only [forcedTooSoon, hl, Option.any_some, decide_eq_false_iff_not, not_lt] at hsoon
  linarith

/-- Forced events keep the minimum interval from each other, and from the time that was noted last. -/
theorem forcedEvents_spaced (steps : List (Step K)) : ∀ r : OrgasmRuntime K D,
    (forcedEvents R r steps).Pairwise (fun a b => a.2 + R.contract.forcedTestMinimumIntervalSeconds ≤ b.2) ∧
      ∀ last, r.lastForcedAt = some last → ∀ event ∈ forcedEvents R r steps,
        last + R.contract.forcedTestMinimumIntervalSeconds ≤ event.2 := by
  induction steps with
  | nil => exact fun r => ⟨List.Pairwise.nil, fun _ _ _ h => absurd h List.not_mem_nil⟩
  | cons step steps ih =>
    intro r
    cases hc : forcedClass step with
    | none =>
      have hq := uncharged_run (R := R) hc r
      rw [forcedEvents_other steps hc]
      exact ⟨(ih _).1, fun last hl => (ih _).2 last (hq.forced.trans hl)⟩
    | some triggerClass =>
      obtain ⟨-, e, hr⟩ | ⟨⟨hp, -⟩, e, hr⟩ | ⟨hp, -, stamp, hr⟩ := forced_cases (R := R) r hc
      · rw [forcedEvents_rejected steps hr]
        exact ih r
      · -- The time that was noted is later than it was.
        rw [forcedEvents_rejected steps hr]
        refine ⟨(ih _).1, fun last hl event he => ?_⟩
        have hnoted := (ih (charged triggerClass r)).2 r.logicalTimeSeconds rfl event he
        have hpos : 0 < R.contract.forcedTestMinimumIntervalSeconds := R.contract.positive _ (by simp)
        have hpassed := interval_passed (run_passing hc hp).2.1 hl
        linarith
      · rw [forcedEvents_entered steps hc hr]
        refine ⟨List.pairwise_cons.2 ⟨fun event he => (ih _).2 _ rfl event he, (ih _).1⟩, fun last hl event he => ?_⟩
        have hpassed := interval_passed (run_passing hc hp).2.1 hl
        obtain rfl | he := List.mem_cons.1 he
        · exact hpassed
        · have hnoted := (ih _).2 r.logicalTimeSeconds rfl event he
          have hpos : 0 < R.contract.forcedTestMinimumIntervalSeconds := R.contract.positive _ (by simp)
          linarith

omit [IsStrictOrderedRing K] in
theorem runFrom_concat (r : OrgasmRuntime K D) (steps : List (Step K)) (step : Step K) :
    runFrom R r (steps ++ [step]) = (step.run R (runFrom R r steps)).2 := by
  rw [runFrom, List.foldl_append]
  rfl

theorem counted_run (steps : List (Step K)) : ∀ r : OrgasmRuntime K D,
    (∀ earlier step, earlier ++ [step] <+: steps → ¬ Overlaps R (runFrom R r earlier) step) →
    (runFrom R r steps).selfQualificationEvents =
      r.selfQualificationEvents + (forcedEvents R r steps).countP (·.1 = .selfQualificationTest) := by
  induction steps with
  | nil => intro r _; simp [runFrom, forcedEvents]
  | cons step steps ih =>
    intro r hfree
    have hfirst : ¬ Overlaps R r step := hfree [] step ⟨steps, rfl⟩
    have hlater := ih (step.run R r).2 fun earlier other hp =>
      hfree (step :: earlier) other (List.cons_prefix_cons.2 ⟨rfl, hp⟩)
    change (runFrom R (step.run R r).2 steps).selfQualificationEvents = _
    rw [hlater]
    cases hc : forcedClass step with
    | none => rw [forcedEvents_other steps hc, (uncharged_run hc r).count]
    | some triggerClass =>
      obtain ⟨-, e, hr⟩ | ⟨hoverlap, -⟩ | ⟨-, -, stamp, hr⟩ := forced_cases (R := R) r hc
      · rw [forcedEvents_rejected steps hr, hr]
      · exact absurd hoverlap hfirst
      · rw [forcedEvents_entered steps hc hr, hr, List.countP_cons]
        simp only [emitEventReceipt, charged, decide_eq_true_eq]
        split_ifs <;> push_cast <;> ring

/-- A rejected test costs nothing in exactly the runs in which no test that its gates let through comes while an
event is active. -/
theorem fairlyCharged_iff (r : OrgasmRuntime K D) (steps : List (Step K)) : FairlyCharged R r steps ↔
    ∀ earlier step, earlier ++ [step] <+: steps → ¬ Overlaps R (runFrom R r earlier) step := by
  constructor
  · intro h earlier step hp hoverlap
    have hc := forcedClass_of_passes hoverlap.1
    obtain ⟨triggerClass, hclass⟩ := Option.ne_none_iff_exists'.1 hc
    obtain ⟨hblocked, hsoon, stamp, hrun⟩ := run_passing hclass hoverlap.1
    obtain ⟨-, e, hr⟩ | ⟨hactive, -⟩ := enter_charged (R := R) triggerClass hblocked stamp
    · exact charged_ne hsoon (h.rejected earlier step hp hc e _ (hrun.trans hr))
    · exact Bool.false_ne_true (hactive.symm.trans hoverlap.2)
  · intro hfree
    refine ⟨fun earlier step hp hc e r' hrun => ?_, fun reached hp => ?_, (forcedEvents_spaced steps r).1,
      fun earlier step hp => ?_⟩
    · obtain ⟨triggerClass, hclass⟩ := Option.ne_none_iff_exists'.1 hc
      obtain ⟨-, e', hr⟩ | ⟨hoverlap, -⟩ | ⟨-, -, stamp, hr⟩ := forced_cases (R := R) (runFrom R r earlier) hclass
      · exact (Prod.ext_iff.1 (hrun.symm.trans hr)).2
      · exact absurd hoverlap (hfree earlier step hp)
      · cases (Prod.ext_iff.1 (hrun.symm.trans hr)).1
    · exact counted_run reached r fun earlier step he => hfree earlier step (he.trans hp)
    · rw [runFrom_concat]
      exact exclusive_run _ step

/-! ## A test during an organic event -/

def fullAppraisal : StimulusAppraisal ℚ where
  sexualRelevance := 1
  partnerRelevance := 1
  relationalRelevance := 1
  novelty := 1
  anticipationCue := 1
  positiveValence := 1
  inhibition := 0
  contextEligible := true
  bounded := by
    simp only [List.forall_mem_cons, List.not_mem_nil, false_imp_iff, implies_true, and_true]
    norm_num
  valence := by norm_num

/-- Four stimuli, a second apart, cross the thresholds. -/
def organicSteps : List (Step ℚ) :=
  [0, 1, 2, 3].map fun now => .applyStimulus fullAppraisal 0 now sampleStamps

/-- A test is made during the organic event. -/
def testedSteps : List (Step ℚ) := organicSteps ++ [.forceAdminTest true sampleStamps]

theorem fairlyCharged_organic : FairlyCharged sampleBinding {} testedSteps ↔
    ∀ earlier step, earlier ++ [step] <+: testedSteps →
      ¬ Overlaps sampleBinding (runFrom sampleBinding {} earlier) step :=
  fairlyCharged_iff {} testedSteps

/-- A test during the organic event is rejected, and the next one is too soon for it. -/
theorem overlapping_test_charged :
    ((Step.forceAdminTest true sampleStamps).run sampleBinding (runFrom sampleBinding {} organicSteps)).1 =
        some (triggerRejected "an orgasm event is already active") ∧
      (runFrom sampleBinding {} organicSteps).lastForcedAt = none ∧
      (runFrom sampleBinding {} (organicSteps ++ [.forceAdminTest true sampleStamps])).lastForcedAt = some 3 ∧
      ¬ ∀ r steps, FairlyCharged sampleBinding r steps := by
  have hraised : ((Step.forceAdminTest true sampleStamps).run sampleBinding
      (runFrom sampleBinding {} organicSteps)).1 = some (triggerRejected "an orgasm event is already active") := by
    decide +kernel
  have hbefore : (runFrom sampleBinding {} organicSteps).lastForcedAt = none := by decide +kernel
  have hafter : (runFrom sampleBinding {} (organicSteps ++ [.forceAdminTest true sampleStamps])).lastForcedAt =
      some 3 := by
    decide +kernel
  refine ⟨hraised, hbefore, hafter, fun h => ?_⟩
  have hsame := (h {} (organicSteps ++ [.forceAdminTest true sampleStamps])).rejected organicSteps _
    (List.prefix_refl _) (by decide) _ _ (Prod.ext hraised rfl)
  have hrun := runFrom_concat (R := sampleBinding) {} organicSteps (.forceAdminTest true sampleStamps)
  have hlast := congrArg OrgasmRuntime.lastForcedAt (hrun.trans hsame)
  rw [hbefore, hafter] at hlast
  cases hlast

end VeraMono.Orgasm
