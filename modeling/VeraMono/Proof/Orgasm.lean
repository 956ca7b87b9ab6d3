import VeraMono.Framework.Checks
import VeraMono.Model.Orgasm

/-!
# Restoring what was exported

`Quantities` and `Phased` are what every state of a runtime has, and with `Settled` they are what
the validator asks. A call keeps the first two; it keeps `Settled` under `Settles`, which leaves
out the calls that let a runtime fade, or stay quiescent, without the phase that its quantities
call for. `recovered_cases` and `enterOrgasmEvent_cases` list what a call makes of a state, and
`exports_restore` says that every state of such a run can be restored.
-/

namespace VeraMono.Orgasm

set_option linter.overlappingInstances false
set_option linter.unusedSectionVars false

open Framework

variable {K D : Type} [Field K] [LinearOrder K] [IsStrictOrderedRing K] [FloorRing K]
variable {R : Binding K D} {s : OrgasmState K}

/-! ## What the validator asks -/

/-- The factor is what a power of one half is. -/
def DecayOk (R : Binding K D) : Prop :=
  ∀ elapsed halfLife, 0 < elapsed → 0 < halfLife →
    0 < R.decayFactor elapsed halfLife ∧ R.decayFactor elapsed halfLife ≤ 1

structure Quantities (R : Binding K D) (s : OrgasmState K) : Prop where
  bounded : ∀ field ∈ boundedFields s, 0 ≤ field.2 ∧ field.2 ≤ 1
  valence : -1 ≤ s.positiveValence ∧ s.positiveValence ≤ 1
  window : 0 ≤ s.persistenceWindowMs
  elapsed : 0 ≤ s.eventElapsedMs ∧ s.eventElapsedMs ≤ R.contract.maximumOrgasmEventMs
  systems : s.participatingSystems = []
  next : s.nextEligibleAt = none

structure Phased (R : Binding K D) (s : OrgasmState K) : Prop where
  active : s.activeOrgasmEvent = decide (s.phase = .orgasmEvent)
  event : s.phase = .orgasmEvent →
    s.reentryAllowed = false ∧ s.actionTendency = .hold ∧ s.resolutionIntensity = 0
  recovery : s.phase.recovery = true →
    s.reentryAllowed = decide (R.profile = .reentrantClimax) ∧ s.actionTendency = .hold
  quiescent : s.phase = .quiescent → s.reentryAllowed = true ∧ s.actionTendency = .none ∧
    s.satiation < 0.05 ∧ s.resolutionIntensity = 0 ∧ s.refractoryStrength = 0
  live : s.phase = .activating ∨ s.phase = .entrained → s.actionTendency = .approach
  durable : s.phase ≠ .climaxEligible

/-- The phase is the one that the quantities call for. -/
structure Settled (s : OrgasmState K) : Prop where
  activating : s.phase = .activating → 0.05 < s.activationIntensity
  entrained : s.phase = .entrained → 0.45 ≤ s.coherence
  quiescent : s.phase = .quiescent → s.activationIntensity < 0.05 ∧ s.coherence < 0.05

theorem validateQuantities_ok (h : Quantities R s) : validateQuantities R s = .ok () := by
  have hnone : (boundedFields s).find? (fun field => decide (¬ (0 ≤ field.2 ∧ field.2 ≤ 1))) = none :=
    List.find?_eq_none.2 fun field hf hn => of_decide_eq_true hn (h.bounded field hf)
  have hlate : R.contract.maximumOrgasmEventMs < R.contract.maximumOrgasmEventMs + 1e-9 :=
    lt_add_of_pos_right _ (by norm_num)
  simp only [validateQuantities, ↓throw_bind, ite_error_ok, pure_ok, hnone, ite_throw_ok, h.systems,
    h.next, not_not, not_lt, not_or]
  refine ⟨List.not_mem_nil, List.nodup_nil, ?_, h.valence, h.window, ⟨h.elapsed.1, h.elapsed.2.trans hlate.le⟩, trivial, trivial⟩
  simp

theorem validatePhase_ok (h : Phased R s) (hs : Settled s) : validatePhase R s = .ok () := by
  simp only [validatePhase, ↓throw_bind, ite_error_ok, pure_ok, ite_throw_ok, not_and, not_or,
    not_not, not_lt, not_le]
  refine ⟨h.active, fun hp => ?_, fun hp => (h.recovery hp).1, fun hp => (h.recovery hp).2,
    fun hp => ?_, fun hp => ⟨hs.activating hp, h.live (.inl hp)⟩,
    fun hp => ⟨hs.entrained hp, h.live (.inr hp)⟩, h.durable, fun hp => (h.event hp).2, trivial⟩
  · rw [(h.event hp).1]
    exact Bool.false_ne_true
  · obtain ⟨hre, hact, hsat, hres, href⟩ := h.quiescent hp
    exact ⟨hre, hact, ⟨(hs.quiescent hp).1, (hs.quiescent hp).2, hsat⟩, hres, href⟩

/-! ## Decay -/

theorem decay_bounds (hd : DecayOk R) {v elapsed halfLife : K} (hv : 0 ≤ v ∧ v ≤ 1) :
    0 ≤ decay R v elapsed halfLife ∧ decay R v elapsed halfLife ≤ v := by
  unfold decay
  split
  · exact ⟨hv.1, le_rfl⟩
  next he =>
    split
    · exact ⟨le_rfl, hv.1⟩
    next hh =>
      obtain ⟨hpos, hle⟩ := hd elapsed halfLife (not_le.1 he) (not_le.1 hh)
      exact ⟨mul_nonneg hv.1 hpos.le, mul_le_of_le_one_right hv.1 hle⟩

theorem decay_unit (hd : DecayOk R) {v : K} (elapsed halfLife : K) (hv : 0 ≤ v ∧ v ≤ 1) :
    0 ≤ decay R v elapsed halfLife ∧ decay R v elapsed halfLife ≤ 1 :=
  ⟨(decay_bounds hd hv).1, (decay_bounds hd hv).2.trans hv.2⟩

theorem decay_valence (hd : DecayOk R) {v : K} (elapsed halfLife : K) (hv : -1 ≤ v ∧ v ≤ 1) :
    -1 ≤ decay R v elapsed halfLife ∧ decay R v elapsed halfLife ≤ 1 := by
  unfold decay
  split
  · exact hv
  next he =>
    split
    · exact ⟨by linarith, by linarith⟩
    next hh =>
      obtain ⟨hpos, hle⟩ := hd elapsed halfLife (not_le.1 he) (not_le.1 hh)
      constructor
      · linarith [mul_nonneg (neg_le_iff_add_nonneg.1 hv.1) hpos.le]
      · linarith [mul_nonneg (sub_nonneg.2 hv.2) hpos.le]

theorem decay_zero (elapsed halfLife : K) : decay R 0 elapsed halfLife = 0 := by
  unfold decay
  split
  · rfl
  split
  · rfl
  exact zero_mul _

theorem clamp_unit (v : K) : 0 ≤ clamp v ∧ clamp v ≤ 1 :=
  ⟨le_max_left .., max_le zero_le_one (min_le_left ..)⟩

theorem clamp_valence (v : K) : -1 ≤ clamp v (-1) 1 ∧ clamp v (-1) 1 ≤ 1 :=
  ⟨le_max_left .., max_le (by linarith [zero_lt_one (α := K)]) (min_le_left ..)⟩

theorem bounded_iff {P : String × K → Prop} : (∀ field ∈ boundedFields s, P field) ↔
    P ("sexual_salience", s.sexualSalience) ∧ P ("activation_intensity", s.activationIntensity) ∧
      P ("anticipation", s.anticipation) ∧ P ("inhibition", s.inhibition) ∧
      P ("coherence", s.coherence) ∧ P ("coalition_stability", s.coalitionStability) ∧
      P ("hedonic_impact", s.hedonicImpact) ∧ P ("consummatory_gain", s.consummatoryGain) ∧
      P ("satiation", s.satiation) ∧ P ("resolution_intensity", s.resolutionIntensity) ∧
      P ("refractory_strength", s.refractoryStrength) := by
  simp only [boundedFields, List.forall_mem_cons, List.not_mem_nil, false_imp_iff, implies_true,
    and_true]

theorem Quantities.decayed (h : Quantities R s) (hd : DecayOk R) (elapsed : K) :
    Quantities R (decayed R elapsed s) := by
  refine ⟨?_, decay_valence hd _ _ h.valence, h.window, h.elapsed, h.systems, h.next⟩
  obtain ⟨h₁, h₂, h₃, h₄, h₅, h₆, h₇, h₈, h₉, h₁₀, h₁₁⟩ := bounded_iff.1 h.bounded
  exact bounded_iff.2 ⟨decay_unit hd _ _ h₁, decay_unit hd _ _ h₂, decay_unit hd _ _ h₃, h₄,
    decay_unit hd _ _ h₅, decay_unit hd _ _ h₆, decay_unit hd _ _ h₇, decay_unit hd _ _ h₈,
    decay_unit hd _ _ h₉, decay_unit hd _ _ h₁₀, decay_unit hd _ _ h₁₁⟩

theorem Phased.decayed (h : Phased R s) (hq : Quantities R s) (hd : DecayOk R) (elapsed : K) :
    Phased R (decayed R elapsed s) := by
  obtain ⟨-, -, -, -, -, -, -, -, hsat, -, -⟩ := bounded_iff.1 hq.bounded
  refine ⟨h.active, fun hp => ?_, h.recovery, fun hp => ?_, h.live, h.durable⟩
  · obtain ⟨hre, hact, hres⟩ := h.event hp
    exact ⟨hre, hact, by rw [Orgasm.decayed, hres]; exact decay_zero _ _⟩
  · obtain ⟨hre, hact, hlow, hres, href⟩ := h.quiescent hp
    refine ⟨hre, hact, (decay_bounds hd hsat).2.trans_lt hlow, ?_, ?_⟩
    · rw [Orgasm.decayed, hres]
      exact decay_zero _ _
    · rw [Orgasm.decayed, href]
      exact decay_zero _ _

/-! ## Recovery -/

/-- What recovery makes of a state: it is a recovery still, an entrainment fades to activation,
everything has faded, or nothing changes. -/
theorem recovered_cases (R : Binding K D) (s : OrgasmState K) :
    (¬ s.activeOrgasmEvent ∧ Faded s ∧ recovered R s = { s with
      phase := .quiescent
      actionTendency := .none
      resolutionIntensity := 0
      refractoryStrength := 0
      reentryAllowed := true
      nextEligibleAt := none }) ∨
    ¬ (¬ s.activeOrgasmEvent ∧ Faded s) ∧
      ((s.phase.recovery = true ∧ recovered R s = { s with
        phase := .satiatedOrRefractory
        reentryAllowed := R.profile = .reentrantClimax
        nextEligibleAt := none }) ∨
      (s.phase = .entrained ∧ s.coherence < 0.45 ∧ 0.05 < s.activationIntensity ∧
        recovered R s = { s with phase := .activating, actionTendency := .approach }) ∨
      (s.phase.recovery = false ∧
        ¬ (s.phase = .entrained ∧ s.coherence < 0.45 ∧ 0.05 < s.activationIntensity) ∧
        recovered R s = s)) := by
  unfold recovered
  by_cases hr : s.phase.recovery = true
  · simp only [hr, if_true]
    have hne : ¬ (Phase.satiatedOrRefractory = .entrained ∧ s.coherence < 0.45 ∧
        0.05 < s.activationIntensity) := nofun
    rw [if_neg hne]
    by_cases hf : ¬ s.activeOrgasmEvent ∧ Faded s
    · exact .inl ⟨hf.1, hf.2, if_pos hf⟩
    · exact .inr ⟨hf, .inl ⟨trivial, if_neg hf⟩⟩
  · simp only [hr, Bool.false_eq_true, if_false]
    by_cases he : s.phase = .entrained ∧ s.coherence < 0.45 ∧ 0.05 < s.activationIntensity
    · rw [if_pos he]
      by_cases hf : ¬ s.activeOrgasmEvent ∧ Faded s
      · exact .inl ⟨hf.1, hf.2, if_pos hf⟩
      · exact .inr ⟨hf, .inr (.inl ⟨he.1, he.2.1, he.2.2, if_neg hf⟩)⟩
    · rw [if_neg he]
      by_cases hf : ¬ s.activeOrgasmEvent ∧ Faded s
      · exact .inl ⟨hf.1, hf.2, if_pos hf⟩
      · exact .inr ⟨hf, .inr (.inr ⟨by simp, he, if_neg hf⟩)⟩

theorem Quantities.recovered (h : Quantities R s) : Quantities R (recovered R s) := by
  obtain ⟨-, -, hr⟩ | ⟨-, ⟨-, hr⟩ | ⟨-, -, -, hr⟩ | ⟨-, -, hr⟩⟩ := recovered_cases R s
  · rw [hr]
    refine ⟨?_, h.valence, h.window, h.elapsed, h.systems, rfl⟩
    obtain ⟨h₁, h₂, h₃, h₄, h₅, h₆, h₇, h₈, h₉, -, -⟩ := bounded_iff.1 h.bounded
    exact bounded_iff.2 ⟨h₁, h₂, h₃, h₄, h₅, h₆, h₇, h₈, h₉, ⟨le_rfl, zero_le_one⟩, le_rfl, zero_le_one⟩
  · rw [hr]
    exact ⟨h.bounded, h.valence, h.window, h.elapsed, h.systems, rfl⟩
  · rw [hr]
    exact ⟨h.bounded, h.valence, h.window, h.elapsed, h.systems, h.next⟩
  · rwa [hr]

theorem Phased.recovered (h : Phased R s) : Phased R (recovered R s) := by
  obtain ⟨hact, hf, hr⟩ | ⟨-, ⟨hp, hr⟩ | ⟨hp, -, -, hr⟩ | ⟨-, -, hr⟩⟩ := recovered_cases R s
  · rw [hr]
    exact ⟨by simpa using hact, nofun, nofun, fun _ => ⟨rfl, rfl, hf.2.2, rfl, rfl⟩, nofun, nofun⟩
  · rw [hr]
    refine ⟨?_, nofun, fun _ => ⟨rfl, (h.recovery hp).2⟩, nofun, nofun, nofun⟩
    rw [h.active]
    exact decide_eq_decide.2 (iff_of_false (fun he => by simp [he, Phase.recovery] at hp) nofun)
  · rw [hr]
    refine ⟨?_, nofun, nofun, nofun, fun _ => rfl, nofun⟩
    rw [h.active, hp]
    rfl
  · rwa [hr]

/-- Time leaves an activation or an entrainment in a phase that its quantities call for. -/
def SettlesIn (R : Binding K D) (elapsed : K) (s : OrgasmState K) : Prop :=
  (s.phase = .activating →
    0.05 < (decayed R elapsed s).activationIntensity ∨ Faded (decayed R elapsed s)) ∧
  (s.phase = .entrained → 0.45 ≤ (decayed R elapsed s).coherence ∨
    0.05 < (decayed R elapsed s).activationIntensity ∨ Faded (decayed R elapsed s))

theorem Settled.recovered (h : Settled s) (hp : Phased R s) (hq : Quantities R s) (hd : DecayOk R)
    {elapsed : K} (hs : SettlesIn R elapsed s) : Settled (recovered R (decayed R elapsed s)) := by
  have hinactive (ph : Phase) (hne : ph ≠ .orgasmEvent) (he : s.phase = ph) :
      ¬ (decayed R elapsed s).activeOrgasmEvent := by
    change ¬ s.activeOrgasmEvent
    rw [hp.active, he]
    simpa using hne
  obtain ⟨-, hf, hr⟩ | ⟨hnf, ⟨-, hr⟩ | ⟨-, -, ha, hr⟩ | ⟨-, hne, hr⟩⟩ :=
    recovered_cases R (decayed R elapsed s)
  · rw [hr]
    exact ⟨nofun, nofun, fun _ => ⟨hf.1, hf.2.1⟩⟩
  · rw [hr]
    exact ⟨nofun, nofun, nofun⟩
  · rw [hr]
    exact ⟨fun _ => ha, nofun, nofun⟩
  · rw [hr]
    obtain ⟨-, hact, -, -, hcoh, -⟩ := bounded_iff.1 hq.bounded
    refine ⟨fun he => ?_, fun he => ?_, fun he => ?_⟩
    · exact (hs.1 he).resolve_right fun hf => hnf ⟨hinactive _ (by decide) he, hf⟩
    · obtain hc | ha | hf := hs.2 he
      · exact hc
      · exact not_lt.1 fun hc => hne ⟨he, hc, ha⟩
      · exact absurd ⟨hinactive _ (by decide) he, hf⟩ hnf
    · exact ⟨(decay_bounds hd hact).2.trans_lt (h.quiescent he).1,
        (decay_bounds hd hcoh).2.trans_lt (h.quiescent he).2⟩

/-! ## Receipts -/

variable [DecidableEq D]

/-- A receipt that the restored runtime accepts. -/
def ReceiptOk (R : Binding K D) (receipt : EventReceipt K D) : Prop :=
  validateAffectiveEventReceipt R receipt = .ok ()

theorem receiptOk_iff {receipt : EventReceipt K D} : ReceiptOk R receipt ↔
    receipt.core.runtimeInstanceId = R.runtimeInstanceId ∧
    receipt.core.sourceRevision = R.sourceRevision ∧
    decide (receipt.core.triggerClass = .organicThresholdCrossing) = receipt.core.organic ∧
    receipt.core.stateBefore.state.activeOrgasmEvent =
      decide (receipt.core.stateBefore.state.phase = .orgasmEvent) ∧
    receipt.core.stateAfter.state.activeOrgasmEvent =
      decide (receipt.core.stateAfter.state.phase = .orgasmEvent) ∧
    receipt.core.transition = receipt.core.stateBefore.state.phase.text ++ "->" ++
      receipt.core.stateAfter.state.phase.text ∧
    validateEventSemantics receipt.core = .ok () ∧ receipt.eventDigest = R.digest receipt.core := by
  simp only [ReceiptOk, validateAffectiveEventReceipt, ↓throw_bind, ite_error_ok, bind_eq_ok, pure_ok,
    ite_throw_ok, not_not, and_true]
  constructor
  · rintro ⟨h₁, h₂, h₃, h₄, h₅, h₆, _, h₇, h₈⟩
    exact ⟨h₁, h₂, h₃, h₄, h₅, h₆, h₇, h₈⟩
  · rintro ⟨h₁, h₂, h₃, h₄, h₅, h₆, h₇, h₈⟩
    exact ⟨h₁, h₂, h₃, h₄, h₅, h₆, (), h₇, h₈⟩

/-! ## What a runtime keeps -/

/-- What holds of a runtime at any time. -/
structure Steady (R : Binding K D) (r : OrgasmRuntime K D) : Prop where
  quantities : Quantities R r.state
  phased : Phased R r.state
  time : 0 ≤ r.logicalTimeSeconds
  forced : ∀ last, r.lastForcedAt = some last → 0 ≤ last ∧ last ≤ r.logicalTimeSeconds
  count : 0 ≤ r.selfQualificationEvents ∧ r.selfQualificationEvents ≤ selfQualificationLimit R
  receipt : ∀ receipt, r.lastEventReceipt = some receipt → ReceiptOk R receipt
  provenance : r.state.activeOrgasmEvent = true ∨ r.state.phase.recovery = true →
    ∃ receipt, r.lastEventReceipt = some receipt

/-- What holds of it between two calls. -/
structure Exportable (R : Binding K D) (r : OrgasmRuntime K D) : Prop extends Steady R r where
  observed : r.lastObservationQualifying = true → r.state.contextEligible = true ∧
    (r.state.phase = .activating ∨ r.state.phase = .entrained)
  settled : Settled r.state

variable {r : OrgasmRuntime K D} {stamp : ReceiptStamp}

variable {triggerClass : TriggerClass}

/-- A receipt that says what the runtime does is one that it accepts. -/
theorem Steady.emit {eventType : EventType} {before : OrgasmState K}
    {organic : Bool} {provenance : String} (hq : Quantities R r.state) (hp : Phased R r.state)
    (htime : 0 ≤ r.logicalTimeSeconds)
    (hforced : ∀ last, r.lastForcedAt = some last → 0 ≤ last ∧ last ≤ r.logicalTimeSeconds)
    (hcount : 0 ≤ r.selfQualificationEvents ∧ r.selfQualificationEvents ≤ selfQualificationLimit R)
    (hbefore : before.activeOrgasmEvent = decide (before.phase = .orgasmEvent))
    (horganic : decide (triggerClass = .organicThresholdCrossing) = organic)
    (hsem : ∀ core : ReceiptCore K, core.eventType = eventType →
      core.stateAfter.state = r.state → core.organic = organic → core.triggerProvenance = provenance →
      core.engineeredClaim = none →
      validateEventSemantics core = .ok ()) :
    Steady R (emitEventReceipt R eventType before triggerClass organic provenance stamp r) := by
  refine ⟨hq, hp, htime, hforced, hcount, fun receipt hr => ?_, fun _ => ⟨_, rfl⟩⟩
  obtain rfl := Option.some.inj hr
  exact receiptOk_iff.2 ⟨rfl, rfl, horganic, hbefore, hp.active, rfl, hsem _ rfl rfl rfl rfl rfl, rfl⟩

/-! ## Events -/

theorem Quantities.eventState (h : Quantities R s) : Quantities R (eventState R s) := by
  obtain ⟨h₁, h₂, h₃, h₄, -, -, -, -, h₉, -, h₁₁⟩ := bounded_iff.1 h.bounded
  have hthreshold := R.contract.thresholds _ (List.mem_cons_self ..)
  have hact : 0 ≤ max s.activationIntensity R.contract.activationThreshold ∧
      max s.activationIntensity R.contract.activationThreshold ≤ 1 :=
    ⟨h₂.1.trans (le_max_left ..), max_le h₂.2 hthreshold.2⟩
  have hone : (0 : K) ≤ 1 ∧ (1 : K) ≤ 1 := ⟨zero_le_one, le_rfl⟩
  have hmax : 0 ≤ R.contract.maximumOrgasmEventMs :=
    (R.contract.positive _ (List.mem_cons_of_mem _ (List.mem_cons_self ..))).le
  refine ⟨bounded_iff.2 ⟨⟨h₁.1.trans (le_max_left ..), max_le h₁.2 hact.2⟩, hact, h₃, h₄, hone, hone,
    hone, hone, h₉, ⟨le_rfl, zero_le_one⟩, h₁₁⟩, h.valence, h.window, ⟨le_rfl, hmax⟩, h.systems, rfl⟩

theorem Phased.eventState : Phased R (eventState R s) :=
  ⟨rfl, fun _ => ⟨rfl, rfl, rfl⟩, nofun, nofun, nofun, nofun⟩

/-- An event is refused, and nothing changes, or it begins. -/
theorem enterOrgasmEvent_cases (R : Binding K D) (triggerClass : TriggerClass) (organic : Bool)
    (stamp : ReceiptStamp) (r : OrgasmRuntime K D) :
    (∃ e, enterOrgasmEvent R triggerClass organic stamp r = (some e, r) ∧
      (refractoryReentryBlocked r.state = true ∨ r.state.activeOrgasmEvent = true ∨
        organicClimaxEligible R r.state = false)) ∨
    (r.state.activeOrgasmEvent = false ∧ enterOrgasmEvent R triggerClass organic stamp r =
      (none, emitEventReceipt R .orgasmEvent r.state triggerClass organic
        (if organic then "ORGANIC_STATE_DYNAMICS" else "FORCED_QUALIFICATION_ROUTE") stamp
        { r with lastObservationQualifying := false, state := eventState R r.state })) := by
  unfold enterOrgasmEvent
  split
  next hb => exact .inl ⟨_, rfl, .inl hb⟩
  split
  next ha => exact .inl ⟨_, rfl, .inr (.inl ha)⟩
  next ha =>
    split
    next ho => exact .inl ⟨_, rfl, .inr (.inr (by simpa using ho.2))⟩
    · exact .inr ⟨by simpa using ha, rfl⟩

theorem Steady.event {organic : Bool} (hq : Quantities R r.state)
    (htime : 0 ≤ r.logicalTimeSeconds)
    (hforced : ∀ last, r.lastForcedAt = some last → 0 ≤ last ∧ last ≤ r.logicalTimeSeconds)
    (hcount : 0 ≤ r.selfQualificationEvents ∧ r.selfQualificationEvents ≤ selfQualificationLimit R)
    (hbefore : r.state.activeOrgasmEvent = decide (r.state.phase = .orgasmEvent))
    (horganic : decide (triggerClass = .organicThresholdCrossing) = organic) :
    Exportable R (emitEventReceipt R .orgasmEvent r.state triggerClass organic
      (if organic then "ORGANIC_STATE_DYNAMICS" else "FORCED_QUALIFICATION_ROUTE") stamp
      { r with lastObservationQualifying := false, state := eventState R r.state }) := by
  refine ⟨Steady.emit hq.eventState .eventState htime hforced hcount hbefore horganic ?_, nofun,
    ⟨nofun, nofun, nofun⟩⟩
  intro core hty hafter horg hprov hclaim
  simp only [validateEventSemantics, hty, ↓throw_bind, ite_error_ok, ite_throw_ok, pure_ok, hafter, hclaim,
    horg, hprov, not_and, not_not]
  refine ⟨rfl, fun ho => if_pos ho, fun ho => if_neg ho, Bool.false_ne_true, trivial⟩

/-! ## Time -/

theorem receipt_organic {receipt : EventReceipt K D} (h : ReceiptOk R receipt) :
    decide (receipt.core.triggerClass = .organicThresholdCrossing) = receipt.core.organic :=
  (receiptOk_iff.1 h).2.2.1

theorem Quantities.resolutionState (h : Quantities R s) : Quantities R (resolutionState R s) := by
  obtain ⟨h₁, h₂, h₃, h₄, h₅, h₆, h₇, h₈, h₉, -, -⟩ := bounded_iff.1 h.bounded
  have hsoft : (0 : K) ≤ 0.65 ∧ (0.65 : K) ≤ 1 := by norm_num
  have hsated : (0 : K) ≤ 0.90 ∧ (0.90 : K) ≤ 1 := by norm_num
  have hstrength : 0 ≤ (if R.profile = .reentrantClimax then 0.35 else 0.85 : K) ∧
      (if R.profile = .reentrantClimax then 0.35 else 0.85 : K) ≤ 1 := by
    split <;> norm_num
  exact ⟨bounded_iff.2 ⟨h₁, h₂, h₃, h₄, h₅, h₆, ⟨le_min h₇.1 hsoft.1, (min_le_left ..).trans h₇.2⟩,
    ⟨le_min h₈.1 hsoft.1, (min_le_left ..).trans h₈.2⟩,
    ⟨h₉.1.trans (le_max_left ..), max_le h₉.2 hsated.2⟩, ⟨zero_le_one, le_rfl⟩, hstrength⟩, h.valence,
    le_rfl, h.elapsed, h.systems, rfl⟩

theorem Phased.resolutionState : Phased R (resolutionState R s) :=
  ⟨rfl, nofun, fun _ => ⟨rfl, rfl⟩, nofun, nofun, nofun⟩

theorem beginResolution_ok (h : Steady R r) (ha : r.state.activeOrgasmEvent = true) :
    ∃ r', beginResolution R stamp r = (none, r') ∧ Steady R r' ∧
      r'.state = resolutionState R r.state ∧ r'.lastObservationQualifying = false := by
  obtain ⟨receipt, hr⟩ := h.provenance (.inl ha)
  unfold beginResolution
  rw [hr]
  refine ⟨_, rfl, Steady.emit h.quantities.resolutionState .resolutionState h.time h.forced h.count
    h.phased.active (receipt_organic (h.receipt _ hr)) ?_, rfl, rfl⟩
  intro core hty hafter _ hprov hclaim
  simp only [validateEventSemantics, hty, ↓throw_bind, ite_error_ok, ite_throw_ok, pure_ok, hafter, hclaim,
    hprov, not_not]
  exact ⟨rfl, trivial, Bool.false_ne_true, trivial⟩

theorem eventShare_bounds {elapsed : K} (he : 0 ≤ elapsed) (h : Quantities R s) :
    0 ≤ eventShare R elapsed s ∧
      s.eventElapsedMs + eventShare R elapsed s * 1000 ≤ R.contract.maximumOrgasmEventMs := by
  have hrest : 0 ≤ R.contract.maximumOrgasmEventMs / 1000 - s.eventElapsedMs / 1000 := by
    rw [← sub_div]
    exact div_nonneg (sub_nonneg.2 h.elapsed.2) (by norm_num)
  have hle : eventShare R elapsed s ≤ R.contract.maximumOrgasmEventMs / 1000 - s.eventElapsedMs / 1000 := by
    rw [eventShare, max_eq_right hrest]
    exact min_le_right ..
  refine ⟨le_min he (le_max_left ..), ?_⟩
  linarith

/-- An event takes its share of the time, and may end in its resolution. -/
theorem passEvent_ok {elapsed : K} (he : 0 ≤ elapsed) (h : Steady R r) :
    ∃ r' remaining, passEvent R elapsed stamp r = ((none, r'), remaining) ∧ Steady R r' ∧
      (r.lastObservationQualifying = false → r'.lastObservationQualifying = false) ∧
      (r.state.activeOrgasmEvent = false → r' = r ∧ remaining = elapsed) ∧
      (r.state.activeOrgasmEvent = true → r'.state.phase = .orgasmEvent ∨ r'.state.phase = .resolution) := by
  unfold passEvent
  split
  next ha =>
    have hshare := eventShare_bounds he h.quantities
    have hpassed : Steady R { r with state := { r.state with
        eventElapsedMs := r.state.eventElapsedMs + eventShare R elapsed r.state * 1000 } } := by
      refine ⟨⟨h.quantities.bounded, h.quantities.valence, h.quantities.window, ⟨?_, hshare.2⟩,
        h.quantities.systems, h.quantities.next⟩, ⟨h.phased.active, h.phased.event, h.phased.recovery,
        h.phased.quiescent, h.phased.live, h.phased.durable⟩, h.time, h.forced, h.count, h.receipt,
        h.provenance⟩
      have := h.quantities.elapsed.1
      have := hshare.1
      change 0 ≤ r.state.eventElapsedMs + eventShare R elapsed r.state * 1000
      positivity
    dsimp only
    split
    · obtain ⟨r', hr, hs, hstate, hobs⟩ := beginResolution_ok hpassed ha
      rw [hr]
      exact ⟨r', _, rfl, hs, fun _ => hobs, fun hf => absurd (ha.symm.trans hf) nofun, fun _ => .inr (by rw [hstate]; rfl)⟩
    · refine ⟨_, _, rfl, hpassed, id, fun hf => absurd (ha.symm.trans hf) nofun, fun _ => .inl ?_⟩
      have := h.phased.active
      rw [ha] at this
      exact of_decide_eq_true this.symm
  next ha =>
    exact ⟨r, elapsed, rfl, h, id, fun _ => ⟨rfl, rfl⟩, fun hf => absurd hf ha⟩

theorem applyDecayAndRecovery_ok (hd : DecayOk R) {elapsed : K} (h : Steady R r) :
    ∃ r', applyDecayAndRecovery R elapsed stamp r = (none, r') ∧ Steady R r' ∧
      r'.state = recovered R (decayed R elapsed r.state) ∧
      r'.lastObservationQualifying = r.lastObservationQualifying := by
  have hq := (h.quantities.decayed hd elapsed).recovered
  have hp := (h.phased.decayed h.quantities hd elapsed).recovered
  unfold applyDecayAndRecovery
  dsimp only
  split
  next hchange =>
    obtain ⟨receipt, hr⟩ := h.provenance (.inr hchange.2)
    rw [hr]
    refine ⟨_, rfl, Steady.emit hq hp h.time h.forced h.count h.phased.active
      (receipt_organic (h.receipt _ hr)) ?_, rfl, rfl⟩
    intro core hty hafter _ hprov hclaim
    have hend : core.stateAfter.state.phase = .satiatedOrRefractory ∨
        core.stateAfter.state.phase = .quiescent := by
      rw [hafter]
      obtain ⟨-, -, hr⟩ | ⟨-, ⟨-, hr⟩ | ⟨hph, -⟩ | ⟨hph, -⟩⟩ := recovered_cases R (decayed R elapsed r.state)
      · exact .inr (by rw [hr])
      · exact .inl (by rw [hr])
      · rw [show r.state.phase = .entrained from hph] at hchange
        exact absurd hchange.2 (by decide)
      · exact absurd (hchange.2.symm.trans hph) nofun
    simp only [validateEventSemantics, hty, ↓throw_bind, ite_error_ok, ite_throw_ok, pure_ok, hclaim, hprov,
      not_not, not_and, ne_eq]
    exact ⟨fun hne => hend.resolve_left hne, trivial, Bool.false_ne_true, trivial⟩
  next hsame =>
    refine ⟨_, rfl, ⟨hq, hp, h.time, h.forced, h.count, h.receipt, fun hlive => h.provenance ?_⟩, rfl, rfl⟩
    obtain hactive | hrec := hlive
    · refine .inl ?_
      obtain ⟨hna, -, hr⟩ | ⟨-, ⟨-, hr⟩ | ⟨-, -, -, hr⟩ | ⟨-, -, hr⟩⟩ :=
        recovered_cases R (decayed R elapsed r.state) <;>
        rw [hr] at hactive
      · exact absurd hactive hna
      all_goals exact hactive
    · by_cases hph : (recovered R (decayed R elapsed r.state)).phase = r.state.phase
      · exact .inr (hph ▸ hrec)
      · obtain ⟨-, -, hr⟩ | ⟨-, ⟨hp', -⟩ | ⟨-, -, -, hr⟩ | ⟨-, -, hr⟩⟩ :=
          recovered_cases R (decayed R elapsed r.state)
        · rw [hr] at hrec
          exact absurd hrec Bool.false_ne_true
        · exact .inr hp'
        · rw [hr] at hrec
          exact absurd hrec Bool.false_ne_true
        · exact absurd (by rw [hr]; rfl) hph

theorem advanceTimeCore_ok (hd : DecayOk R) {elapsed : K} (he : 0 ≤ elapsed)
    (stamps : EventType → ReceiptStamp) (h : Steady R r) :
    ∃ r', advanceTimeCore R elapsed stamps r = (none, r') ∧ Steady R r' ∧
      (r.lastObservationQualifying = false → r'.lastObservationQualifying = false) ∧
      (Settled r.state → SettlesIn R elapsed r.state → Settled r'.state) := by
  unfold advanceTimeCore
  split
  · exact ⟨r, rfl, h, id, fun hs _ => hs⟩
  next =>
    have hlater : Steady R { r with logicalTimeSeconds := r.logicalTimeSeconds + elapsed } :=
      ⟨h.quantities, h.phased, add_nonneg h.time he, fun last hl =>
        ⟨(h.forced last hl).1, (h.forced last hl).2.trans (le_add_of_nonneg_right he)⟩, h.count, h.receipt,
        h.provenance⟩
    obtain ⟨r', remaining, hr, hs, hobs, hidle, hevent⟩ := passEvent_ok he hlater
    rw [hr]
    dsimp only
    have hover (hactive : r.state.activeOrgasmEvent = true) (t : K) :
        Settled r'.state ∧ SettlesIn R t r'.state := by
      obtain hp | hp := hevent hactive <;>
        exact ⟨⟨by simp [hp], by simp [hp], by simp [hp]⟩, by simp [hp], by simp [hp]⟩
    split
    next hpos =>
      obtain ⟨r'', hr', hs', hstate, hobs'⟩ := applyDecayAndRecovery_ok hd hs
      refine ⟨r'', hr', hs', fun h0 => hobs'.trans (hobs h0), fun hset hin => ?_⟩
      rw [hstate]
      cases ha : r.state.activeOrgasmEvent with
      | true => exact (hover ha remaining).1.recovered hs.phased hs.quantities hd (hover ha remaining).2
      | false =>
        obtain ⟨rfl, rfl⟩ := hidle ha
        exact hset.recovered hs.phased hs.quantities hd hin
    next hzero =>
      refine ⟨r', rfl, hs, hobs, fun hset _ => ?_⟩
      cases ha : r.state.activeOrgasmEvent with
      | true => exact (hover ha 0).1
      | false =>
        obtain ⟨rfl, rfl⟩ := hidle ha
        exact hset

/-! ## Stimuli -/

variable {a : StimulusAppraisal K} {prior : Bool} {elapsed : K}

theorem Quantities.stimulated (h : Quantities R s) (a : StimulusAppraisal K) (prior : Bool)
    (he : 0 ≤ elapsed) : Quantities R (stimulated R a prior elapsed s) := by
  obtain ⟨-, -, -, -, -, -, h₇, h₈, h₉, h₁₀, h₁₁⟩ := bounded_iff.1 h.bounded
  refine ⟨bounded_iff.2 ⟨clamp_unit _, clamp_unit _, clamp_unit _, clamp_unit _, clamp_unit _,
    clamp_unit _, h₇, h₈, h₉, h₁₀, h₁₁⟩, clamp_valence _, ?_, h.elapsed, h.systems, h.next⟩
  rw [Orgasm.stimulated]
  dsimp only
  split
  · exact add_nonneg h.window (Int.floor_nonneg.2 (mul_nonneg he (by norm_num)))
  · exact le_rfl

theorem Phased.stimulated (h : Phased R s) (a : StimulusAppraisal K) (prior : Bool) (elapsed : K) :
    Phased R (stimulated R a prior elapsed s) :=
  ⟨h.active, h.event, h.recovery, h.quiescent, h.live, h.durable⟩

theorem activated (hq : 0 ≤ s.activationIntensity ∧ s.activationIntensity ≤ 1)
    (ha : a.qualifying = true) : 0.05 < (stimulated R a prior elapsed s).activationIntensity := by
  rw [StimulusAppraisal.qualifying, Bool.and_eq_true, decide_eq_true_eq] at ha
  have hb := a.bounded
  simp only [List.forall_mem_cons, List.not_mem_nil, false_imp_iff, implies_true, and_true] at hb
  obtain ⟨hsr, hpr, hrr, hnov, hant, -⟩ := hb
  have hcoh : (0.60 : K) ≤ 0.30 * a.sexualRelevance + 0.25 * a.partnerRelevance +
      0.25 * a.relationalRelevance + 0.20 * a.anticipationCue := by
    have h := ha.1
    rw [StimulusAppraisal.coherenceDrive, clamp, le_max_iff, le_min_iff] at h
    obtain h | h := h
    · norm_num at h
    · exact h.2
  have hdrive : (0.45 : K) ≤ a.drive := by
    rw [StimulusAppraisal.drive, clamp]
    refine le_max_of_le_right (le_min (by norm_num) ?_)
    norm_num at hcoh ⊢
    linarith [hsr.1, hpr.1, hrr.1, hnov.1, hant.1]
  have hzero : 0 ≤ a.drive := (clamp_unit _).1
  have hvalence := clamp_unit ((a.positiveValence + 1) / 2)
  have hactivation : (0.3 : K) ≤ a.activationDrive := by
    rw [StimulusAppraisal.activationDrive, clamp]
    refine le_max_of_le_right (le_min (by norm_num) ?_)
    norm_num at hdrive ⊢
    linarith [mul_nonneg hzero hvalence.1]
  change _ < gain s.activationIntensity a.activationDrive 0.38
  rw [gain, clamp]
  refine lt_max_of_lt_right (lt_min (by norm_num) ?_)
  norm_num at hactivation ⊢
  linarith [hq.1, hq.2, mul_nonneg (sub_nonneg.2 hq.2) (sub_nonneg.2 hactivation)]

theorem window_qualifying (h : 0 < (stimulated R a prior elapsed s).persistenceWindowMs) :
    a.qualifying = true := by
  rw [stimulated] at h
  dsimp only at h
  split at h
  next hc => exact hc.1
  · exact absurd h (lt_irrefl _)

theorem rephased_activated (ha : 0.05 < s.activationIntensity) :
    (rephased s = { s with phase := .activating, actionTendency := .approach } ∨
      rephased s = { s with phase := .entrained, actionTendency := .approach } ∧ 0.45 ≤ s.coherence) := by
  unfold rephased
  rw [if_pos ha]
  by_cases hc : 0.45 ≤ s.coherence ∧ 0 < s.persistenceWindowMs
  · exact .inr ⟨if_pos hc, hc.1⟩
  · exact .inl (if_neg hc)

theorem rephased_idle (hw : 0 < s.persistenceWindowMs → 0.05 < s.activationIntensity)
    (ha : ¬ 0.05 < s.activationIntensity) : rephased s = s := by
  unfold rephased
  rw [if_neg ha]
  exact if_neg fun hc => ha (hw hc.2)

theorem Quantities.rephased (h : Quantities R s) : Quantities R (rephased s) := by
  unfold Orgasm.rephased
  dsimp only
  split <;> split <;> exact ⟨h.bounded, h.valence, h.window, h.elapsed, h.systems, h.next⟩

theorem Phased.rephased (h : Phased R s) (hactive : s.activeOrgasmEvent = false)
    (hw : 0 < s.persistenceWindowMs → 0.05 < s.activationIntensity) : Phased R (rephased s) := by
  by_cases ha : 0.05 < s.activationIntensity
  · obtain hr | ⟨hr, -⟩ := rephased_activated ha <;>
      rw [hr] <;>
      exact ⟨hactive, nofun, nofun, nofun, fun _ => rfl, nofun⟩
  · rw [rephased_idle hw ha]
    exact h

/-- A stimulus leaves its state in a phase that the quantities call for. -/
def ObserveSettles (R : Binding K D) (a : StimulusAppraisal K) (prior : Bool) (elapsed : K)
    (s : OrgasmState K) : Prop :=
  s.activeOrgasmEvent = true ∨ refractoryReentryBlocked s = true ∨
    organicClimaxEligible R (rephased (stimulated R a prior elapsed s)) = true ∨
    0.05 < (stimulated R a prior elapsed s).activationIntensity ∨
    Settled (stimulated R a prior elapsed s)

omit [DecidableEq D] [IsStrictOrderedRing K] in
theorem organicClimaxEligible_phase (hp : organicClimaxEligible R s = true) :
    organicClimaxEligible R { s with phase := .climaxEligible } = true ∧
      refractoryReentryBlocked { s with phase := .climaxEligible } = false ∧
      s.activeOrgasmEvent = false := by
  simp only [organicClimaxEligible, Bool.and_eq_true, decide_eq_true_eq, Bool.not_eq_true'] at hp ⊢
  obtain ⟨⟨⟨⟨⟨⟨⟨⟨-, hactive⟩, h₁⟩, h₂⟩, h₃⟩, h₄⟩, h₅⟩, h₆⟩, h₇⟩ := hp
  have hblocked : refractoryReentryBlocked { s with phase := .climaxEligible } = false :=
    Bool.and_false _
  exact ⟨⟨⟨⟨⟨⟨⟨⟨⟨hblocked, hactive⟩, h₁⟩, h₂⟩, h₃⟩, h₄⟩, h₅⟩, h₆⟩, h₇⟩, hblocked, hactive⟩

theorem observe_exportable (h : Steady R r) (he : 0 ≤ elapsed)
    (hs : ObserveSettles R a prior elapsed r.state) :
    Exportable R (observe R a prior elapsed stamp r).2 := by
  unfold observe
  split
  next hactive =>
    have hp : r.state.phase = .orgasmEvent := by
      have := h.phased.active
      rw [hactive] at this
      exact of_decide_eq_true this.symm
    exact ⟨⟨h.quantities, h.phased, h.time, h.forced, h.count, h.receipt, h.provenance⟩, nofun,
      by simp [hp], by simp [hp], by simp [hp]⟩
  next hactive =>
    split
    next hblocked =>
      rw [refractoryReentryBlocked, Bool.and_eq_true] at hblocked
      have hp := hblocked.2
      refine ⟨⟨h.quantities, h.phased, h.time, h.forced, h.count, h.receipt, h.provenance⟩, nofun, ?_⟩
      refine ⟨fun hq => ?_, fun hq => ?_, fun hq => ?_⟩ <;>
        rw [show r.state.phase = _ from hq] at hp <;>
        exact absurd hp Bool.false_ne_true
    next hblocked =>
      have hinactive : r.state.activeOrgasmEvent = false := by simpa using hactive
      have hunit := (bounded_iff.1 h.quantities.bounded).2.1
      have hw : 0 < (stimulated R a prior elapsed r.state).persistenceWindowMs →
          0.05 < (stimulated R a prior elapsed r.state).activationIntensity :=
        fun hpos => activated hunit (window_qualifying hpos)
      have hq := (h.quantities.stimulated a prior he).rephased
      have hp := (h.phased.stimulated a prior elapsed).rephased hinactive hw
      dsimp only
      split
      next heligible =>
        obtain ⟨hel, hbl, hac⟩ := organicClimaxEligible_phase heligible
        obtain ⟨e, -, hx | hx | hx⟩ | ⟨-, hrun⟩ := enterOrgasmEvent_cases R .organicThresholdCrossing true stamp
          { r with
            state := { rephased (stimulated R a prior elapsed r.state) with phase := .climaxEligible }
            lastObservationQualifying := a.qualifying }
        · exact absurd (hbl.symm.trans hx) nofun
        · exact absurd (hac.symm.trans hx) nofun
        · exact absurd (hel.symm.trans hx) nofun
        · rw [hrun]
          exact Steady.event ⟨hq.bounded, hq.valence, hq.window, hq.elapsed, hq.systems, hq.next⟩ h.time
            h.forced h.count hac rfl
      next heligible =>
        have hsteady : Steady R { r with
            state := rephased (stimulated R a prior elapsed r.state)
            lastObservationQualifying := a.qualifying } := by
          refine ⟨hq, hp, h.time, h.forced, h.count, h.receipt, fun hlive => ?_⟩
          by_cases ha : 0.05 < (stimulated R a prior elapsed r.state).activationIntensity
          · obtain hr | ⟨hr, -⟩ := rephased_activated ha <;>
              rw [hr] at hlive <;>
              exact absurd (hlive.resolve_left (by simp [stimulated, hinactive])) Bool.false_ne_true
          · rw [rephased_idle hw ha] at hlive
            exact h.provenance hlive
        refine ⟨hsteady, fun hobs => ?_, ?_⟩
        · have ha : 0.05 < (stimulated R a prior elapsed r.state).activationIntensity :=
            activated hunit hobs
          have hctx : a.contextEligible = true :=
            (Bool.and_eq_true _ _ ▸ (show a.qualifying = true from hobs) : _ ∧ _).2
          obtain hr | ⟨hr, -⟩ := rephased_activated ha
          · exact ⟨by rw [hr]; exact hctx, .inl (by rw [hr])⟩
          · exact ⟨by rw [hr]; exact hctx, .inr (by rw [hr])⟩
        · change Settled (rephased (stimulated R a prior elapsed r.state))
          by_cases ha : 0.05 < (stimulated R a prior elapsed r.state).activationIntensity
          · obtain hr | ⟨hr, hc⟩ := rephased_activated ha
            · rw [hr]
              exact ⟨fun _ => ha, nofun, nofun⟩
            · rw [hr]
              exact ⟨nofun, fun _ => hc, nofun⟩
          · rw [rephased_idle hw ha]
            obtain hx | hx | hx | hx | hx := hs
            · exact absurd hx hactive
            · exact absurd hx hblocked
            · exact absurd hx heligible
            · exact absurd hx ha
            · exact hx

/-! ## Calls -/

/-- A call leaves its runtime in a phase that its quantities call for. -/
def Settles (R : Binding K D) (r : OrgasmRuntime K D) : Step K → Prop
  | .applyStimulus a callerElapsed now stamps => ∀ elapsed observed,
    trustedObservationElapsed callerElapsed now r = (.ok elapsed, observed) →
      ObserveSettles R a observed.lastObservationQualifying elapsed
        (advanceTimeCore R elapsed stamps observed).2.state
  | .forceAdminTest _ _ | .forceSelfQualification _ _ => True
  | .advanceTime elapsed _ => 0 < elapsed → SettlesIn R elapsed r.state

theorem Exportable.observedAt (h : Exportable R r) (now : Option K) :
    Exportable R { r with lastMonotonicObservation := now } :=
  ⟨⟨h.quantities, h.phased, h.time, h.forced, h.count, h.receipt, h.provenance⟩, h.observed, h.settled⟩

theorem trustedObservationElapsed_cases (callerElapsed now : K) (r : OrgasmRuntime K D) :
    (∃ e observation, trustedObservationElapsed callerElapsed now r =
      (.error e, { r with lastMonotonicObservation := observation })) ∨
    ∃ elapsed observation, 0 ≤ elapsed ∧ trustedObservationElapsed callerElapsed now r =
      (.ok elapsed, { r with lastMonotonicObservation := observation }) := by
  unfold trustedObservationElapsed
  split
  · exact .inl ⟨_, r.lastMonotonicObservation, rfl⟩
  split
  · exact .inl ⟨_, r.lastMonotonicObservation, rfl⟩
  dsimp only
  split
  · exact .inr ⟨0, _, le_rfl, rfl⟩
  split
  · exact .inl ⟨_, _, rfl⟩
  next hle => exact .inr ⟨_, _, not_lt.1 hle, rfl⟩

theorem Exportable.forceEvent {count : ℤ} (h : Exportable R r)
    (hcount : 0 ≤ count ∧ count ≤ selfQualificationLimit R)
    (hclass : triggerClass ≠ .organicThresholdCrossing) :
    Exportable R (enterOrgasmEvent R triggerClass false stamp { r with
      selfQualificationEvents := count
      lastForcedAt := some r.logicalTimeSeconds }).2 := by
  have hforced : ∀ last, some r.logicalTimeSeconds = some last →
      0 ≤ last ∧ last ≤ r.logicalTimeSeconds := by
    rintro last hl
    obtain rfl := Option.some.inj hl
    exact ⟨h.time, le_rfl⟩
  obtain ⟨e, hr, -⟩ | ⟨-, hr⟩ := enterOrgasmEvent_cases R triggerClass false stamp { r with
      selfQualificationEvents := count
      lastForcedAt := some r.logicalTimeSeconds }
  · rw [hr]
    exact ⟨⟨h.quantities, h.phased, h.time, hforced, hcount, h.receipt, h.provenance⟩, h.observed, h.settled⟩
  · rw [hr]
    exact Steady.event h.quantities h.time hforced hcount h.phased.active (decide_eq_false hclass)

theorem Exportable.run (hd : DecayOk R) (h : Exportable R r) {step : Step K} (hs : Settles R r step) :
    Exportable R (step.run R r).2 := by
  cases step with
  | applyStimulus a callerElapsed now stamps =>
    change Exportable R (applyStimulus R a callerElapsed now stamps r).2
    unfold applyStimulus
    obtain ⟨e, observation, hr⟩ | ⟨elapsed, observation, he, hr⟩ :=
      trustedObservationElapsed_cases callerElapsed now r
    · rw [hr]
      exact h.observedAt observation
    · have hset := hs _ _ hr
      obtain ⟨r', hadv, hsteady, -⟩ :=
        advanceTimeCore_ok hd he stamps (h.observedAt observation).toSteady
      rw [hadv] at hset
      rw [hr]
      dsimp only
      rw [hadv]
      exact observe_exportable hsteady he hset
  | forceAdminTest authorized stamps =>
    change Exportable R (forceAdminTest R authorized stamps r).2
    unfold forceAdminTest
    split
    · exact h
    · split
      · exact h
      · split
        · exact h
        · exact h.forceEvent h.count nofun
  | forceSelfQualification authorized stamps =>
    change Exportable R (forceSelfQualification R authorized stamps r).2
    unfold forceSelfQualification
    split
    · exact h
    · split
      · exact h
      · split
        · exact h
        next hlimit =>
          split
          · exact h
          · exact h.forceEvent ⟨by linarith [h.count.1], by linarith [not_le.1 hlimit]⟩ nofun
  | advanceTime elapsed stamps =>
    change Exportable R (advanceTime R elapsed stamps r).2
    unfold advanceTime
    split
    · exact h
    next hneg =>
      split
      · exact h
      next hzero =>
        have hpos : 0 < elapsed := lt_of_le_of_ne (not_lt.1 hneg) (Ne.symm hzero)
        have hreset : Steady R { r with
            lastObservationQualifying := false
            state := { r.state with persistenceWindowMs := 0 }
            lastMonotonicObservation := none } :=
          ⟨⟨h.quantities.bounded, h.quantities.valence, le_rfl, h.quantities.elapsed, h.quantities.systems,
            h.quantities.next⟩, ⟨h.phased.active, h.phased.event, h.phased.recovery, h.phased.quiescent,
            h.phased.live, h.phased.durable⟩, h.time, h.forced, h.count, h.receipt, h.provenance⟩
        obtain ⟨r', hadv, hsteady, hobs, hset⟩ := advanceTimeCore_ok hd hpos.le stamps hreset
        rw [hadv]
        refine ⟨hsteady, fun ho => absurd ((hobs rfl).symm.trans ho) nofun, hset ?_ (hs hpos)⟩
        exact ⟨h.settled.activating, h.settled.entrained, h.settled.quiescent⟩

theorem quantities_initial : Quantities R ({} : OrgasmState K) := by
  have hmax : 0 ≤ R.contract.maximumOrgasmEventMs :=
    (R.contract.positive _ (List.mem_cons_of_mem _ (List.mem_cons_self ..))).le
  refine ⟨fun field hf => ?_, ⟨?_, zero_le_one⟩, le_rfl, ⟨le_rfl, hmax⟩, rfl, rfl⟩
  · have hzero : field.2 = 0 := by
      simp only [boundedFields, List.mem_cons, List.not_mem_nil, or_false] at hf
      obtain rfl | rfl | rfl | rfl | rfl | rfl | rfl | rfl | rfl | rfl | rfl := hf <;> rfl
    rw [hzero]
    exact ⟨le_rfl, zero_le_one⟩
  · change (-1 : K) ≤ 0
    linarith [zero_lt_one (α := K)]

theorem phased_initial : Phased R ({} : OrgasmState K) where
  active := rfl
  event := nofun
  recovery := nofun
  quiescent _ := ⟨rfl, rfl, by change (0 : K) < 0.05; norm_num, rfl, rfl⟩
  live := nofun
  durable := nofun

theorem settled_initial : Settled ({} : OrgasmState K) where
  activating := nofun
  entrained := nofun
  quiescent _ := by
    change (0 : K) < 0.05 ∧ (0 : K) < 0.05
    norm_num

theorem exportable_initial : Exportable R ({} : OrgasmRuntime K D) where
  quantities := quantities_initial
  phased := phased_initial
  time := le_rfl
  forced _ h := absurd h.symm (Option.some_ne_none _)
  count := by
    have hlimit : 0 < R.contract.selfQualificationMaxEventsPerRun := R.contract.positive _ (by simp)
    exact ⟨le_rfl, Int.floor_nonneg.2 hlimit.le⟩
  receipt _ h := absurd h.symm (Option.some_ne_none _)
  provenance h := absurd (h.resolve_left Bool.false_ne_true) Bool.false_ne_true
  observed h := absurd h Bool.false_ne_true
  settled := settled_initial

theorem runAll_concat (steps : List (Step K)) (step : Step K) :
    runAll R (steps ++ [step]) = (step.run R (runAll R steps)).2 := by
  rw [runAll, List.foldl_append]
  rfl

theorem runAll_exportable (hd : DecayOk R) (steps : List (Step K))
    (hs : ∀ earlier step, earlier ++ [step] <+: steps → Settles R (runAll R earlier) step) :
    Exportable R (runAll R steps) := by
  induction steps using List.reverseRecOn with
  | nil => exact exportable_initial
  | append_singleton steps step ih =>
    rw [runAll_concat]
    refine (ih fun earlier other hp => hs earlier other (hp.trans (List.prefix_append ..))).run hd ?_
    exact hs steps step (List.prefix_refl _)

/-! ## Restoring -/

/-- What is exported is restored as it was, but for the reading of the process's clock. -/
def Restores (R : Binding K D) (r : OrgasmRuntime K D) : Prop :=
  restoreState R (exportState R r) =
    .ok (R, { r with lastMonotonicObservation := none })

theorem validateDurableStateSnapshot_ok (hq : Quantities R s) (hp : Phased R s) (hs : Settled s) :
    validateDurableStateSnapshot R s = .ok s := by
  have hsystems : R.contract.participatingSystems.filter (fun name => name ∈ s.participatingSystems) =
      s.participatingSystems := by
    rw [hq.systems]
    simp
  simp only [validateDurableStateSnapshot, validateQuantities_ok hq, validatePhase_ok hp hs, ok_bind, hsystems]
  rfl

theorem validateGovernance_ok (h : Exportable R r) : validateGovernance R (exportState R r) = .ok () := by
  simp only [validateGovernance, ↓throw_bind, ite_error_ok, ite_throw_ok, pure_ok, not_lt, not_or, not_and,
    not_not, Bool.not_eq_true]
  refine ⟨rfl, h.time, ?_, h.count, fun hobs => ?_, trivial⟩
  · change r.lastForcedAt.any _ = false
    cases hlast : r.lastForcedAt with
    | none => rfl
    | some last =>
      obtain ⟨hpos, hle⟩ := h.forced last hlast
      change (decide (last < 0) || decide (r.logicalTimeSeconds < last)) = false
      rw [decide_eq_false (not_lt.2 hpos), decide_eq_false (not_lt.2 hle)]
      rfl
  · obtain ⟨hctx, hp⟩ := h.observed hobs
    refine ⟨(Bool.not_eq_false _).mpr hctx, fun hne => hp.resolve_left hne, ?_⟩
    change r.state.activeOrgasmEvent = false
    rw [h.phased.active]
    exact decide_eq_false fun he => by rw [he] at hp; exact absurd hp (by decide)

theorem Exportable.restores (hid : R.runtimeInstanceId ≠ "") (hrev : R.sourceRevision ≠ "")
    (h : Exportable R r) : Restores R r := by
  have hstate := validateDurableStateSnapshot_ok h.quantities h.phased h.settled
  have hgov := validateGovernance_ok h
  rw [Restores, restoreState]
  simp only [↓throw_bind, ite_error_ok, bind_eq_ok]
  refine ⟨not_not.2 rfl, not_not.2 rfl, hid, hrev, r.state, hstate, not_not.2 rfl, ?_⟩
  cases hlast : r.lastEventReceipt with
  | none =>
    rw [show (exportState R r).lastEventReceipt = none from hlast]
    exact bind_eq_ok.2 ⟨(), hgov, rfl⟩
  | some receipt =>
    rw [show (exportState R r).lastEventReceipt = some receipt from hlast]
    exact bind_eq_ok.2 ⟨(), h.receipt receipt hlast, bind_eq_ok.2 ⟨(), hgov, rfl⟩⟩

/-! ## A runtime that computes -/

/-- A contract with the numbers of the repository's. -/
def sampleContract : Contract ℚ where
  activationThreshold := 82 / 100
  coherenceThreshold := 78 / 100
  stabilityThreshold := 75 / 100
  satiationGate := 45 / 100
  inhibitionVeto := 70 / 100
  minimumCoherenceWindowMs := 2500
  maximumOrgasmEventMs := 5000
  activationHalfLifeSeconds := 600
  satiationHalfLifeSeconds := 1200
  forcedTestMinimumIntervalSeconds := 10
  selfQualificationMaxEventsPerRun := 2
  participatingSystems := ["sexual_appraisal"]
  thresholds := by
    simp only [List.forall_mem_cons, List.not_mem_nil, false_imp_iff, implies_true, and_true]
    norm_num
  positive := by
    simp only [List.forall_mem_cons, List.not_mem_nil, false_imp_iff, implies_true, and_true]
    norm_num

/-- Decay over the rationals, by one half after a half-life. -/
def sampleBinding : Binding ℚ (ReceiptCore ℚ) where
  contract := sampleContract
  runtimeInstanceId := "r"
  sourceRevision := "s"
  profile := .reentrantClimax
  digest := id
  decayFactor elapsed halfLife := halfLife / (halfLife + elapsed)

theorem sampleBinding_decay : DecayOk sampleBinding := fun _ _ he hh =>
  ⟨div_pos hh (add_pos hh he), (div_le_one (add_pos hh he)).2 (le_add_of_nonneg_right he.le)⟩

def sampleStamps (_ : EventType) : ReceiptStamp := ⟨"id", "2026-01-01T00:00:00+00:00"⟩

/-- A partner is relevant, and nothing else. -/
def partnerAppraisal : StimulusAppraisal ℚ where
  sexualRelevance := 0
  partnerRelevance := 7 / 10
  relationalRelevance := 0
  novelty := 0
  anticipationCue := 0
  positiveValence := -1
  inhibition := 0
  contextEligible := false
  bounded := by
    simp only [List.forall_mem_cons, List.not_mem_nil, false_imp_iff, implies_true, and_true]
    norm_num
  valence := by norm_num

/-- Every state that a run reaches can be restored, where each of its calls leaves the runtime in
a phase that its quantities call for. -/
theorem exports_restore (hid : R.runtimeInstanceId ≠ "") (hrev : R.sourceRevision ≠ "")
    (hd : DecayOk R) (steps : List (Step K))
    (hs : ∀ earlier step, earlier ++ [step] <+: steps → Settles R (runAll R earlier) step) :
    ∀ reached, reached <+: steps → Restores R (runAll R reached) := fun reached hp =>
  (runAll_exportable hd reached fun earlier step he => hs earlier step (he.trans hp)).restores hid hrev

/-- A forced test of a new runtime can be restored. -/
theorem forced_test_restores :
    Restores sampleBinding (runAll sampleBinding [.forceAdminTest true sampleStamps]) := by
  refine exports_restore (by decide) (by decide) sampleBinding_decay
    [.forceAdminTest true sampleStamps] (fun earlier step hp => ?_) _ (List.prefix_refl _)
  have hlen := hp.length_le
  rw [List.length_append] at hlen
  obtain rfl : earlier = [] := List.eq_nil_of_length_eq_zero (by simpa using hlen)
  obtain ⟨_, heq⟩ := hp
  obtain ⟨rfl, -⟩ := List.cons.inj heq
  trivial

/-- One stimulus leaves a new runtime quiescent with more coherence than a quiescent runtime may
be restored with. -/
theorem quiet_stimulus_unrestorable : (restoreState sampleBinding (exportState sampleBinding
    (runAll sampleBinding [.applyStimulus partnerAppraisal 0 0 sampleStamps]))).isOk = false := by
  decide +kernel

end VeraMono.Orgasm
