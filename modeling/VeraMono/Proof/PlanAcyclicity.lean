import VeraMono.Proof.LongHorizonProgress

/-!
# The cycle check of long-horizon plans

`_validate_acyclic` resolves steps in rounds, so the library's rounds say what it accepts: the
plans whose dependencies name steps and lead nowhere back. A plan that was accepted is never
stuck while nothing fails: of the steps that have not succeeded, one depends only on steps that
have (`accepted_ready`).
-/

namespace VeraMono

open Framework LongHorizonCoordinator PlanHistory

variable {T : Type} {plan : LongHorizonPlan} {steps : List PlanStep} {step : PlanStep} {stepId d : String}

/-! ## The dependencies -/

/-- An edge of the dependency graph that `_validate_acyclic` checks. -/
def DependsOn (steps : List PlanStep) : String → String → Prop := Child (dependenciesOf steps)

theorem dependenciesOf_of_mem (hnodup : (steps.map PlanStep.stepId).Nodup) (hstep : step ∈ steps) :
    dependenciesOf steps step.stepId = step.dependencies := by
  rw [dependenciesOf]
  cases hfind : steps.reverse.find? fun other => decide (other.stepId = step.stepId) with
  | none =>
    have hnot := List.find?_eq_none.1 hfind step (List.mem_reverse.2 hstep)
    exact absurd (decide_eq_true rfl) hnot
  | some other =>
    have hid : other.stepId = step.stepId := by simpa using List.find?_some hfind
    rw [List.inj_on_of_nodup_map hnodup (List.mem_reverse.1 (List.mem_of_find?_eq_some hfind)) hstep hid]
    rfl

theorem mem_ids_of_dependsOn (h : DependsOn steps stepId d) : stepId ∈ steps.map PlanStep.stepId := by
  rw [DependsOn, Child, dependenciesOf] at h
  cases hfind : steps.reverse.find? fun other => decide (other.stepId = stepId) with
  | none =>
    rw [hfind] at h
    exact absurd h List.not_mem_nil
  | some step =>
    have hid : step.stepId = stepId := by simpa using List.find?_some hfind
    exact hid ▸ List.mem_map_of_mem (List.mem_reverse.1 (List.mem_of_find?_eq_some hfind))

/-! ## The check -/

/-- What the cycle check is for. -/
structure AcyclicPlan (steps : List PlanStep) : Prop where
  named : ∀ stepId d, DependsOn steps stepId d → d ∈ steps.map PlanStep.stepId
  acyclic : ∀ stepId, ¬ Relation.TransGen (DependsOn steps) stepId stepId

theorem validateAcyclic_iff (steps : List PlanStep) {fuel : Nat} (hfuel : steps.length ≤ fuel) :
    ∃ r, validateAcyclic fuel steps = some r ∧ (r = .ok () ↔ AcyclicPlan steps) := by
  have hlength : (steps.map PlanStep.stepId).dedup.length ≤ fuel :=
    (List.dedup_sublist _).length_le.trans (List.length_map PlanStep.stepId ▸ hfuel)
  have hnodes : ∀ stepId, dependenciesOf steps stepId ≠ [] → stepId ∈ (steps.map PlanStep.stepId).dedup := by
    intro stepId hne
    obtain ⟨d, hd⟩ := List.exists_mem_of_ne_nil _ hne
    exact List.mem_dedup.2 (mem_ids_of_dependsOn hd)
  obtain ⟨b, hb, hiff⟩ := resolveRounds_iff hnodes hlength
  have hplan : b = true ↔ AcyclicPlan steps := by
    rw [hiff]
    constructor
    · rintro ⟨hclosed, hacyclic⟩
      refine ⟨fun stepId d h => ?_, hacyclic⟩
      exact List.mem_dedup.1 (hclosed stepId (List.mem_dedup.2 (mem_ids_of_dependsOn h)) h)
    · exact fun h => ⟨fun stepId _ d hd => List.mem_dedup.2 (h.named stepId d hd), h.acyclic⟩
  rw [validateAcyclic, hb]
  cases b with
  | true => exact ⟨.ok (), rfl, iff_of_true rfl (hplan.1 rfl)⟩
  | false => exact ⟨_, rfl, iff_of_false (fun h => by cases h) fun h => Bool.false_ne_true (hplan.2 h)⟩

/-- The rounds over steps are those over their ids. -/
theorem resolves_eq {needs : String → List String} (fuel : Nat) : ∀ remaining resolved,
    (∀ step ∈ remaining, needs step.stepId = step.dependencies) →
      (resolves fuel remaining resolved = true ↔
        resolveRounds needs fuel (remaining.map PlanStep.stepId) resolved = some true) := by
  induction fuel with
  | zero =>
    intro remaining resolved _
    cases remaining with
    | nil => simp [resolves, resolveRounds]
    | cons step remaining => simp [resolves, resolveRounds]
  | succ fuel ih =>
    intro remaining resolved hneeds
    cases hremaining : remaining with
    | nil => simp [resolves, resolveRounds]
    | cons first left =>
      rw [← hremaining]
      have hne : remaining.map PlanStep.stepId ≠ [] := by simp [hremaining]
      have hready : ∀ step ∈ remaining, isReady needs resolved step.stepId = step.dependencies.all (· ∈ resolved) :=
        fun step hstep => by rw [isReady, hneeds step hstep]
      have hfilter : (remaining.map PlanStep.stepId).filter (isReady needs resolved) =
          (remaining.filter fun step => step.dependencies.all (· ∈ resolved)).map PlanStep.stepId := by
        rw [List.filter_map]
        exact congrArg _ (List.filter_congr hready)
      have hleft : ((remaining.map PlanStep.stepId).filter fun stepId => !isReady needs resolved stepId) =
          (remaining.filter fun step => !step.dependencies.all (· ∈ resolved)).map PlanStep.stepId := by
        rw [List.filter_map]
        exact congrArg _ (List.filter_congr fun step hstep => congrArg not (hready step hstep))
      have hround : resolves (fuel + 1) remaining resolved =
          (!(remaining.filter fun step => step.dependencies.all (· ∈ resolved)).isEmpty &&
            resolves fuel (remaining.filter fun step => !step.dependencies.all (· ∈ resolved))
              (resolved ++ (remaining.filter fun step => step.dependencies.all (· ∈ resolved)).map PlanStep.stepId)) := by
        rw [hremaining]
        rfl
      rw [hround, resolveRounds_succ hne, hfilter, hleft, Bool.and_eq_true,
        ih _ _ fun step hstep => hneeds step (List.mem_filter.1 hstep).1]
      cases hnil : remaining.filter fun step => step.dependencies.all (· ∈ resolved) with
      | nil => simp
      | cons step ready => simp

theorem LongHorizonPlan.acyclic (plan : LongHorizonPlan) : AcyclicPlan plan.steps := by
  have h := plan.wellFormed ⟨fun _ => "", fun _ => .invalid, fun _ _ => "", fun _ => ""⟩
  simp only [checkPlan, bind_eq_ok, ite_error_ok, ite_throw_ok, ↓throw_bind, not_not] at h
  obtain ⟨⟨⟩, -, _, -, _, -, -, hnodup, ⟨⟩, -, hresolves, -⟩ := h
  have hrounds := (resolves_eq plan.steps.length plan.steps [] fun step hstep =>
    dependenciesOf_of_mem hnodup hstep).1 hresolves
  obtain ⟨r, hr, hiff⟩ := validateAcyclic_iff plan.steps le_rfl
  refine hiff.1 ?_
  rw [validateAcyclic, hnodup.dedup, hrounds] at hr
  exact (Option.some.inj hr).symm

/-! ## Progress -/

/-- Among the steps of an accepted plan that have not succeeded, one depends only on steps that
have. -/
theorem exists_open_step (succeeded : String → Prop) (hstep : step ∈ plan.steps) (hopen : ¬ succeeded step.stepId) :
    ∃ next ∈ plan.steps, ¬ succeeded next.stepId ∧ ∀ d ∈ next.dependencies, succeeded d := by
  have hclosed : ∀ stepId ∈ plan.steps.map PlanStep.stepId,
      dependenciesOf plan.steps stepId ⊆ plan.steps.map PlanStep.stepId :=
    fun stepId _ d hd => plan.acyclic.named stepId d hd
  obtain ⟨stepId, hmem, hnot, hneeds⟩ :=
    exists_ready plan.acyclic.acyclic hclosed (List.mem_map_of_mem hstep) hopen
  obtain ⟨next, hnext, rfl⟩ := List.mem_map.1 hmem
  exact ⟨next, hnext, hnot, dependenciesOf_of_mem plan.valid.nodup hnext ▸ hneeds⟩

def AttemptedSucceeded (plan : LongHorizonPlan) (row : String → StepRow T) : Prop :=
  ∀ step ∈ plan.steps, (row step.stepId).state ≠ .pending → (row step.stepId).state = .succeeded

/-- Some step is ready, and the selection without occupied keys is not empty. -/
structure PlanAdvances (plan : LongHorizonPlan) (s : PlanStore T) (row : String → StepRow T) : Prop where
  ready : ∃ step ∈ plan.steps, readyReason s row step = none
  selected : ∀ budget : PlanBudget, budget.validate = .ok () →
    ∃ frontier, planReady plan budget [] s = .ok frontier ∧ frontier.selected ≠ []

theorem planAdvances_of_ready {s : PlanStore T} (hrows : rows plan s = .ok s.row) (hstep : step ∈ plan.steps)
    (hready : readyReason s s.row step = none) : PlanAdvances plan s s.row where
  ready := ⟨step, hstep, hready⟩
  selected := by
    intro budget hbudget
    obtain ⟨first, hfirst⟩ : ∃ first, (sortedSteps plan).find? (fun x => readyReason s s.row x = none) = some first := by
      rw [← Option.isSome_iff_exists, List.find?_isSome]
      exact ⟨step, mem_sortedSteps.2 hstep, decide_eq_true hready⟩
    obtain ⟨hnone, pre, post, hsorted, hpre⟩ := List.find?_eq_some_iff_append.1 hfirst
    have hselected := first_ready_selected budget hbudget hsorted (fun x hx => by simpa using hpre x hx)
      (of_decide_eq_true hnone)
    refine ⟨planReadyWithDb plan s s.row budget [], ?_, List.ne_nil_of_mem hselected⟩
    rw [planReady, hbudget, hrows]
    rfl

theorem accepted_ready {s : PlanStore T} {row : String → StepRow T} (hrows : rows plan s = .ok row)
    (hnone : AttemptedSucceeded plan row) :
    PlanAdvances plan s row ∨ ∀ step ∈ plan.steps, (row step.stepId).state = .succeeded := by
  obtain rfl := rows_ok hrows
  by_cases hall : ∀ step ∈ plan.steps, (s.row step.stepId).state = .succeeded
  · exact .inr hall
  obtain ⟨step, hstep, hopen⟩ : ∃ step ∈ plan.steps, ¬ (s.row step.stepId).state = .succeeded := by
    simpa using hall
  obtain ⟨next, hnext, hnot, hdeps⟩ :=
    exists_open_step (fun stepId => (s.row stepId).state = .succeeded) hstep hopen
  have hpending : (s.row next.stepId).state = .pending :=
    by_contra fun hattempted => hnot (hnone next hnext hattempted)
  exact .inl (planAdvances_of_ready hrows hnext (readyReason_eq_none.2 ⟨.inl hpending, hdeps⟩))

section Runs
variable [LinearOrder T] {clock : Clock T} {h : PlanHistory T}

omit [LinearOrder T] in
/-- In a run, the steps that have left their first state are those with an attempt. -/
theorem PlanHistory.Inv.attempted (hi : Inv plan h) (hstep : step ∈ plan.steps) :
    (h.store.row step.stepId).state ≠ .pending ↔ 1 ≤ (h.store.row step.stepId).attempts := by
  have hrow := hi.rows _ step (LongHorizonPlan.step?_of_mem hstep)
  refine ⟨fun hne => (hrow.started hne).1, fun hattempts hpending => ?_⟩
  have := hrow.pending hpending
  omega

omit [LinearOrder T] in
theorem PlanHistory.Inv.rows_eq (hi : Inv plan h) : LongHorizonCoordinator.rows plan h.store = .ok h.store.row := by
  rw [LongHorizonCoordinator.rows, if_pos ⟨fun x hx => hi.ids ▸ hx, fun x hx => hi.ids.symm ▸ hx⟩]
  rfl

end Runs

/-- The cycle check ends on every list of steps, and accepts exactly those whose dependencies name
steps of the list and contain no cycle; a plan that was accepted advances from every state, reached
by a run or not, in which the steps that were attempted have succeeded and not all have. -/
theorem plan_acyclicity [LinearOrder T] (clock : Clock T) :
    (∀ steps fuel, steps.length ≤ fuel →
      ∃ r, validateAcyclic fuel steps = some r ∧ (r = .ok () ↔ AcyclicPlan steps)) ∧
    (∀ steps : List PlanStep, (steps.map PlanStep.stepId).Nodup → ∀ step ∈ steps, ∀ d,
      DependsOn steps step.stepId d ↔ d ∈ step.dependencies) ∧
    (∀ (plan : LongHorizonPlan) (s : PlanStore T) row, rows plan s = .ok row → AttemptedSucceeded plan row →
      PlanAdvances plan s row ∨ ∀ step ∈ plan.steps, (row step.stepId).state = .succeeded) ∧
    ∀ (plan : LongHorizonPlan) (cs : List (PlanCall T)),
      let h := runCalls (record clock plan) (.new plan) cs
      (∀ step ∈ plan.steps, 1 ≤ (h.store.row step.stepId).attempts →
        (h.store.row step.stepId).state = .succeeded) →
      PlanAdvances plan h.store h.store.row ∨ ∀ step ∈ plan.steps, (h.store.row step.stepId).state = .succeeded := by
  refine ⟨fun steps fuel hfuel => validateAcyclic_iff steps hfuel, fun steps hnodup step hstep d => ?_,
    fun plan s row hrows hnone => accepted_ready hrows hnone, fun plan cs => ?_⟩
  · rw [DependsOn, Child, dependenciesOf_of_mem hnodup hstep]
  · intro h hsucceeded
    have hi : Inv plan h := Inv.run clock plan cs
    exact accepted_ready hi.rows_eq fun step hstep hattempted => hsucceeded step hstep ((hi.attempted hstep).1 hattempted)

/-! ## A diamond -/

/-- Two steps between a first and a last one. -/
def diamondPlan : LongHorizonPlan where
  planId := "plan"
  objective := "objective"
  steps := [⟨"first", [], .p0, "family", [], 1⟩, ⟨"left", ["first"], .p0, "family", [], 1⟩,
    ⟨"right", ["first"], .p0, "family", [], 1⟩, ⟨"last", ["left", "right"], .p0, "family", [], 1⟩]
  wellFormed := fun _ => rfl

/-- The first step is claimed and completed. -/
def diamondCalls : List (PlanCall Int) :=
  [.claim ⟨"first", "holder", 0, 1, none, []⟩, .complete ⟨"plan", "first", "holder", 1, 1, 1⟩ true "evidence" 0]

def diamondRun : PlanHistory Int := runCalls (record tickClock diamondPlan) (.new diamondPlan) diamondCalls

theorem plan_acyclicity_diamond :
    (∃ r, validateAcyclic 4 diamondPlan.steps = some r ∧ (r = .ok () ↔ AcyclicPlan diamondPlan.steps)) ∧
    (∀ d, DependsOn diamondPlan.steps "first" d ↔ d ∈ []) ∧
    (PlanAdvances diamondPlan diamondRun.store diamondRun.store.row ∨
      ∀ step ∈ diamondPlan.steps, (diamondRun.store.row step.stepId).state = .succeeded) ∧
    (PlanAdvances diamondPlan diamondRun.store diamondRun.store.row ∨
      ∀ step ∈ diamondPlan.steps, (diamondRun.store.row step.stepId).state = .succeeded) := by
  refine ⟨(plan_acyclicity tickClock).1 diamondPlan.steps 4 (by decide),
    (plan_acyclicity tickClock).2.1 diamondPlan.steps (by decide) ⟨"first", [], .p0, "family", [], 1⟩ (by decide),
    (plan_acyclicity tickClock).2.2.1 diamondPlan diamondRun.store diamondRun.store.row rfl ?_,
    (plan_acyclicity tickClock).2.2.2 diamondPlan diamondCalls ?_⟩
  · unfold AttemptedSucceeded
    decide
  · exact (by decide : ∀ step ∈ diamondPlan.steps, 1 ≤ (diamondRun.store.row step.stepId).attempts →
      (diamondRun.store.row step.stepId).state = .succeeded)

/-- Two steps that wait for each other end the loop. -/
example : validateAcyclic 2 [⟨"a", ["b"], .p0, "family", [], 1⟩, ⟨"b", ["a"], .p0, "family", [], 1⟩] =
    some (.error ⟨.valueError, "plan dependencies contain a cycle"⟩) := by decide

end VeraMono
