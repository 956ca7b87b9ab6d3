import VeraMono.Proof.LongHorizon

/-!
# Limits and progress of long-horizon plans

The selection of a claim looks at the ready steps only, so it neither reserves the
collision keys of the steps that are running nor counts them: the limits hold in the
runs whose claims find room (`plan_limits`). A running step whose lease has expired can
be neither completed nor claimed; every other step that waits for nothing can make
progress (`step_progress`), because the first ready step of the order is always
selected and a claim takes it out of the way.
-/

namespace VeraMono

open Framework LongHorizonCoordinator PlanHistory

variable {T : Type} {plan : LongHorizonPlan} {step : PlanStep}

/-! ## Selection -/

theorem mem_sortedSteps : step ∈ sortedSteps plan ↔ step ∈ plan.steps := by
  rw [sortedSteps, (List.Perm.map Prod.fst (List.perm_insertionSort _ _)).mem_iff,
    List.zipIdx_map_fst]

section Selection
variable {s : PlanStore T} {budget : PlanBudget} {f : Frontier}

/-- A step that is not ready changes nothing of the selection. -/
theorem consider_deferred (h : readyReason s s.row step ≠ none) :
    (consider s s.row budget f step).selected = f.selected ∧
      (consider s s.row budget f step).reserved = f.reserved ∧
      (consider s s.row budget f step).familyLoad = f.familyLoad := by
  rw [consider]
  cases hr : readyReason s s.row step with
  | none => exact absurd hr h
  | some reason => exact ⟨rfl, rfl, rfl⟩

theorem foldl_deferred (budget : PlanBudget) {steps : List PlanStep} (h : ∀ x ∈ steps, readyReason s s.row x ≠ none) :
    (steps.foldl (consider s s.row budget) f).selected = f.selected ∧
      (steps.foldl (consider s s.row budget) f).reserved = f.reserved ∧
      (steps.foldl (consider s s.row budget) f).familyLoad = f.familyLoad := by
  induction steps generalizing f with
  | nil => exact ⟨rfl, rfl, rfl⟩
  | cons x xs ih =>
    obtain ⟨h₁, h₂, h₃⟩ := consider_deferred (f := f) (h x List.mem_cons_self)
    obtain ⟨h₁', h₂', h₃'⟩ := ih (f := consider s s.row budget f x) fun y hy =>
      h y (List.mem_cons_of_mem x hy)
    exact ⟨h₁'.trans h₁, h₂'.trans h₂, h₃'.trans h₃⟩

theorem consider_selected {x : PlanStep} (h : x ∈ f.selected) :
    x ∈ (consider s s.row budget f step).selected := by
  rw [consider]
  split
  · exact h
  · split
    · exact h
    · split
      · exact h
      · split
        · exact h
        · exact List.mem_append_left _ h

theorem foldl_selected {steps : List PlanStep} {x : PlanStep} (h : x ∈ f.selected) :
    x ∈ (steps.foldl (consider s s.row budget) f).selected := by
  induction steps generalizing f with
  | nil => exact h
  | cons y ys ih => exact ih (consider_selected h)

theorem first_ready_selected (budget : PlanBudget) {pre post : List PlanStep} (hb : budget.validate = .ok ())
    (hsorted : sortedSteps plan = pre ++ step :: post)
    (hpre : ∀ x ∈ pre, readyReason s s.row x ≠ none) (hstep : readyReason s s.row step = none) :
    step ∈ (planReadyWithDb plan s s.row budget []).selected := by
  simp only [PlanBudget.validate, ite_error_ok, ite_throw_ok, ↓throw_bind, not_lt] at hb
  obtain ⟨hp, hf, -⟩ := hb
  rw [planReadyWithDb, hsorted, List.foldl_append, List.foldl_cons]
  refine foldl_selected ?_
  obtain ⟨h₁, h₂, h₃⟩ := foldl_deferred budget (f := ⟨[], [], fun _ => 0, []⟩) hpre
  generalize pre.foldl (consider s s.row budget) _ = f at h₁ h₂ h₃
  have hkeys : (step.collisionKeys.any fun k => decide (k ∈ f.reserved)) = false := by simp [h₂]
  have hpar : ¬ (f.selected.length : Int) ≥ budget.maxParallel := by simp [h₁]; omega
  have hfam : ¬ f.familyLoad step.familyId ≥ budget.maxPerFamily := by rw [h₃]; simp; omega
  simp only [consider, hstep, hkeys, Bool.false_eq_true, if_false, if_neg hpar, if_neg hfam]
  exact List.mem_append_right _ (List.mem_singleton_self _)

end Selection

section Progress
variable [LinearOrder T] {clock : Clock T} {h : PlanHistory T} {t : T}

variable (clock) in
theorem claim_of_ready (args : StepClaimArgs T) (hi : Inv plan h)
    (hfound : plan.step? args.stepId = some step) (hready : Ready h.store step)
    (hsel : step ∈ (planReadyWithDb plan h.store h.store.row (effectiveBudget args.budget)
      args.occupiedCollisionKeys).selected)
    (hbudget : (effectiveBudget args.budget).validate = .ok ())
    (hoccupied : validateOccupied args.occupiedCollisionKeys = .ok ()) (hholder : args.holder ≠ "")
    (hnow : clock.isFinite args.now = true) (httl : clock.isFinite args.ttl = true)
    (hpos : clock.zero < args.ttl) :
    ∃ cl s', claim plan clock args h.store = .ok (cl, s') := by
  obtain ⟨hmem, hid⟩ := step?_some hfound
  have hrows : rows plan h.store = .ok h.store.row := by
    rw [rows, if_pos ⟨fun x hx => hi.ids ▸ hx, fun x hx => hi.ids.symm ▸ hx⟩]
    rfl
  have hmax := PlanStep.one_le_maxAttempts (plan.valid.steps step hmem)
  have hatt : (h.store.row args.stepId).attempts < step.maxAttempts := by
    have hr := hi.rows _ step hfound
    rcases hid ▸ hready.state with hst | ⟨hst, -⟩
    · have := hr.pending hst
      omega
    · exact (hr.retryable hst).2.1
  have hselid : args.stepId ∈ (planReadyWithDb plan h.store h.store.row (effectiveBudget args.budget)
      args.occupiedCollisionKeys).selected.map PlanStep.stepId := hid ▸ List.mem_map_of_mem hsel
  simp only [claim, hfound, requireText, if_neg hholder, finite, hnow, httl, if_true, hbudget, hoccupied,
    hrows, readyReason_eq_none.2 hready, if_neg (not_le.2 hpos), hselid, not_true_eq_false, if_false,
    if_neg (not_le.2 hatt), ge_iff_le, bind, Except.bind, pure, Except.pure]
  exact ⟨_, _, rfl⟩

/-- A call made no earlier than `t`. -/
def NotBefore (t : T) : PlanCall T → Prop
  | .claim args => t ≤ args.now
  | .complete _ _ _ now => t ≤ now
  | .applyCorrection _ _ => True

def ExpiredRunning (t : T) (r : StepRow T) : Prop :=
  r.state = .running ∧ ∀ expires, r.leaseExpiresAt = some expires → expires ≤ t

/-- Some calls from `t` on change the state of the step. -/
def CanProgress (clock : Clock T) (plan : LongHorizonPlan) (h : PlanHistory T) (t : T)
    (stepId : String) : Prop :=
  ∃ cs : List (PlanCall T), (∀ c ∈ cs, NotBefore t c) ∧
    ((runCalls (record clock plan) h cs).store.row stepId).state ≠ (h.store.row stepId).state

theorem ready_after_claim {args : StepClaimArgs T} {cl : StepClaim T} {s' : PlanStore T} {y : PlanStep}
    (hi : Inv plan h) (hc : ClaimOk plan clock args h.store cl s' step) :
    Ready s' y ↔ y.stepId ≠ args.stepId ∧ Ready h.store y := by
  have hrow := row_claimed hi hc
  have hcorr (k : Int) : hasCorrection s' y.stepId k = hasCorrection h.store y.stepId k := by
    rw [hc.store, hasCorrection, hasCorrection]
  have hnot : (h.store.row args.stepId).state ≠ .succeeded := by
    rcases (step?_some hc.found).2 ▸ hc.ready.state with hst | ⟨hst, -⟩ <;> rw [hst] <;> simp
  have hdeps (d : String) : (s'.row d).state = .succeeded ↔ (h.store.row d).state = .succeeded := by
    rw [hrow]
    by_cases hd : d = args.stepId
    · subst hd
      rw [if_pos rfl]
      exact ⟨fun h => (by cases h), fun h => absurd h hnot⟩
    · rw [if_neg hd]
  rw [ready_iff, ready_iff]
  simp only [hdeps, hcorr]
  by_cases hk : y.stepId = args.stepId
  · simp [hrow, hk, StepRow.claimed]
  · simp [hrow, hk]

theorem countP_lt {α : Type} {p q : α → Bool} {l : List α} {x : α} (hpq : ∀ y, p y = true → q y = true)
    (hx : x ∈ l) (hp : p x = false) (hq : q x = true) : l.countP p < l.countP q := by
  obtain ⟨pre, post, rfl⟩ := List.append_of_mem hx
  have h₁ := List.countP_mono_left (l := pre) fun y _ => hpq y
  have h₂ := List.countP_mono_left (l := post) fun y _ => hpq y
  simp only [List.countP_append, List.countP_cons, hp, hq, if_true, Bool.false_eq_true, if_false]
  omega

/-- A ready step can be claimed, once the ready steps before it have been. -/
theorem ready_progress (ht : clock.isFinite t = true) (hstep : step ∈ plan.steps) (n : Nat)
    (hi : Inv plan h) (hready : Ready h.store step)
    (hn : (sortedSteps plan).countP (fun x => readyReason h.store h.store.row x = none) ≤ n) :
    ∃ cs : List (PlanCall T), (∀ c ∈ cs, NotBefore t c) ∧
      ((runCalls (record clock plan) h cs).store.row step.stepId).state = .running := by
  induction n generalizing h with
  | zero =>
    have hpos : 0 < (sortedSteps plan).countP fun x => readyReason h.store h.store.row x = none :=
      List.countP_pos_iff.2 ⟨step, mem_sortedSteps.2 hstep, by simpa using readyReason_eq_none.2 hready⟩
    omega
  | succ n ih =>
    obtain ⟨x, hx⟩ : ∃ x, (sortedSteps plan).find? (fun x => readyReason h.store h.store.row x = none) =
        some x := by
      rw [← Option.isSome_iff_exists, List.find?_isSome]
      exact ⟨step, mem_sortedSteps.2 hstep, by simpa using readyReason_eq_none.2 hready⟩
    obtain ⟨hxr, pre, post, hsorted, hpre⟩ := List.find?_eq_some_iff_append.1 hx
    have hxnone : readyReason h.store h.store.row x = none := by simpa using hxr
    have hxmem : x ∈ plan.steps :=
      mem_sortedSteps.1 (hsorted ▸ List.mem_append_right _ List.mem_cons_self)
    have hsel := first_ready_selected ⟨1, 1⟩ rfl hsorted (fun y hy => by simpa using hpre y hy)
      hxnone
    obtain ⟨cl, s', hcl⟩ := claim_of_ready clock ⟨x.stepId, "holder", t, clock.one, none, []⟩
      hi (LongHorizonPlan.step?_of_mem hxmem) (readyReason_eq_none.1 hxnone) hsel rfl rfl
      (show "holder" ≠ "" by decide) ht
      clock.one_finite clock.one_pos
    obtain ⟨x', hok⟩ := claim_ok hcl
    have hcommit : commit (record clock plan) h
        (.claim ⟨x.stepId, "holder", t, clock.one, none, []⟩) = ⟨s', cl :: h.claims⟩ := by
      refine commit_ok (a := .claimed cl) ?_
      rw [record, exec, hcl]
      rfl
    by_cases hxs : step.stepId = x.stepId
    · refine ⟨[.claim ⟨x.stepId, "holder", t, clock.one, none, []⟩], ?_, ?_⟩
      · intro c hc
        cases List.mem_singleton.1 hc
        exact le_rfl
      · change ((commit (record clock plan) h _).store.row step.stepId).state = _
        rw [hcommit, row_claimed hi hok, if_pos hxs]
        rfl
    · have hready' : Ready s' step := (ready_after_claim hi hok).2 ⟨hxs, hready⟩
      have hlt : (sortedSteps plan).countP (fun y => readyReason s' s'.row y = none) <
          (sortedSteps plan).countP fun y => readyReason h.store h.store.row y = none := by
        refine countP_lt (fun y hy => ?_) (mem_sortedSteps.2 hxmem) ?_ hxr
        · simp only [decide_eq_true_eq, readyReason_eq_none] at hy ⊢
          exact ((ready_after_claim hi hok).1 hy).2
        · simp only [decide_eq_false_iff_not, readyReason_eq_none]
          exact fun hr => ((ready_after_claim hi hok).1 hr).1 rfl
      obtain ⟨cs, hcs, hrun⟩ := ih (hi.claimed hok) hready' (by simp only; omega)
      refine ⟨.claim ⟨x.stepId, "holder", t, clock.one, none, []⟩ :: cs, ?_, ?_⟩
      · intro c hc
        rcases List.mem_cons.1 hc with rfl | hc
        · exact le_rfl
        · exact hcs c hc
      · change ((runCalls (record clock plan) (commit (record clock plan) h _) cs).store.row
          step.stepId).state = _
        rw [hcommit]
        exact hrun

theorem running_progress (ht : clock.isFinite t = true) (hi : Inv plan h)
    (hfound : plan.step? step.stepId = some step) (hrun : (h.store.row step.stepId).state = .running)
    (hlive : ¬ ExpiredRunning t (h.store.row step.stepId)) : CanProgress clock plan h t step.stepId := by
  obtain ⟨expires, hlease, hlt⟩ : ∃ e, (h.store.row step.stepId).leaseExpiresAt = some e ∧ t < e := by
    simpa [ExpiredRunning, hrun] using hlive
  generalize hcl : (⟨plan.planId, step.stepId, holderText (h.store.row step.stepId).holder,
    (h.store.row step.stepId).fencingToken, (h.store.row step.stepId).attempts, expires⟩ : StepClaim T) = cl
  obtain ⟨r, s', hok⟩ : ∃ r s', complete plan clock cl true "evidence" t h.store = .ok (r, s') := by
    simp only [complete, ← hcl, hfound, hi.get? hfound, requireText, finite, ht, hrun, hlease, hlt.not_ge,
      Option.all_some, bind, Except.bind, pure, Except.pure, ne_eq, not_true_eq_false, if_false, if_true,
      or_self, decide_false, Bool.false_eq_true, if_neg (show ¬ "evidence" = "" by decide)]
    exact ⟨_, _, rfl⟩
  obtain ⟨step', row, hc⟩ := complete_ok hok
  refine ⟨[.complete cl true "evidence" t], fun c hc => ?_, ?_⟩
  · cases List.mem_singleton.1 hc
    exact le_rfl
  · have hcommit : commit (record clock plan) h (.complete cl true "evidence" t) = ⟨s', h.claims⟩ := by
      refine commit_ok (a := .recorded r) ?_
      rw [record, exec, hok]
      rfl
    change ((commit (record clock plan) h _).store.row step.stepId).state ≠ _
    rw [hcommit, row_completed hc, if_pos (by rw [← hcl]), hrun]
    exact (outcome_state true cl.attempt step'.maxAttempts).2

/-- A step that failed and may be retried is ready, or is once its correction is recorded. -/
theorem retryable_ready (hi : Inv plan h) (hfound : plan.step? step.stepId = some step)
    (hst : (h.store.row step.stepId).state = .failedRetryable)
    (hdeps : ∀ d ∈ step.dependencies, (h.store.row d).state = .succeeded) :
    Ready h.store step ∨ ∃ c h', NotBefore t c ∧ commit (record clock plan) h c = h' ∧ Inv plan h' ∧
      h'.store.row = h.store.row ∧ Ready h'.store step := by
  obtain ⟨hlast, -⟩ := (hi.rows _ step hfound).retryable hst
  cases hcorr : h.store.corrections.get? (step.stepId, (h.store.row step.stepId).attempts) with
  | some c =>
    refine .inl ⟨.inr ⟨hst, _, hlast, ?_⟩, hdeps⟩
    rw [hasCorrection, hcorr]
    rfl
  | none =>
    refine .inr ⟨.applyCorrection step.stepId "correction", ⟨⟨h.store.rows, h.store.events,
      h.store.corrections.insert ⟨step.stepId, (h.store.row step.stepId).attempts, "correction"⟩⟩, h.claims⟩,
      trivial, commit_ok (a := .corrected) ?_, hi.corrected hcorr, rfl, ⟨.inr ⟨hst, _, hlast, ?_⟩, hdeps⟩⟩
    · simp only [record, exec, applyCorrection, hfound, hi.get? hfound, hst, hlast, hcorr, requireText,
        bind, Except.bind, pure, Except.pure, Option.isNone_some, Option.isSome_none, ne_eq,
        not_true_eq_false, Bool.false_eq_true, if_false, if_neg (show ¬ "correction" = "" by decide)]
      rfl
    · rw [hasCorrection, Option.isSome_iff_exists]
      exact ⟨_, Table.get?_insert_self (t := h.store.corrections)
        (v := (⟨step.stepId, (h.store.row step.stepId).attempts, "correction"⟩ : StepCorrection)) hcorr⟩

/-- Nothing that is done later changes the row of a running step whose lease has expired. -/
theorem expired_stuck {stepId : String} (hi : Inv plan h)
    (hexp : ExpiredRunning t (h.store.row stepId)) {cs : List (PlanCall T)} (hcs : ∀ c ∈ cs, NotBefore t c) :
    (runCalls (record clock plan) h cs).store.row stepId = h.store.row stepId := by
  refine (runCalls_invariant_of (P := fun h' => Inv plan h' ∧ h'.store.row stepId = h.store.row stepId)
    (G := fun _ c => NotBefore t c) ⟨hi, rfl⟩ (fun h₁ c a h₂ hP hc hr => ⟨hP.1.record hr, ?_⟩)
    fun before c after hsplit => hcs c (by simp [hsplit])).2
  obtain ⟨hi₁, hrow⟩ := hP
  refine record_cases (motive := fun h₂ => h₂.store.row stepId = h.store.row stepId)
    (fun args cl s' step hcall _ hok => ?_) (fun cl success evidenceRef now s' step row hcall hok => ?_)
    (fun _ _ _ _ _ _ _ _ _ => hrow) hr
  · have hne : stepId ≠ args.stepId := by
      rintro rfl
      rcases (step?_some hok.found).2 ▸ hok.ready.state with hst | ⟨hst, -⟩ <;>
        rw [hrow, hexp.1] at hst <;> cases hst
    simp only [row_claimed hi₁ hok, if_neg hne, hrow]
  · have hne : stepId ≠ cl.stepId := by
      rintro rfl
      obtain ⟨e, he, hlt⟩ := hok.lease
      rw [← PlanStore.row_of_get? hok.get, hrow] at he
      rw [hcall] at hc
      exact absurd (hc.trans_lt hlt) (hexp.2 e he).not_gt
    simp only [row_completed hok, if_neg hne, hrow]

end Progress

/-! ## Progress -/

/-- From a time `t` on, a step whose dependencies have succeeded and that has not ended
can make progress exactly when it is not running with a lease that expired by `t`. -/
theorem step_progress [LinearOrder T] (clock : Clock T) (plan : LongHorizonPlan) (cs : List (PlanCall T))
    (step : PlanStep) (t : T) (ht : clock.isFinite t = true) (hstep : step ∈ plan.steps)
    (hdeps : ∀ d ∈ step.dependencies,
      ((runCalls (record clock plan) (.new plan) cs).store.row d).state = .succeeded)
    (hopen : ((runCalls (record clock plan) (.new plan) cs).store.row step.stepId).state ≠ .succeeded ∧
      ((runCalls (record clock plan) (.new plan) cs).store.row step.stepId).state ≠ .failedTerminal) :
    CanProgress clock plan (runCalls (record clock plan) (.new plan) cs) t step.stepId ↔
      ¬ ExpiredRunning t ((runCalls (record clock plan) (.new plan) cs).store.row step.stepId) := by
  have hi := Inv.run clock plan cs
  generalize runCalls (record clock plan) (.new plan) cs = h at hi hdeps hopen ⊢
  have hfound := LongHorizonPlan.step?_of_mem hstep
  constructor
  · rintro ⟨more, hmore, hchange⟩ hexp
    exact hchange (congrArg StepRow.state (expired_stuck hi hexp hmore))
  · intro hlive
    have hclaim {h' : PlanHistory T} (hi' : Inv plan h') (hr : Ready h'.store step) :=
      ready_progress (t := t) ht hstep _ hi' hr le_rfl
    cases hst : (h.store.row step.stepId).state with
    | succeeded => exact absurd hst hopen.1
    | failedTerminal => exact absurd hst hopen.2
    | running => exact running_progress ht hi hfound hst hlive
    | pending =>
      obtain ⟨more, hmore, hrun⟩ := hclaim hi ⟨.inl hst, hdeps⟩
      exact ⟨more, hmore, by rw [hrun, hst]; simp⟩
    | failedRetryable =>
      rcases @retryable_ready _ _ _ _ clock _ t hi hfound hst hdeps with hr | ⟨c, h', hc, hcommit, hi', hrow, hr⟩
      · obtain ⟨more, hmore, hrun⟩ := hclaim hi hr
        exact ⟨more, hmore, by rw [hrun, hst]; simp⟩
      · obtain ⟨more, hmore, hrun⟩ := hclaim hi' hr
        refine ⟨c :: more, fun c' hc' => ?_, ?_⟩
        · rcases List.mem_cons.1 hc' with rfl | hc'
          · exact hc
          · exact hmore c' hc'
        · change ((runCalls (record clock plan) (commit (record clock plan) h c) more).store.row
            step.stepId).state ≠ _
          rw [hcommit, hrun, hst]
          simp

/-! ## A plan of two steps -/

/-- Two steps that share a collision key. -/
def samplePlan : LongHorizonPlan where
  planId := "plan"
  objective := "objective"
  steps := [⟨"a", [], .p0, "family", ["key"], 1⟩, ⟨"b", [], .p0, "family", ["key"], 1⟩]
  wellFormed := fun _ => rfl

def tickClock : Clock Int := ⟨fun _ => true, (· + ·), 0, 1, rfl, Int.zero_lt_one⟩

/-- A claim at time 0 for one tick, under the default budget. -/
def sampleClaim (stepId : String) : PlanCall Int := .claim ⟨stepId, "holder", 0, 1, none, []⟩

/-- The sample plan after some claims. -/
def sampleRun (stepIds : List String) : PlanHistory Int :=
  runCalls (record tickClock samplePlan) (.new samplePlan) (stepIds.map sampleClaim)

/-- The holder of a step crashed: from the end of its lease on nothing moves the step. -/
theorem crashed_step_stuck : ¬ ∀ step ∈ samplePlan.steps, (∀ d ∈ step.dependencies,
      ((sampleRun ["a"]).store.row d).state = .succeeded) →
    ((sampleRun ["a"]).store.row step.stepId).state ≠ .succeeded →
    ((sampleRun ["a"]).store.row step.stepId).state ≠ .failedTerminal →
    CanProgress tickClock samplePlan (sampleRun ["a"]) 1 step.stepId := by
  intro h
  have hrun : ((sampleRun ["a"]).store.row "a").state = .running := by decide
  have hlease : ((sampleRun ["a"]).store.row "a").leaseExpiresAt = some 1 := by decide
  obtain ⟨cs, hcs, hchange⟩ := h ⟨"a", [], .p0, "family", ["key"], 1⟩ List.mem_cons_self
    (fun d hd => by cases hd) (by rw [hrun]; decide) (by rw [hrun]; decide)
  refine hchange (congrArg StepRow.state (expired_stuck (Inv.run tickClock samplePlan _) ⟨hrun, ?_⟩ hcs))
  intro e he
  cases hlease.symm.trans he
  exact le_rfl

/-- A step that depends on another. -/
def chainedPlan : LongHorizonPlan where
  planId := "plan"
  objective := "objective"
  steps := [⟨"a", [], .p0, "family", ["key"], 1⟩, ⟨"b", ["a"], .p0, "family", ["key"], 1⟩]
  wellFormed := fun _ => rfl

/-- The first step is claimed and succeeds, and then the second is claimed. -/
def chainedCalls : List (PlanCall Int) :=
  [sampleClaim "a", .complete ⟨"plan", "a", "holder", 1, 1, 1⟩ true "evidence" 0, sampleClaim "b"]

/-- The sample calls on the chained plan. -/
def chainedRun (n : Nat) : PlanHistory Int :=
  runCalls (record tickClock chainedPlan) (.new chainedPlan) (chainedCalls.take n)

/-- The theorem at a step whose dependency succeeded and which is running. -/
theorem step_progress_sample :
    CanProgress tickClock chainedPlan (chainedRun 3) 0 "b" ↔
      ¬ ExpiredRunning 0 ((chainedRun 3).store.row "b") :=
  step_progress tickClock chainedPlan chainedCalls ⟨"b", ["a"], .p0, "family", ["key"], 1⟩ 0 rfl
    (by decide) (by decide) (by decide)

/-! ## Limits -/

section Limits

/-- No two running steps share a collision key. -/
def NoCollision (plan : LongHorizonPlan) (s : PlanStore T) : Prop :=
  ∀ a ∈ plan.steps, ∀ b ∈ plan.steps, a.stepId ≠ b.stepId → (s.row a.stepId).state = .running →
    (s.row b.stepId).state = .running → ∀ k ∈ a.collisionKeys, k ∉ b.collisionKeys

/-- How many of the steps that satisfy `p` are running. -/
def load (plan : LongHorizonPlan) (s : PlanStore T) (p : PlanStep → Bool) : Nat :=
  plan.steps.countP fun x => p x && (s.row x.stepId).state = .running

/-- The running steps keep to a budget. -/
def WithinBudget (plan : LongHorizonPlan) (s : PlanStore T) (budget : PlanBudget) : Prop :=
  load plan s (fun _ => true) ≤ budget.maxParallel ∧
    ∀ family, load plan s (fun x => x.familyId = family) ≤ budget.maxPerFamily

/-- A claim of a ready step finds room: no running step shares a key with it, and the
running steps, of all families and of its own, are fewer than its budget allows. -/
def FindsRoom (plan : LongHorizonPlan) (s : PlanStore T) (c : PlanCall T) : Prop :=
  ∀ args step, c = .claim args → plan.step? args.stepId = some step → readyReason s s.row step = none →
    (∀ b ∈ plan.steps, (s.row b.stepId).state = .running →
      ∀ k ∈ step.collisionKeys, k ∉ b.collisionKeys) ∧
    load plan s (fun _ => true) < (effectiveBudget args.budget).maxParallel ∧
    load plan s (fun x => x.familyId = step.familyId) < (effectiveBudget args.budget).maxPerFamily

theorem countP_le_add {α : Type} {p q r : α → Bool} (l : List α)
    (h : ∀ x ∈ l, p x = true → q x = true ∨ r x = true) : l.countP p ≤ l.countP q + l.countP r := by
  induction l with
  | nil => exact Nat.zero_le _
  | cons x xs ih =>
    have hx := h x List.mem_cons_self
    have hxs := ih fun y hy => h y (List.mem_cons_of_mem x hy)
    simp only [List.countP_cons]
    cases hp : p x <;> cases hq : q x <;> cases hr : r x <;> simp_all <;> omega

variable [LinearOrder T] {clock : Clock T} {h : PlanHistory T} {s' : PlanStore T}

theorem load_claimed {args : StepClaimArgs T} {cl : StepClaim T} (hi : Inv plan h)
    (hc : ClaimOk plan clock args h.store cl s' step) (p : PlanStep → Bool) :
    load plan s' p ≤ load plan h.store p + if p step then 1 else 0 := by
  obtain ⟨hmem, hid⟩ := step?_some hc.found
  have hone : plan.steps.countP (fun x => p x && x.stepId = args.stepId) ≤ if p step then 1 else 0 := by
    have hcount : plan.steps.countP (fun x => x.stepId = args.stepId) ≤ 1 := by
      have := (List.nodup_iff_count_le_one.1 plan.valid.nodup) args.stepId
      rw [List.count, List.countP_map] at this
      exact this
    split
    · exact (List.countP_mono_left fun x _ hx => (Bool.and_eq_true _ _ ▸ hx).2).trans hcount
    · rename_i hp
      rw [Nat.le_zero, List.countP_eq_zero]
      intro x hx hpx
      rw [Bool.and_eq_true, decide_eq_true_eq] at hpx
      rw [List.inj_on_of_nodup_map plan.valid.nodup hx hmem (hpx.2.trans hid.symm)] at hpx
      exact hp hpx.1
  refine (countP_le_add plan.steps fun x _ hx => ?_).trans (Nat.add_le_add_left hone _)
  simp only [Bool.and_eq_true, decide_eq_true_eq] at hx ⊢
  rw [row_claimed hi hc] at hx
  by_cases hk : x.stepId = args.stepId
  · exact .inr ⟨hx.1, hk⟩
  · rw [if_neg hk] at hx
    exact .inl hx

theorem running_completed {cl : StepClaim T} {success : Bool} {evidenceRef : String} {now : T}
    {row : StepRow T} (hc : CompleteOk plan cl success evidenceRef now h.store s' step row) {k : String}
    (hk : (s'.row k).state = .running) : (h.store.row k).state = .running := by
  rw [row_completed hc] at hk
  split at hk
  · exact absurd hk (outcome_state success cl.attempt step.maxAttempts).2
  · exact hk

theorem noCollision_record {c : PlanCall T} {reply : PlanReply T} {h' : PlanHistory T} (hi : Inv plan h)
    (hn : NoCollision plan h.store) (hroom : FindsRoom plan h.store c)
    (hr : record clock plan c h = .ok (reply, h')) : NoCollision plan h'.store := by
  refine record_cases (motive := fun h' => NoCollision plan h'.store) (fun args cl s' step hcall _ hok => ?_)
    (fun cl success evidenceRef now s' step row hcall hok => ?_) (fun _ _ _ _ _ _ _ _ _ => hn) hr
  · obtain ⟨hkeys, -⟩ := hroom args step hcall hok.found (readyReason_eq_none.2 hok.ready)
    obtain ⟨hmem, hid⟩ := step?_some hok.found
    have hsame {x : PlanStep} (hx : x ∈ plan.steps) (hk : x.stepId = args.stepId) : x = step :=
      List.inj_on_of_nodup_map plan.valid.nodup hx hmem (hk.trans hid.symm)
    intro a ha b hb hab hra hrb k hka
    rw [row_claimed hi hok] at hra hrb
    by_cases hka' : a.stepId = args.stepId
    · rw [if_neg fun hb' => hab (hka'.trans hb'.symm)] at hrb
      exact hkeys b hb hrb k (hsame ha hka' ▸ hka)
    · rw [if_neg hka'] at hra
      by_cases hkb : b.stepId = args.stepId
      · exact fun hkb' => hkeys a ha hra k (hsame hb hkb ▸ hkb') hka
      · rw [if_neg hkb] at hrb
        exact hn a ha b hb hab hra hrb k hka
  · intro a ha b hb hab hra hrb
    exact hn a ha b hb hab (running_completed hok hra) (running_completed hok hrb)

theorem withinBudget_record {c : PlanCall T} {reply : PlanReply T} {h' : PlanHistory T}
    {budget : PlanBudget} (hi : Inv plan h) (hw : WithinBudget plan h.store budget)
    (hroom : FindsRoom plan h.store c) (hb : ∀ args, c = .claim args → effectiveBudget args.budget = budget)
    (hr : record clock plan c h = .ok (reply, h')) : WithinBudget plan h'.store budget := by
  refine record_cases (motive := fun h' => WithinBudget plan h'.store budget)
    (fun args cl s' step hcall _ hok => ?_)
    (fun cl success evidenceRef now s' step row hcall hok => ?_) (fun _ _ _ _ _ _ _ _ _ => hw) hr
  · obtain ⟨-, hpar, hfam⟩ := hroom args step hcall hok.found (readyReason_eq_none.2 hok.ready)
    rw [hb args hcall] at hpar hfam
    have hload := load_claimed hi hok
    refine ⟨?_, fun family => ?_⟩
    · have := hload fun _ => true
      simp only [if_true] at this
      change (load plan s' _ : Int) ≤ _
      omega
    · have := hload fun x => x.familyId = family
      change (load plan s' _ : Int) ≤ _
      by_cases hf : step.familyId = family
      · subst hf
        simp only [decide_true, if_true] at this
        omega
      · simp only [hf, decide_false, Bool.false_eq_true, if_false] at this
        have := hw.2 family
        omega
  · have hload (p : PlanStep → Bool) : load plan s' p ≤ load plan h.store p := by
      refine List.countP_mono_left fun x _ hx => ?_
      simp only [Bool.and_eq_true, decide_eq_true_eq] at hx ⊢
      exact ⟨hx.1, running_completed hok hx.2⟩
    have := hload fun _ => true
    refine ⟨?_, fun family => ?_⟩
    · have := hw.1
      change (load plan s' _ : Int) ≤ _
      omega
    · have := hload fun x => x.familyId = family
      have := hw.2 family
      change (load plan s' _ : Int) ≤ _
      omega

omit [LinearOrder T] in
theorem new_idle {k : String} : ((PlanHistory.new plan : PlanHistory T).store.row k).state ≠ .running := by
  intro hrun
  have hi : Inv plan (.new plan : PlanHistory T) := .new plan
  rw [PlanStore.row] at hrun
  cases hg : (PlanHistory.new plan : PlanHistory T).store.rows.get? k with
  | none => rw [hg] at hrun; cases hrun
  | some r =>
    have hmem : k ∈ plan.steps.map PlanStep.stepId :=
      Table.get?_key hg ▸ hi.ids ▸ List.mem_map_of_mem (Table.mem_of_get? hg)
    obtain ⟨step, hstep, rfl⟩ := List.mem_map.1 hmem
    obtain ⟨cl, hcl, -⟩ := (hi.rows _ step (LongHorizonPlan.step?_of_mem hstep)).running (by
      rw [PlanStore.row]
      exact hrun)
    cases hcl

end Limits

/-- When every claim of a ready step finds room, no two running steps share a collision
key, and the running steps keep to the budget that all claims were made under. -/
theorem plan_limits [LinearOrder T] (clock : Clock T) (plan : LongHorizonPlan) (cs : List (PlanCall T))
    (hroom : ∀ before c after, cs = before ++ c :: after →
      FindsRoom plan (runCalls (record clock plan) (.new plan) before).store c) :
    NoCollision plan (runCalls (record clock plan) (.new plan) cs).store ∧
      ∀ budget : PlanBudget, budget.validate = .ok () →
        (∀ args, .claim args ∈ cs → effectiveBudget args.budget = budget) →
        WithinBudget plan (runCalls (record clock plan) (.new plan) cs).store budget := by
  have hi : Inv plan (.new plan : PlanHistory T) := .new plan
  constructor
  · exact (runCalls_invariant_of (P := fun h => Inv plan h ∧ NoCollision plan h.store)
      (G := fun h c => FindsRoom plan h.store c)
      ⟨hi, fun a _ b _ _ hra => absurd hra new_idle⟩
      (fun h c a h' hP hG hr => ⟨hP.1.record hr, noCollision_record hP.1 hP.2 hG hr⟩) hroom).2
  · intro budget hvalid hbudget
    have hzero (p : PlanStep → Bool) : load plan (PlanHistory.new plan : PlanHistory T).store p = 0 := by
      rw [load, List.countP_eq_zero]
      intro x _ hx
      rw [Bool.and_eq_true, decide_eq_true_eq] at hx
      exact new_idle hx.2
    simp only [PlanBudget.validate, ite_error_ok, ite_throw_ok, ↓throw_bind, not_lt] at hvalid
    obtain ⟨hpar, hfam, -⟩ := hvalid
    refine (runCalls_invariant_of (P := fun h => Inv plan h ∧ WithinBudget plan h.store budget)
      (G := fun h c => FindsRoom plan h.store c ∧
        ∀ args, c = .claim args → effectiveBudget args.budget = budget)
      ⟨hi, ?_, fun family => ?_⟩
      (fun h c a h' hP hG hr => ⟨hP.1.record hr, withinBudget_record hP.1 hP.2 hG.1 hG.2 hr⟩)
      fun before c after hsplit => ⟨hroom before c after hsplit, fun args hc => hbudget args ?_⟩).2
    · rw [hzero]
      omega
    · rw [hzero]
      omega
    · rw [hsplit, ← hc]
      exact List.mem_append_right _ List.mem_cons_self

theorem chainedCalls_room : ∀ n < 3, ∀ c, chainedCalls[n]? = some c →
    FindsRoom chainedPlan (chainedRun n).store c := by
  intro n hn c hc args step hcall hfound _
  match n, hn with
  | 0, _ =>
    cases hc
    cases hcall
    cases hfound
    exact ⟨by decide, by decide, by decide⟩
  | 1, _ =>
    cases hc
    cases hcall
  | 2, _ =>
    cases hc
    cases hcall
    cases hfound
    exact ⟨by decide, by decide, by decide⟩

/-- The theorem at that run. -/
theorem plan_limits_sample : NoCollision chainedPlan (chainedRun 3).store ∧
    ∀ budget : PlanBudget, budget.validate = .ok () →
      (∀ args, .claim args ∈ chainedCalls → effectiveBudget args.budget = budget) →
      WithinBudget chainedPlan (chainedRun 3).store budget := by
  refine plan_limits tickClock chainedPlan chainedCalls fun before c after hsplit => ?_
  have htake : chainedCalls.take before.length = before := by
    rw [hsplit, List.take_left]
  have hget : chainedCalls[before.length]? = some c := by
    rw [hsplit]
    simp
  have hlt : before.length < 3 := (List.getElem?_eq_some_iff.1 hget).1
  have hroom := chainedCalls_room before.length hlt c hget
  rwa [chainedRun, htake] at hroom

/-- Both steps run, under the default budget of one step at a time and with one key. -/
theorem plan_limits_fail :
    ¬ (NoCollision samplePlan (sampleRun ["a", "b"]).store ∧
      ∀ budget : PlanBudget, budget.validate = .ok () →
        (∀ args, .claim args ∈ ["a", "b"].map sampleClaim → effectiveBudget args.budget = budget) →
        WithinBudget samplePlan (sampleRun ["a", "b"]).store budget) := by
  intro h
  have ha : ((sampleRun ["a", "b"]).store.row "a").state = .running := by decide
  have hb : ((sampleRun ["a", "b"]).store.row "b").state = .running := by decide
  exact h.1 ⟨"a", [], .p0, "family", ["key"], 1⟩ (by decide) ⟨"b", [], .p0, "family", ["key"], 1⟩
    (by decide) (by decide) ha hb "key" (by decide) (by decide)

end VeraMono
