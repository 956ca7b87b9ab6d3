import VeraMono.Model.LongHorizon

/-!
# Execution safety of long-horizon plans

`ClaimOk`, `CompleteOk` and `CorrectionOk` say all that a transaction which returned has found and
written; `PlanInv` is what they keep of the rows, the completion events, the corrections and the
claims handed out so far. `record_cases` lists how a call changes the history, and
`plan_execution_safe` holds of every run.
-/

namespace VeraMono

open Framework LongHorizonCoordinator

variable {T : Type}

/-! ## Plans -/

/-- What the checks of a plan say of it. -/
structure LongHorizonPlan.Valid (plan : LongHorizonPlan) : Prop where
  nodup : (plan.steps.map PlanStep.stepId).Nodup
  steps : ∀ step ∈ plan.steps, step.check = .ok ()
  dependencies : ∀ step ∈ plan.steps, ∀ d ∈ step.dependencies, d ∈ plan.steps.map PlanStep.stepId

theorem LongHorizonPlan.valid (plan : LongHorizonPlan) : plan.Valid := by
  have h := plan.wellFormed ⟨fun _ => "", fun _ => .invalid, fun _ _ => "", fun _ => ""⟩
  simp only [checkPlan, bind_eq_ok, ite_error_ok, ite_throw_ok, ↓throw_bind, not_not] at h
  obtain ⟨⟨⟩, hsteps, _, -, _, -, -, hnodup, ⟨⟩, hdeps, -, -⟩ := h
  refine ⟨hnodup, forM_ok.1 hsteps, fun step hstep d hd => ?_⟩
  have hknown := forM_ok.1 hdeps step hstep
  simp only [checkDependencies, ite_error_ok, ite_throw_ok, ↓throw_bind, not_not] at hknown
  by_contra hnot
  have hmem : d ∈ sortedSet (step.dependencies.filter (· ∉ plan.steps.map PlanStep.stepId)) := by
    simp only [sortedSet, List.mem_insertionSort, List.mem_eraseDups, List.mem_filter]
    exact ⟨hd, by simpa using hnot⟩
  rw [hknown.1] at hmem
  cases hmem

theorem PlanStep.one_le_maxAttempts {step : PlanStep} (h : step.check = .ok ()) :
    1 ≤ step.maxAttempts := by
  simp only [PlanStep.check, bind_eq_ok, ite_error_ok, ite_throw_ok, ↓throw_bind, not_lt] at h
  obtain ⟨_, -, _, -, -, -, -, -, h, -⟩ := h
  exact h

theorem LongHorizonPlan.step?_of_mem {plan : LongHorizonPlan} {step : PlanStep}
    (h : step ∈ plan.steps) : plan.step? step.stepId = some step := by
  rw [LongHorizonPlan.step?]
  cases hf : plan.steps.find? fun x => decide (x.stepId = step.stepId) with
  | none => exact absurd h fun hm => by simpa using List.find?_eq_none.1 hf step hm
  | some x =>
    rw [List.inj_on_of_nodup_map plan.valid.nodup (List.mem_of_find?_eq_some hf) h
      (by simpa using List.find?_some hf)]

/-! ## Rows -/

def PlanStore.row (s : PlanStore T) (stepId : String) : StepRow T :=
  (s.rows.get? stepId).getD (.fresh stepId)

theorem PlanStore.row_of_get? {s : PlanStore T} {stepId : String} {r : StepRow T}
    (h : s.rows.get? stepId = some r) : s.row stepId = r := by rw [row, h, Option.getD_some]

theorem PlanStore.row_stepId (s : PlanStore T) (stepId : String) : (s.row stepId).stepId = stepId := by
  rw [row]
  cases h : s.rows.get? stepId with
  | none => rfl
  | some r => exact Table.get?_key h

theorem StepRow.claimed_stepId {r : StepRow T} {holder : String} {expires : T} :
    (r.claimed holder expires).stepId = r.stepId := rfl

theorem StepRow.completed_stepId {r : StepRow T} {state : StepState} {k : Option Int} :
    (r.completed state k).stepId = r.stepId := rfl

theorem PlanStore.row_update {s : PlanStore T} {stepId : String} {r old : StepRow T}
    (h : s.rows.get? stepId = some old) (hr : r.stepId = stepId) (events : List CompletionEvent)
    (corrections : Table StepCorrection.key) (k : String) :
    (⟨s.rows.update r, events, corrections⟩ : PlanStore T).row k =
      if k = stepId then r else s.row k := by
  subst hr
  by_cases hk : k = r.stepId
  · rw [if_pos hk, row, hk, Table.get?_update_self h, Option.getD_some]
  · rw [if_neg hk, row, row, Table.get?_update_other hk]

namespace LongHorizonCoordinator

variable {plan : LongHorizonPlan} {s s' : PlanStore T} {step : PlanStep}

theorem step?_some {stepId : String} (h : plan.step? stepId = some step) :
    step ∈ plan.steps ∧ step.stepId = stepId :=
  ⟨List.mem_of_find?_eq_some h, by simpa using List.find?_some h⟩

theorem rows_ok {rows' : String → StepRow T} (h : rows plan s = .ok rows') : rows' = s.row := by
  rw [rows] at h
  split at h
  · cases h
    rfl
  · cases h

/-- A step that may be claimed. -/
structure Ready (s : PlanStore T) (step : PlanStep) : Prop where
  state : (s.row step.stepId).state = .pending ∨ (s.row step.stepId).state = .failedRetryable ∧
    ∃ k, (s.row step.stepId).lastFailureAttempt = some k ∧ hasCorrection s step.stepId k = true
  dependencies : ∀ d ∈ step.dependencies, (s.row d).state = .succeeded

theorem ready_iff : Ready s step ↔ ((s.row step.stepId).state = .pending ∨
    (s.row step.stepId).state = .failedRetryable ∧
      ∃ k, (s.row step.stepId).lastFailureAttempt = some k ∧ hasCorrection s step.stepId k = true) ∧
    ∀ d ∈ step.dependencies, (s.row d).state = .succeeded :=
  ⟨fun h => ⟨h.state, h.dependencies⟩, fun h => ⟨h.1, h.2⟩⟩

theorem readyReason_eq_none : readyReason s s.row step = none ↔ Ready s step := by
  rw [ready_iff]
  by_cases hd : ∀ d ∈ step.dependencies, (s.row d).state = .succeeded
  · have hfailed : (step.dependencies.any fun d => decide ((s.row d).state = .failedTerminal)) = false := by
      rw [List.any_eq_false]
      intro d hmem
      simp [hd d hmem]
    have hopen : (step.dependencies.any fun d => decide ((s.row d).state ≠ .succeeded)) = false := by
      rw [List.any_eq_false]
      intro d hmem
      simp [hd d hmem]
    simp only [readyReason, hfailed, hopen, Bool.false_eq_true, if_false, eq_true hd, and_true]
    cases hst : (s.row step.stepId).state with
    | succeeded | failedTerminal | running | pending => simp
    | failedRetryable =>
      cases (s.row step.stepId).lastFailureAttempt with
      | none => simp
      | some k => simp
  · have hopen : (step.dependencies.any fun d => decide ((s.row d).state ≠ .succeeded)) = true := by
      simpa using hd
    simp only [readyReason, hopen, if_true, eq_false hd, and_false, iff_false]
    cases (s.row step.stepId).state with
    | succeeded | failedTerminal | running => simp
    | pending | failedRetryable =>
      simp only
      split <;> simp

variable [LinearOrder T] {clock : Clock T}

/-- What a claim that returned has found and written. -/
structure ClaimOk (plan : LongHorizonPlan) (clock : Clock T) (args : StepClaimArgs T)
    (s : PlanStore T) (cl : StepClaim T) (s' : PlanStore T) (step : PlanStep) : Prop where
  found : plan.step? args.stepId = some step
  budget : (effectiveBudget args.budget).validate = .ok ()
  ready : Ready s step
  selected : args.stepId ∈ (planReadyWithDb plan s s.row (effectiveBudget args.budget)
    args.occupiedCollisionKeys).selected.map PlanStep.stepId
  attempts : (s.row args.stepId).attempts < step.maxAttempts
  claim : cl = ⟨plan.planId, args.stepId, args.holder, (s.row args.stepId).fencingToken + 1,
    (s.row args.stepId).attempts + 1, clock.add args.now args.ttl⟩
  store : s' = ⟨s.rows.update ((s.row args.stepId).claimed args.holder (clock.add args.now args.ttl)),
    s.events, s.corrections⟩

theorem claim_ok {args : StepClaimArgs T} {cl : StepClaim T}
    (h : claim plan clock args s = .ok (cl, s')) : ∃ step, ClaimOk plan clock args s cl s' step := by
  rw [claim] at h
  cases hstep : plan.step? args.stepId with
  | none => rw [hstep] at h; cases h
  | some step =>
    simp only [hstep, bind_eq_ok, ite_error_ok, ↓throw_bind] at h
    obtain ⟨_, -, _, -, _, -, -, ⟨⟩, hbudget, ⟨⟩, -, rows', hrows, h⟩ := h
    obtain rfl := rows_ok hrows
    split at h
    · cases h
    · cases h
    · rename_i hready
      simp only [ite_error_ok, pure_ok, not_not, ge_iff_le, not_le] at h
      obtain ⟨hsel, hatt, h⟩ := h
      cases h
      exact ⟨step, hstep, hbudget, readyReason_eq_none.1 hready, hsel, hatt, rfl, rfl⟩

/-- What a completion that returned has found and written. -/
structure CompleteOk (plan : LongHorizonPlan) (cl : StepClaim T) (success : Bool)
    (evidenceRef : String) (now : T) (s s' : PlanStore T) (step : PlanStep) (row : StepRow T) : Prop where
  found : plan.step? cl.stepId = some step
  get : s.rows.get? cl.stepId = some row
  running : row.state = .running
  holder : holderText row.holder = cl.holder
  token : row.fencingToken = cl.fencingToken
  attempt : row.attempts = cl.attempt
  lease : ∃ expires, row.leaseExpiresAt = some expires ∧ now < expires
  store : s' = ⟨s.rows.update (row.completed (outcome success cl.attempt step.maxAttempts).1
      (outcome success cl.attempt step.maxAttempts).2),
    s.events ++ [⟨cl.stepId, cl.attempt, (outcome success cl.attempt step.maxAttempts).1, evidenceRef⟩],
    s.corrections⟩

theorem complete_ok {cl : StepClaim T} {success : Bool} {evidenceRef : String} {now : T}
    {record : StepRecord} (h : complete plan clock cl success evidenceRef now s = .ok (record, s')) :
    ∃ step row, CompleteOk plan cl success evidenceRef now s s' step row := by
  simp only [complete, bind_eq_ok, ite_error_ok, ↓throw_bind] at h
  obtain ⟨-, _, -, _, -, h⟩ := h
  cases hstep : plan.step? cl.stepId with
  | none => rw [hstep] at h; cases h
  | some step =>
    cases hrow : s.rows.get? cl.stepId with
    | none => rw [hstep, hrow] at h; cases h
    | some row =>
      simp only [hstep, hrow, ite_error_ok, pure_ok, not_not, not_or, Option.all_eq_true,
        decide_eq_true_eq, not_forall, not_le] at h
      obtain ⟨hrun, ⟨hh, ht, ha⟩, ⟨e, he, hlt⟩, h⟩ := h
      cases h
      exact ⟨step, row, hstep, hrow, hrun, hh, ht, ha, ⟨e, he, hlt⟩, rfl⟩

omit [LinearOrder T] in
theorem applyCorrection_ok {stepId correctionRef : String}
    (h : applyCorrection plan stepId correctionRef s = .ok ((), s')) :
    ∃ row k, s.rows.get? stepId = some row ∧ row.state = .failedRetryable ∧
      row.lastFailureAttempt = some k ∧ s.corrections.get? (stepId, k) = none ∧
      s' = { s with corrections := s.corrections.insert ⟨stepId, k, correctionRef⟩ } := by
  simp only [applyCorrection, bind_eq_ok, ite_error_ok, ↓throw_bind] at h
  obtain ⟨-, _, -, h⟩ := h
  cases hrow : s.rows.get? stepId with
  | none => rw [hrow] at h; cases h
  | some row =>
    simp only [hrow, ite_error_ok, not_not] at h
    obtain ⟨hst, h⟩ := h
    cases hk : row.lastFailureAttempt with
    | none => rw [hk] at h; cases h
    | some k =>
      simp only [hk, ite_error_ok, pure_ok, Bool.not_eq_true, Option.isSome_eq_false_iff,
        Option.isNone_iff_eq_none] at h
      obtain ⟨hnone, h⟩ := h
      cases h
      exact ⟨row, k, rfl, hst, hk, hnone, rfl⟩

end LongHorizonCoordinator

/-! ## Histories -/

/-- A store with the claims that were handed out, newest first. -/
structure PlanHistory (T : Type) where
  store : PlanStore T
  claims : List (StepClaim T)

namespace PlanHistory

variable {plan : LongHorizonPlan} {step : PlanStep}

def new (plan : LongHorizonPlan) : PlanHistory T := ⟨.new plan, []⟩

def completions (h : PlanHistory T) (stepId : String) (attempt : Int) : Nat :=
  h.store.events.countP fun e => e.stepId = stepId ∧ e.attempt = attempt

/-- The attempt failed and may be retried. -/
def Failed (h : PlanHistory T) (stepId : String) (attempt : Int) : Prop :=
  ∃ e ∈ h.store.events, e.stepId = stepId ∧ e.attempt = attempt ∧ e.outcome = .failedRetryable

/-- The correction of a failed attempt is recorded. -/
def Corrected (h : PlanHistory T) (stepId : String) (attempt : Int) : Prop :=
  hasCorrection h.store stepId attempt = true ∧ h.Failed stepId attempt

def lastClaim (h : PlanHistory T) (stepId : String) : Option (StepClaim T) :=
  h.claims.find? fun cl => cl.stepId = stepId

/-- What holds of the row `r` of a step. -/
structure RowInv (h : PlanHistory T) (step : PlanStep) (r : StepRow T) : Prop where
  nonneg : 0 ≤ r.attempts
  le : r.attempts ≤ step.maxAttempts
  pending : r.state = .pending → r.attempts = 0
  started : r.state ≠ .pending → 1 ≤ r.attempts ∧
    ∀ d ∈ step.dependencies, (h.store.row d).state = .succeeded
  running : r.state = .running → ∃ cl, h.lastClaim step.stepId = some cl ∧ r.holder = some cl.holder ∧
    r.fencingToken = cl.fencingToken ∧ r.attempts = cl.attempt ∧
    r.leaseExpiresAt = some cl.leaseExpiresAt
  retryable : r.state = .failedRetryable → r.lastFailureAttempt = some r.attempts ∧
    r.attempts < step.maxAttempts ∧ h.Failed step.stepId r.attempts
  corrected : ∀ k, 2 ≤ k → k ≤ r.attempts → h.Corrected step.stepId (k - 1)
  unfinished : ∀ k, r.attempts < k ∨ k = r.attempts ∧ r.state = .running →
    h.completions step.stepId k = 0

structure Inv (plan : LongHorizonPlan) (h : PlanHistory T) : Prop where
  ids : h.store.rows.rows.map StepRow.stepId = plan.steps.map PlanStep.stepId
  rows : ∀ stepId step, plan.step? stepId = some step → h.RowInv step (h.store.row stepId)
  once : ∀ stepId k, h.completions stepId k ≤ 1

variable {h h' : PlanHistory T} {r : StepRow T}

theorem RowInv.frame (hr : h.RowInv step r) (hclaim : h'.lastClaim step.stepId = h.lastClaim step.stepId)
    (hcount : ∀ k, h'.completions step.stepId k = h.completions step.stepId k)
    (hevents : ∀ e ∈ h.store.events, e ∈ h'.store.events)
    (hcorr : ∀ k, hasCorrection h.store step.stepId k = true → hasCorrection h'.store step.stepId k = true)
    (hrows : ∀ d, (h.store.row d).state = .succeeded → (h'.store.row d).state = .succeeded) :
    h'.RowInv step r := by
  have hfailed {k : Int} : h.Failed step.stepId k → h'.Failed step.stepId k :=
    fun ⟨e, he, hk⟩ => ⟨e, hevents e he, hk⟩
  exact
    { nonneg := hr.nonneg
      le := hr.le
      pending := hr.pending
      started := fun hp => ⟨(hr.started hp).1, fun d hd => hrows d ((hr.started hp).2 d hd)⟩
      running := fun hrun => hclaim ▸ hr.running hrun
      retryable := fun hf => ⟨(hr.retryable hf).1, (hr.retryable hf).2.1, hfailed (hr.retryable hf).2.2⟩
      corrected := fun k h2 hk => ⟨hcorr _ (hr.corrected k h2 hk).1, hfailed (hr.corrected k h2 hk).2⟩
      unfinished := fun k hk => (hcount k).trans (hr.unfinished k hk) }

end PlanHistory

open PlanHistory

section Record
variable [LinearOrder T] (clock : Clock T) (plan : LongHorizonPlan)

/-- A call, with the claim it hands out. -/
def LongHorizonCoordinator.record (c : PlanCall T) (h : PlanHistory T) :
    Except Failure (PlanReply T × PlanHistory T) :=
  (exec clock plan c h.store).map fun r =>
    (r.1, ⟨r.2, match r.1 with | .claimed cl => cl :: h.claims | _ => h.claims⟩)

end Record

namespace PlanHistory

variable [LinearOrder T] {clock : Clock T} {plan : LongHorizonPlan} {step : PlanStep}
  {h : PlanHistory T} {s' : PlanStore T}

omit [LinearOrder T] in
theorem Inv.get? (hi : Inv plan h) {stepId : String} (hs : plan.step? stepId = some step) :
    h.store.rows.get? stepId = some (h.store.row stepId) := by
  cases hg : h.store.rows.get? stepId with
  | some r => rw [PlanStore.row_of_get? hg]
  | none =>
    obtain ⟨hmem, rfl⟩ := step?_some hs
    exact absurd (hi.ids ▸ List.mem_map_of_mem hmem) (Table.get?_eq_none.1 hg)

variable {cl : StepClaim T} {success : Bool}

theorem row_claimed {args : StepClaimArgs T} (hi : Inv plan h)
    (hc : ClaimOk plan clock args h.store cl s' step) (k : String) :
    s'.row k = if k = args.stepId then
      (h.store.row args.stepId).claimed args.holder (clock.add args.now args.ttl) else h.store.row k := by
  rw [hc.store]
  exact PlanStore.row_update (hi.get? hc.found)
    (StepRow.claimed_stepId.trans (h.store.row_stepId args.stepId)) _ _ k

theorem row_completed {evidenceRef : String} {now : T}
    {row : StepRow T} (hc : CompleteOk plan cl success evidenceRef now h.store s' step row) (k : String) :
    s'.row k = if k = cl.stepId then row.completed (outcome success cl.attempt step.maxAttempts).1
      (outcome success cl.attempt step.maxAttempts).2 else h.store.row k := by
  rw [hc.store]
  refine PlanStore.row_update hc.get (StepRow.completed_stepId.trans ?_) _ _ k
  exact Table.get?_key hc.get

theorem Inv.claimed {args : StepClaimArgs T} (hi : Inv plan h)
    (hc : ClaimOk plan clock args h.store cl s' step) : Inv plan ⟨s', cl :: h.claims⟩ := by
  obtain ⟨-, hid⟩ := step?_some hc.found
  have hr := hi.rows _ _ hc.found
  have hready := hid ▸ hc.ready.state
  have hnot : (h.store.row args.stepId).state ≠ .succeeded := by
    rcases hready with hst | ⟨hst, -⟩ <;> rw [hst] <;> simp
  have hrow := row_claimed hi hc
  have hsucc (d : String) (hd : (h.store.row d).state = .succeeded) : (s'.row d).state = .succeeded := by
    rw [hrow, if_neg fun heq : d = args.stepId => hnot (heq ▸ hd)]
    exact hd
  have hevents : s'.events = h.store.events := by rw [hc.store]
  have hcount (stepId : String) (k : Int) :
      completions ⟨s', cl :: h.claims⟩ stepId k = h.completions stepId k := by
    rw [completions, hevents, completions]
  have hcorr (k : String × Int) : s'.corrections.get? k = h.store.corrections.get? k := by rw [hc.store]
  refine ⟨?_, fun stepId step' hs => ?_, fun stepId k => (hcount stepId k).trans_le (hi.once stepId k)⟩
  · rw [hc.store]
    exact Table.map_key_update.trans hi.ids
  by_cases hk : stepId = args.stepId
  · subst hk
    cases hc.found.symm.trans hs
    have hnn := hr.nonneg
    have hatt := hc.attempts
    rw [hrow, if_pos rfl]
    refine ⟨?_, ?_, fun hp => (by cases hp), fun _ => ⟨?_, fun d hd => hsucc d (hc.ready.dependencies d hd)⟩,
      fun _ => ⟨cl, ?_, ?_⟩, fun hf => (by cases hf), fun k h2 hk => ?_, fun k hk => ?_⟩
    · simp only [StepRow.claimed]
      omega
    · simp only [StepRow.claimed]
      omega
    · simp only [StepRow.claimed]
      omega
    · rw [hc.claim, hid]
      exact List.find?_cons_of_pos (decide_eq_true rfl)
    · rw [hc.claim]
      exact ⟨rfl, rfl, rfl, rfl⟩
    · simp only [StepRow.claimed] at hk
      rw [Corrected, Failed, hasCorrection, hcorr, hevents]
      by_cases hlast : k ≤ (h.store.row args.stepId).attempts
      · exact hr.corrected k h2 hlast
      · obtain rfl : k = (h.store.row args.stepId).attempts + 1 := by omega
        rcases hready with hst | ⟨hst, k', hk', hcorr'⟩
        · have := hr.pending hst
          omega
        · obtain ⟨hlf, -, hfail⟩ := hr.retryable hst
          cases hk'.symm.trans hlf
          rw [Int.add_sub_cancel]
          exact ⟨hid ▸ hcorr', hfail⟩
    · refine (hcount _ k).trans (hr.unfinished k (.inl ?_))
      simp only [StepRow.claimed] at hk
      omega
  · rw [hrow, if_neg hk]
    obtain ⟨-, hid'⟩ := step?_some hs
    refine (hi.rows stepId step' hs).frame ?_ (fun k => hcount _ k) (fun e he => hevents ▸ he)
      (fun k hk => ?_) hsucc
    · refine List.find?_cons_of_neg ?_
      rw [hc.claim, hid']
      simpa using Ne.symm hk
    · rw [hasCorrection, hcorr]
      exact hk

omit [LinearOrder T] in
theorem outcome_state (success : Bool) (a m : Int) :
    (outcome success a m).1 ≠ .pending ∧ (outcome success a m).1 ≠ .running := by
  rw [outcome]
  split
  · simp
  · split <;> simp

omit [LinearOrder T] in
theorem outcome_retryable {a m : Int} (h : (outcome success a m).1 = .failedRetryable) :
    a < m ∧ (outcome success a m).2 = some a := by
  rw [outcome] at h ⊢
  split at h
  · cases h
  · split at h
    · rename_i h₁ h₂
      rw [if_neg h₁, if_pos h₂]
      exact ⟨h₂, rfl⟩
    · cases h

theorem Inv.completed {evidenceRef : String} {now : T} {row : StepRow T} (hi : Inv plan h)
    (hc : CompleteOk plan cl success evidenceRef now h.store s' step row) : Inv plan ⟨s', h.claims⟩ := by
  obtain ⟨-, hid⟩ := step?_some hc.found
  obtain rfl : h.store.row cl.stepId = row := PlanStore.row_of_get? hc.get
  have hr := hi.rows _ _ hc.found
  have hrun := hc.running
  have hatt := hc.attempt
  obtain ⟨hnp, hnr⟩ := outcome_state success cl.attempt step.maxAttempts
  have hrow := row_completed hc
  have hevents : s'.events = h.store.events ++ [⟨cl.stepId, cl.attempt,
      (outcome success cl.attempt step.maxAttempts).1, evidenceRef⟩] := by rw [hc.store]
  have hold (e : CompletionEvent) (he : e ∈ h.store.events) : e ∈ s'.events :=
    hevents ▸ List.mem_append_left _ he
  have hcount (stepId : String) (k : Int) : completions ⟨s', h.claims⟩ stepId k =
      h.completions stepId k + if cl.stepId = stepId ∧ cl.attempt = k then 1 else 0 := by
    simp only [completions, hevents, List.countP_append, List.countP_singleton, decide_eq_true_eq]
  have hcorr (k : String × Int) : s'.corrections.get? k = h.store.corrections.get? k := by rw [hc.store]
  have hsucc (d : String) (hd : (h.store.row d).state = .succeeded) :
      (s'.row d).state = .succeeded := by
    rw [hrow, if_neg fun heq => by rw [heq, hrun] at hd; cases hd]
    exact hd
  refine ⟨?_, fun stepId step' hs => ?_, fun stepId k => ?_⟩
  · rw [hc.store]
    exact Table.map_key_update.trans hi.ids
  · by_cases hk : stepId = cl.stepId
    · subst hk
      cases hc.found.symm.trans hs
      rw [hrow, if_pos rfl]
      refine ⟨hr.nonneg, hr.le, fun hp => absurd hp hnp, fun _ => ?_, fun hp => absurd hp hnr,
        fun hf => ?_, fun k h2 hk => ?_, fun k hk => ?_⟩
      · obtain ⟨h1, hd⟩ := hr.started (by rw [hrun]; simp)
        exact ⟨h1, fun d hmem => hsucc d (hd d hmem)⟩
      · obtain ⟨hlt, hlast⟩ := outcome_retryable hf
        refine ⟨hlast.trans (congrArg some hatt.symm), hatt.symm ▸ hlt, ?_⟩
        exact ⟨_, hevents ▸ List.mem_append_right _ (List.mem_singleton_self _), hid.symm, hatt.symm, hf⟩
      · obtain ⟨hco, e, he, hf⟩ := hr.corrected k h2 hk
        rw [Corrected, hasCorrection, hcorr]
        exact ⟨hco, e, hold e he, hf⟩
      · have hlt : (h.store.row cl.stepId).attempts < k := hk.resolve_right fun hk => hnr hk.2
        rw [hcount, ← hid, hr.unfinished k (.inl hlt), if_neg]
        rintro ⟨-, rfl⟩
        omega
    · obtain ⟨-, hid'⟩ := step?_some hs
      rw [hrow, if_neg hk]
      refine (hi.rows stepId step' hs).frame rfl (fun k => ?_) hold (fun k hk => ?_) hsucc
      · rw [hcount, if_neg, Nat.add_zero]
        rintro ⟨heq, -⟩
        exact hk (hid'.symm.trans heq.symm)
      · rw [hasCorrection, hcorr]
        exact hk
  · rw [hcount]
    split
    · rename_i hkey
      obtain ⟨rfl, rfl⟩ := hkey
      rw [← hid, hr.unfinished cl.attempt (.inr ⟨hatt.symm, hrun⟩)]
    · exact hi.once stepId k

omit [LinearOrder T] in
theorem Inv.corrected {stepId correctionRef : String} {k : Int} (hi : Inv plan h)
    (hnew : h.store.corrections.get? (stepId, k) = none) :
    Inv plan ⟨{ h.store with
      corrections := h.store.corrections.insert ⟨stepId, k, correctionRef⟩ }, h.claims⟩ := by
  refine ⟨hi.ids, fun stepId' step' hs => ?_, hi.once⟩
  refine (hi.rows stepId' step' hs).frame rfl (fun _ => rfl) (fun _ he => he) (fun k' hk' => ?_)
    fun _ hd => hd
  rw [hasCorrection, Table.get?_insert_other]
  · exact hk'
  · intro heq
    rw [StepCorrection.key] at heq
    rw [hasCorrection, heq, hnew] at hk'
    cases hk'

/-! ## Runs -/

omit [LinearOrder T] in
theorem new_rows (steps : List PlanStep) (t : Table (StepRow.stepId (T := T)))
    (hn : (t.rows.map StepRow.stepId ++ steps.map PlanStep.stepId).Nodup)
    (ht : ∀ r ∈ t.rows, r = .fresh r.stepId) :
    let t' := steps.foldl (fun rows step => rows.insert (.fresh step.stepId)) t
    t'.rows.map StepRow.stepId = t.rows.map StepRow.stepId ++ steps.map PlanStep.stepId ∧
      ∀ r ∈ t'.rows, r = .fresh r.stepId := by
  induction steps generalizing t with
  | nil => exact ⟨(List.append_nil _).symm, ht⟩
  | cons step steps ih =>
    have hnew : t.get? (StepRow.fresh step.stepId : StepRow T).stepId = none := by
      rw [Table.get?_eq_none]
      exact fun hmem => (List.nodup_append.1 hn).2.2 _ hmem _ List.mem_cons_self rfl
    have hrows := Table.rows_insert hnew
    obtain ⟨hids, hfresh⟩ := ih (t.insert (.fresh step.stepId)) (by rw [hrows]; simpa [StepRow.fresh] using hn)
      (by
        intro r hr
        rw [hrows, List.mem_append, List.mem_singleton] at hr
        rcases hr with hr | rfl
        · exact ht r hr
        · rfl)
    refine ⟨hids.trans ?_, hfresh⟩
    rw [hrows]
    simp [StepRow.fresh]

omit [LinearOrder T] in
theorem Inv.new (plan : LongHorizonPlan) : Inv plan (.new plan : PlanHistory T) := by
  obtain ⟨hids, hfresh⟩ := new_rows (T := T) plan.steps .empty (by simpa [Table.empty] using plan.valid.nodup)
    fun _ h => by cases h
  have hrow (k : String) : (PlanStore.new plan : PlanStore T).row k = .fresh k := by
    rw [PlanStore.row]
    cases hg : (PlanStore.new plan : PlanStore T).rows.get? k with
    | none => rfl
    | some r =>
      have hr := hfresh r (Table.mem_of_get? hg)
      rw [Table.get?_key hg] at hr
      exact hr
  refine ⟨hids, fun stepId step hs => ?_, fun _ _ => Nat.zero_le 1⟩
  have hmax := PlanStep.one_le_maxAttempts (plan.valid.steps step (step?_some hs).1)
  change RowInv _ step ((PlanStore.new plan : PlanStore T).row stepId)
  rw [hrow]
  refine ⟨le_rfl, ?_, fun _ => rfl, fun h => absurd rfl h, fun h => (by cases h), fun h => (by cases h),
    fun k h2 hk => ?_, fun _ _ => rfl⟩
  · change 0 ≤ step.maxAttempts
    omega
  · change k ≤ 0 at hk
    omega

variable {c : PlanCall T} {reply : PlanReply T} {h' : PlanHistory T}

/-- The three ways a call changes the history. -/
theorem record_cases {motive : PlanHistory T → Prop}
    (hclaim : ∀ args cl s' step, c = .claim args → claim plan clock args h.store = .ok (cl, s') →
      ClaimOk plan clock args h.store cl s' step → motive ⟨s', cl :: h.claims⟩)
    (hcomplete : ∀ cl success evidenceRef now s' step row, c = .complete cl success evidenceRef now →
      CompleteOk plan cl success evidenceRef now h.store s' step row → motive ⟨s', h.claims⟩)
    (hcorrect : ∀ stepId correctionRef row k, c = .applyCorrection stepId correctionRef →
      h.store.rows.get? stepId = some row → row.state = .failedRetryable →
      row.lastFailureAttempt = some k → h.store.corrections.get? (stepId, k) = none →
      motive ⟨{ h.store with
        corrections := h.store.corrections.insert ⟨stepId, k, correctionRef⟩ }, h.claims⟩)
    (hr : record clock plan c h = .ok (reply, h')) : motive h' := by
  obtain ⟨r, hexec, heq⟩ := map_eq_ok.1 hr
  cases c with
  | claim args =>
    obtain ⟨⟨cl, s'⟩, hc, rfl⟩ := map_eq_ok.1 hexec
    obtain ⟨step, hok⟩ := claim_ok hc
    cases heq
    exact hclaim args cl s' step rfl hc hok
  | complete cl success evidenceRef now =>
    obtain ⟨⟨rec, s'⟩, hc, rfl⟩ := map_eq_ok.1 hexec
    obtain ⟨step, row, hok⟩ := complete_ok hc
    cases heq
    exact hcomplete cl success evidenceRef now s' step row rfl hok
  | applyCorrection stepId correctionRef =>
    obtain ⟨⟨_, s'⟩, hc, rfl⟩ := map_eq_ok.1 hexec
    obtain ⟨row, k, hget, hst, hk, hnew, rfl⟩ := applyCorrection_ok hc
    cases heq
    exact hcorrect stepId correctionRef row k rfl hget hst hk hnew

theorem Inv.record (hi : Inv plan h) (hr : record clock plan c h = .ok (reply, h')) : Inv plan h' :=
  record_cases (motive := Inv plan) (fun _ _ _ _ _ _ hc => hi.claimed hc)
    (fun _ _ _ _ _ _ _ _ hc => hi.completed hc) (fun _ _ _ _ _ _ _ _ hnew => hi.corrected hnew) hr

theorem Inv.run (clock : Clock T) (plan : LongHorizonPlan) (cs : List (PlanCall T)) :
    Inv plan (runCalls (LongHorizonCoordinator.record clock plan) (.new plan) cs) :=
  runCalls_invariant (.new plan) fun _ _ _ _ hi hr => hi.record hr

end PlanHistory

/-! ## Safety -/

section Safe
variable [LinearOrder T]

/-- What holds of a history of a plan. -/
structure ExecutionSafe (clock : Clock T) (plan : LongHorizonPlan) (h : PlanHistory T) : Prop where
  dependencies : ∀ step ∈ plan.steps, (h.store.row step.stepId).state = .succeeded →
    ∀ d ∈ step.dependencies, (h.store.row d).state = .succeeded
  attempts : ∀ step ∈ plan.steps, (h.store.row step.stepId).attempts ≤ step.maxAttempts
  /-- The correction of the failed attempt before is recorded, for every attempt there
  has been and before every claim that makes another. -/
  corrected : ∀ step ∈ plan.steps, ∀ k, 2 ≤ k → k ≤ (h.store.row step.stepId).attempts →
    h.Corrected step.stepId (k - 1)
  preceded : ∀ args cl s', claim plan clock args h.store = .ok (cl, s') → 2 ≤ cl.attempt →
    h.Corrected cl.stepId (cl.attempt - 1)
  once : ∀ stepId attempt, h.completions stepId attempt ≤ 1
  latest : ∀ cl success evidenceRef now r, complete plan clock cl success evidenceRef now h.store = .ok r →
    ∃ last, h.lastClaim cl.stepId = some last ∧ last.holder = cl.holder ∧
      last.fencingToken = cl.fencingToken ∧ last.attempt = cl.attempt
  unchanged : ∀ c e, exec clock plan c h.store = .error e →
    commit (LongHorizonCoordinator.record clock plan) h c = h

theorem PlanHistory.Inv.safe {clock : Clock T} {plan : LongHorizonPlan} {h : PlanHistory T}
    (hi : Inv plan h) : ExecutionSafe clock plan h where
  dependencies := fun step hs hst =>
    ((hi.rows _ step (LongHorizonPlan.step?_of_mem hs)).started (by rw [hst]; simp)).2
  attempts := fun step hs => (hi.rows _ step (LongHorizonPlan.step?_of_mem hs)).le
  corrected := fun step hs => (hi.rows _ step (LongHorizonPlan.step?_of_mem hs)).corrected
  preceded := by
    intro args cl s' hc h2
    obtain ⟨step, hok⟩ := claim_ok hc
    have hi' := hi.claimed hok
    obtain ⟨-, hid⟩ := step?_some hok.found
    have hcl := hok.claim
    have hrow : (s'.row args.stepId).attempts = cl.attempt := by
      rw [row_claimed hi hok, if_pos rfl, hcl]
      rfl
    have hco := (hi'.rows _ step hok.found).corrected cl.attempt h2 hrow.ge
    rw [Corrected, Failed, hasCorrection, hid] at hco
    rw [hok.store] at hco
    rw [hcl]
    rw [hcl] at hco
    exact hco
  once := hi.once
  latest := by
    intro cl success evidenceRef now r hc
    obtain ⟨step, row, hok⟩ := complete_ok hc
    obtain ⟨-, hid⟩ := step?_some hok.found
    have hrow := PlanStore.row_of_get? hok.get
    obtain ⟨last, hlast, hh, ht, ha, -⟩ :=
      (hi.rows _ step hok.found).running (by rw [hrow]; exact hok.running)
    rw [hrow] at hh ht ha
    refine ⟨last, hid ▸ hlast, ?_, ht.symm.trans hok.token, ha.symm.trans hok.attempt⟩
    rw [← hok.holder, hh]
    rfl
  unchanged := by
    intro c e he
    refine commit_error (e := e) ?_
    rw [LongHorizonCoordinator.record, he]
    rfl

/-- Every run of a coordinator is safe. -/
theorem plan_execution_safe (clock : Clock T) (plan : LongHorizonPlan) (cs : List (PlanCall T)) :
    ExecutionSafe clock plan (runCalls (LongHorizonCoordinator.record clock plan) (.new plan) cs) :=
  (PlanHistory.Inv.run clock plan cs).safe

end Safe

end VeraMono
