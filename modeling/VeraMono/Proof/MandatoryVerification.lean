import VeraMono.Proof.Runner

/-!
# Mandatory verification

A verification that does not pass ends the run where it raises, changes the episode, has no
executor or gives no valid result (`stops_of_settled`). A valid result that does not pass does
not: `failed_verification_goes_on` is a run in which the next node is executed.
-/

namespace VeraMono.Rezon

open Framework

variable {rt : Runtime} {ctx : RunContext} {s s' : RunState} {node : RunnerNode} {targetId : Option Text}
  {p : Prepared}

def Control.isNext : Control → Bool
  | .next _ => true
  | _ => false

/-- What the rounds after a round come to. -/
inductive Follows (rt : Runtime) (ctx : RunContext) (c : Control) : Control → Prop
  | refl : Follows rt ctx c c
  | round {t : RunState} (h : Follows rt ctx c (.next t)) : Follows rt ctx c (step rt ctx t)

/-- The round of the state executes the node, with this result. -/
def Results (rt : Runtime) (ctx : RunContext) (s : RunState) (node : RunnerNode) (targetId : Option Text)
    (executor : Executor) (p : Prepared) (result : ExecutionResult) : Prop :=
  node.executor = some executor ∧ prepare rt ctx s node = .ok p ∧ preflight rt ctx node targetId p s = none ∧
    attempted rt s executor targetId p = .result result

/-- The result of a mandatory verification passes: it reports no failure, the status and the targets
are those required, a test result cites the targets, and it is admitted. -/
def ResultPasses (rt : Runtime) (s : RunState) (node : RunnerNode) (targetId : Option Text) (executor : Executor)
    (p : Prepared) (result : ExecutionResult) : Prop :=
  result.failures = [] ∧ verificationFailure node.descriptor p.auditView result = none ∧
    ∃ receipt e, admitExecutionResult rt (leftEpisode s executor targetId p) (admissionRequest node p result) =
      (.ok receipt, e)

def VerificationPasses (rt : Runtime) (ctx : RunContext) (s : RunState) (node : RunnerNode)
    (targetId : Option Text) : Prop :=
  ∃ executor p result, Results rt ctx s node targetId executor p result ∧
    ResultPasses rt s node targetId executor p result

/-- After a mandatory verification that does not pass, no executor is called and no object enters
the episode. -/
def StopsAfterVerification (rt : Runtime) (ctx : RunContext) (s₀ : RunState) : Prop :=
  ∀ s node targetId, Reached rt ctx s₀ s → Scheduled rt ctx s node targetId →
    node.descriptor.mandatoryVerification = true → ¬ VerificationPasses rt ctx s node targetId →
    ∀ c, Follows rt ctx (step rt ctx s) c →
      c.state.calls = (step rt ctx s).state.calls ∧ c.state.episode = (step rt ctx s).state.episode

def ValidResultsPass (rt : Runtime) (ctx : RunContext) (s : RunState) : Prop :=
  ∀ node targetId executor p result, Scheduled rt ctx s node targetId →
    node.descriptor.mandatoryVerification = true → Results rt ctx s node targetId executor p result →
    ResultPasses rt s node targetId executor p result

theorem Scheduled.unique {node' : RunnerNode} {targetId' : Option Text} (h : Scheduled rt ctx s node targetId)
    (h' : Scheduled rt ctx s node' targetId') : node = node' ∧ targetId = targetId' := by
  obtain ⟨index, hdecision, hnode⟩ := h
  obtain ⟨index', hdecision', hnode'⟩ := h'
  rw [hdecision] at hdecision'
  obtain ⟨rfl, -, rfl⟩ := ScheduleDecision.execute.inj hdecision'
  rw [hnode] at hnode'
  exact ⟨Option.some.inj hnode', rfl⟩

/-- A round that goes on after a mandatory verification has had a valid result. -/
theorem result_of_next (hscheduled : Scheduled rt ctx s node targetId)
    (hmandatory : node.descriptor.mandatoryVerification = true) (hnext : step rt ctx s = .next s') :
    ∃ executor p result, Results rt ctx s node targetId executor p result := by
  have hround := step_cases rt ctx s
  rw [hnext] at hround
  generalize hc : Control.next s' = c at hround
  cases hround with
  | ended hends => cases hc
  | missing hscheduled' hoptional =>
    obtain ⟨rfl, -⟩ := hscheduled.unique hscheduled'
    rw [hmandatory] at hoptional
    cases hoptional
  | undigested hdigest => cases hc
  | @called _ _ executor p hscheduled' hexecutor hprepare hpreflight =>
    obtain ⟨rfl, rfl⟩ := hscheduled.unique hscheduled'
    have hends := execute_cases rt ctx s node executor targetId p
    rw [← hc] at hends
    generalize hc' : Control.next s' = c' at hends
    cases hends with
    | failed hattempt =>
      rw [if_pos hmandatory] at hc'
      cases hc'
    | unencodable hattempt hdigest => cases hc'
    | @refused result _ _ hattempt => exact ⟨executor, p, result, hexecutor, hprepare, hpreflight, hattempt⟩
    | @admitted result _ _ _ hattempt => exact ⟨executor, p, result, hexecutor, hprepare, hpreflight, hattempt⟩
    | inadmissible hattempt hadmission hkind => cases hc'

theorem follows_of_not_next {c c' : Control} (hend : ∀ t, c ≠ .next t) (h : Follows rt ctx c c') : c' = c := by
  induction h with
  | refl => rfl
  | round _ ih => exact absurd ih.symm (hend _)

/-- Where a valid result of a mandatory verification always passes, one that does not pass ends the
run. -/
theorem stops_of_settled (rt : Runtime) (ctx : RunContext) (e : Episode)
    (hvalid : ∀ s, Reached rt ctx (.start e) s → ValidResultsPass rt ctx s) :
    StopsAfterVerification rt ctx (.start e) := by
  intro s node targetId hreached hscheduled hmandatory hnot c hfollows
  have hend (t : RunState) : step rt ctx s ≠ .next t := by
    intro hnext
    obtain ⟨executor, p, result, hresults⟩ := result_of_next hscheduled hmandatory hnext
    exact hnot ⟨executor, p, result, hresults,
      hvalid s hreached node targetId executor p result hscheduled hmandatory hresults⟩
  rw [follows_of_not_next hend hfollows]
  exact ⟨rfl, rfl⟩

/-! ## Runs -/

namespace Sample

def runtime : Runtime := ⟨fun _ => "digest", id, fun _ => lit "uuid"⟩

def verifier (executor : Executor) : RunnerNode :=
  ⟨⟨lit "verifier", [.testResult], [], true, false, [], [], [lit "subject"], [], []⟩, some executor,
    ⟨[], [], [], []⟩, .unset, none⟩

def generator (executor : Executor) : RunnerNode :=
  ⟨⟨lit "echo_hypothesis", [.hypothesis], [], false, false, [], [], [], [], []⟩, some executor,
    ⟨[], [], [], []⟩, .unset, none⟩

def failing : Executor := fun _ _ view e =>
  (.returned (.exact ⟨view.executionId, lit "verifier", [], [], [], [], [], some .failed, [lit "subject"]⟩), e)

def raising : Executor := fun _ _ _ e => (.raised, e)

/-- A generator of one hypothesis, of the given text. -/
def hypothesis (content : Text) : Executor := fun _ _ view e =>
  (.returned (.exact ⟨view.executionId, lit "echo_hypothesis",
    [⟨lit "h", lit "episode", .hypothesis, content, [], some view.executionId, none, []⟩],
    [], [], [], [], none, []⟩), e)

def context (verification : Executor) : RunContext :=
  ⟨lit "task", none, [verifier verification, generator (hypothesis (lit "because"))], 8⟩

def start : RunState := .start (.new (lit "episode"))

end Sample

open Sample in
/-- A run whose verification raises: it ends there. -/
theorem stops_of_settled_raising : StopsAfterVerification runtime (context raising) start := by
  refine stops_of_settled _ _ _ fun s _ node targetId executor p result hscheduled hmandatory hresults => ?_
  have hnode : node = verifier raising := by
    have hmem := hscheduled.spec.1
    rw [context, List.mem_cons, List.mem_singleton] at hmem
    rcases hmem with rfl | rfl
    · rfl
    · exact absurd hmandatory Bool.false_ne_true
  obtain ⟨hexecutor, -, -, hattempt⟩ := hresults
  subst hnode
  obtain rfl : raising = executor := Option.some.inj hexecutor
  cases hattempt

theorem next_of_isNext {c : Control} (h : c.isNext = true) : c = .next c.state := by
  cases c with
  | next s => rfl
  | stop s => cases h
  | raised err s => cases h

open Sample in
theorem not_passes_failing : ¬ VerificationPasses runtime (context failing) start (verifier failing) none := by
  rintro ⟨executor, p, result, ⟨hexecutor, -, -, hattempt⟩, -, hverified, -⟩
  obtain rfl : failing = executor := Option.some.inj hexecutor
  have hstatus : result.verificationStatus = some .failed := by
    unfold attempted attempt failing at hattempt
    simp only at hattempt
    split at hattempt
    · cases hattempt
    · split at hattempt
      · cases hattempt
      · split at hattempt
        · cases hattempt
        · cases hattempt
          rfl
  rw [verificationFailure, if_pos (by rw [hstatus]; decide)] at hverified
  cases hverified

open Sample in
/-- The verification reports that it failed, and the next node is executed all the same: its
hypothesis enters the episode. -/
theorem failed_verification_goes_on : ¬ StopsAfterVerification runtime (context failing) start ∧
    (step runtime (context failing) (step runtime (context failing) start).state).state.episode.known (lit "h") =
      true := by
  refine ⟨fun hstops => ?_, by decide⟩
  have hscheduled : Scheduled runtime (context failing) start (verifier failing) none := ⟨0, by decide, rfl⟩
  have hnext : step runtime (context failing) start = .next (step runtime (context failing) start).state :=
    next_of_isNext (by decide)
  have hfollows : Follows runtime (context failing) (step runtime (context failing) start)
      (step runtime (context failing) (step runtime (context failing) start).state) :=
    .round (hnext ▸ .refl)
  have hcalls := (hstops start (verifier failing) none .refl hscheduled rfl not_passes_failing _ hfollows).1
  exact absurd (congrArg List.length hcalls) (by decide)

end VeraMono.Rezon
