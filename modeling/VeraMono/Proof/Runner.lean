import VeraMono.Model.Runner
import VeraMono.Proof.Admission
import Mathlib.Logic.Relation

/-!
# Rounds of a run

What one round does (`step_cases`, `execute_cases`), and what every run keeps of it
(`Reached.induct`).
-/

namespace VeraMono.Rezon

open Framework

variable {rt : Runtime} {ctx : RunContext} {s s' : RunState} {node : RunnerNode} {targetId : Option Text}
  {p : Prepared}

/-! ## The scheduler -/

variable {nodes : List NodeDescriptor}

theorem schedule_execute {budget : Budget} {i index : Nat} {nodeId : Text}
    {targetId' : Option Text} (h : schedule nodes budget i targetId = .execute index nodeId targetId') :
    i = index ∧ (budget.used : Int) < budget.limit ∧ ∃ d, nodes[index]? = some d ∧ d.nodeId = nodeId := by
  unfold schedule at h
  split at h
  · cases h
  · rename_i d hd
    split at h
    · cases h
    · rename_i hbudget
      cases h
      exact ⟨rfl, Int.not_le.1 hbudget, d, hd, rfl⟩

theorem pendingIndex_some {completed : List Text} {q : NodeDescriptor → Bool}
    {i : Nat} (h : pendingIndex nodes completed q = some i) :
    ∃ d, nodes[i]? = some d ∧ q d = true ∧ d.nodeId ∉ completed := by
  obtain ⟨hlt, hq, -⟩ := List.findIdx?_eq_some_iff_getElem.1 h
  rw [Bool.and_eq_true] at hq
  exact ⟨nodes[i], List.getElem?_eq_getElem hlt, hq.1, of_decide_eq_true hq.2⟩

/-- The scheduler picks a node that is not completed, within the budget. -/
theorem next_execute {snapshot : EpisodeSnapshot} {completed : List Text}
    {budget : Budget} {index : Nat} {nodeId : Text}
    (h : DeterministicScheduler.next rt snapshot nodes completed budget = .execute index nodeId targetId) :
    (budget.used : Int) < budget.limit ∧ nodeId ∉ completed ∧
      ∃ d, nodes[index]? = some d ∧ d.nodeId = nodeId := by
  have hpick {i : Nat} {q : NodeDescriptor → Bool} {target : Option Text}
      (hi : pendingIndex nodes completed q = some i)
      (hs : schedule nodes budget i target = .execute index nodeId targetId) :
      (budget.used : Int) < budget.limit ∧ nodeId ∉ completed ∧
        ∃ d, nodes[index]? = some d ∧ d.nodeId = nodeId := by
    obtain ⟨d, hd, -, hnot⟩ := pendingIndex_some hi
    obtain ⟨rfl, hbudget, d', hd', rfl⟩ := schedule_execute hs
    rw [hd] at hd'
    cases hd'
    exact ⟨hbudget, hnot, d, hd, rfl⟩
  unfold DeterministicScheduler.next at h
  simp only at h
  split at h
  · cases h
  split at h
  · cases h
  split at h
  · exact hpick ‹_› h
  split at h
  · exact hpick ‹_› h
  split at h
  · exact hpick ‹_› h
  split at h
  · exact hpick ‹_› h
  · cases h

/-! ## Rounds -/

/-- The round in the state is one of the node. -/
def Scheduled (rt : Runtime) (ctx : RunContext) (s : RunState) (node : RunnerNode) (targetId : Option Text) : Prop :=
  ∃ index, ctx.decision rt s = .execute index node.descriptor.nodeId targetId ∧ ctx.nodes[index]? = some node

theorem Scheduled.spec (h : Scheduled rt ctx s node targetId) :
    node ∈ ctx.nodes ∧ node.descriptor.nodeId ∉ s.completed ∧ (s.used : Int) < ctx.budget := by
  obtain ⟨index, hdecision, hnode⟩ := h
  obtain ⟨hbudget, hnot, -⟩ := next_execute hdecision
  exact ⟨List.mem_of_getElem? hnode, hnot, hbudget⟩

/-- The state ends the loop with no call: there is at most the record of a refusal more. -/
structure Ends (rt : Runtime) (ctx : RunContext) (s s' : RunState) : Prop where
  calls : s'.calls = s.calls
  episode : s'.episode = s.episode
  records : s'.records = s.records ∨ ∃ r node, s'.records = s.records ++ [r] ∧ node ∈ ctx.nodes ∧
    r.executionId = executionId rt ctx s.records.length node ∧ r.canonicalProducerExecutionId = none ∧
    r.canonicalOutputDigest = none

inductive Round (rt : Runtime) (ctx : RunContext) (s : RunState) : Control → Prop
  | ended {s' : RunState} (hends : Ends rt ctx s s') : Round rt ctx s (.stop s')
  | missing {node : RunnerNode} {targetId : Option Text} (hscheduled : Scheduled rt ctx s node targetId)
      (hoptional : node.descriptor.mandatoryVerification = false) (failures : List FailureState)
      (unresolved : List Text) :
      Round rt ctx s (.next { s with failures, unresolved, completed := s.completed ++ [node.descriptor.nodeId] })
  | undigested {err : RezonError} (hdigest : canonicalEpisodeSnapshotDigest rt s.episode.snapshot = .error err) :
      Round rt ctx s (.raised err s)
  | called {node : RunnerNode} {targetId : Option Text} {executor : Executor} {p : Prepared}
      (hscheduled : Scheduled rt ctx s node targetId) (hexecutor : node.executor = some executor)
      (hprepare : prepare rt ctx s node = .ok p) (hpreflight : preflight rt ctx node targetId p s = none) :
      Round rt ctx s (execute rt ctx node executor targetId p s)

theorem prepare_ok (h : prepare rt ctx s node = .ok p) :
    canonicalEpisodeSnapshotDigest rt s.episode.snapshot = .ok p.snapshotDigest ∧
      p.executionId = executionId rt ctx s.records.length node ∧
      p.auditView = buildExecutionView p.executionId s.episode.snapshot node.visibility node.independence
        ctx.taskEnvelope ∧
      p.executorView = executorView node p.auditView := by
  obtain ⟨digest, hdigest, h⟩ := bind_eq_ok.1 h
  rw [pure_ok.1 h]
  exact ⟨hdigest, rfl, rfl, rfl⟩

theorem prepare_error {err : RezonError} (h : prepare rt ctx s node = .error err) :
    canonicalEpisodeSnapshotDigest rt s.episode.snapshot = .error err := by
  unfold prepare at h
  cases hdigest : canonicalEpisodeSnapshotDigest rt s.episode.snapshot with
  | error err' =>
    simpa [hdigest, bind, Except.bind] using h
  | ok digest =>
    rw [hdigest] at h
    cases h

theorem ends_preflightTrace (hnode : node ∈ ctx.nodes)
    (hid : p.executionId = executionId rt ctx s.records.length node) (hcalls : s'.calls = s.calls)
    (hepisode : s'.episode = s.episode) (hrecords : s'.records = s.records) :
    Ends rt ctx s (s'.addPreflightTrace rt ctx node p) where
  calls := hcalls
  episode := hepisode
  records := .inr ⟨_, node, congrArg (· ++ [_]) hrecords, hnode, hid, rfl, rfl⟩

theorem ends_preflight (hnode : node ∈ ctx.nodes) (hid : p.executionId = executionId rt ctx s.records.length node)
    (h : preflight rt ctx node targetId p s = some s') : Ends rt ctx s s' := by
  have htrace (t : RunState) (hcalls : t.calls = s.calls) (hepisode : t.episode = s.episode)
      (hrecords : t.records = s.records) : Ends rt ctx s (t.addPreflightTrace rt ctx node p) :=
    ends_preflightTrace hnode hid hcalls hepisode hrecords
  have hcomplete {t : RunState} (ht : Ends rt ctx s t) : Ends rt ctx s (t.complete node) :=
    ⟨ht.calls, ht.episode, ht.records⟩
  unfold preflight refuseIndependence at h
  split at h
  · rw [← Option.some.inj h]
    exact hcomplete (htrace _ rfl rfl rfl)
  · split at h
    · rw [← Option.some.inj h]
      exact hcomplete (htrace _ rfl rfl rfl)
    · split at h
      · split at h
        · rw [← Option.some.inj h]
          exact htrace _ rfl rfl rfl
        · split at h
          · rw [← Option.some.inj h]
            exact ⟨rfl, rfl, .inl rfl⟩
          · split at h
            · rw [← Option.some.inj h]
              exact htrace _ rfl rfl rfl
            · cases h
      · cases h

theorem dispatch_cases (hscheduled : Scheduled rt ctx s node targetId) :
    Round rt ctx s (dispatch rt ctx node targetId s) := by
  unfold dispatch
  split
  · exact .ended ⟨rfl, rfl, .inl rfl⟩
  · split
    · split
      · exact .ended ⟨rfl, rfl, .inl rfl⟩
      · rename_i hmandatory
        exact .missing hscheduled (Bool.eq_false_iff.2 hmandatory) _ _
    · rename_i executor hexecutor
      split
      · exact .undigested (prepare_error ‹_›)
      · rename_i p hprepare
        split
        · rename_i hrefused
          exact .ended (ends_preflight hscheduled.spec.1 (prepare_ok hprepare).2.1 hrefused)
        · exact .called hscheduled hexecutor hprepare ‹_›

theorem step_cases (rt : Runtime) (ctx : RunContext) (s : RunState) : Round rt ctx s (step rt ctx s) := by
  unfold step
  split
  · exact .ended ⟨rfl, rfl, .inl rfl⟩
  · rename_i index nodeId targetId hdecision
    split
    · exact .ended ⟨rfl, rfl, .inl rfl⟩
    · rename_i node hnode
      split
      · exact .ended ⟨rfl, rfl, .inl rfl⟩
      · rename_i hid
        obtain rfl := Decidable.not_not.1 hid
        exact dispatch_cases ⟨index, hdecision, hnode⟩

/-! ## Calls -/

def leftEpisode (s : RunState) (executor : Executor) (targetId : Option Text) (p : Prepared) : Episode :=
  { (executor s.calls.length targetId p.executorView s.episode).2 with episodeId := s.episode.episodeId }

/-- What the `try` block makes of the call of the executor. -/
def attempted (rt : Runtime) (s : RunState) (executor : Executor) (targetId : Option Text) (p : Prepared) : Attempt :=
  attempt rt p (executor s.calls.length targetId p.executorView s.episode).1 (leftEpisode s executor targetId p)

/-- A call is over and has its record. -/
structure Settled (s : RunState) (node : RunnerNode) (targetId : Option Text) (p : Prepared) (admitted : Bool)
    (r : TraceRecord) (s' : RunState) : Prop where
  calls : s'.calls = s.calls ++ [⟨node, targetId, p.executorView, admitted⟩]
  records : s'.records = s.records ++ [r]
  executionId : r.executionId = p.executionId
  completed : s'.completed = s.completed ++ [node.descriptor.nodeId]
  used : s'.used = s.used + 1

/-- No execution was admitted. -/
structure Unadmitted (s s' : RunState) : Prop where
  prior : s'.priorIndependent = s.priorIndependent
  priorVersions : s'.priorIndependentSourceVersions = s.priorIndependentSourceVersions

inductive CallEnds (rt : Runtime) (s : RunState) (node : RunnerNode) (executor : Executor) (targetId : Option Text)
    (p : Prepared) : Control → Prop
  | failed {s' : RunState} {r : TraceRecord} {failure : FailureState} {label : String}
      (hattempt : attempted rt s executor targetId p = .failed failure label)
      (hsettled : Settled s node targetId p false r s') (hprior : Unadmitted s s') (hepisode : s'.episode = s.episode)
      (hproducer : r.canonicalProducerExecutionId = none) (houtput : r.canonicalOutputDigest = none) :
      CallEnds rt s node executor targetId p
        (if node.descriptor.mandatoryVerification then .stop s' else .next s')
  | unencodable {result : ExecutionResult} {err : RezonError} {s' : RunState}
      (hattempt : attempted rt s executor targetId p = .result result)
      (hdigest : canonicalOutputDigest rt result = .error err)
      (hcalls : s'.calls = s.calls ++ [⟨node, targetId, p.executorView, false⟩]) (hprior : Unadmitted s s') :
      CallEnds rt s node executor targetId p (.raised err s')
  | refused {result : ExecutionResult} {s' : RunState} {r : TraceRecord}
      (hattempt : attempted rt s executor targetId p = .result result)
      (hsettled : Settled s node targetId p false r s') (hprior : Unadmitted s s')
      (hepisode : s'.episode = leftEpisode s executor targetId p)
      (hproducer : r.canonicalProducerExecutionId = none)
      (houtput : canonicalOutputDigest rt result = .ok r.canonicalOutputDigest) :
      CallEnds rt s node executor targetId p (.next s')
  | admitted {result : ExecutionResult} {s' : RunState} {r : TraceRecord} {receipt : AdmissionReceipt}
      (hattempt : attempted rt s executor targetId p = .result result)
      (hpasses : node.descriptor.mandatoryVerification = true →
        verificationFailure node.descriptor p.auditView result = none)
      (hadmission : admitExecutionResult rt (leftEpisode s executor targetId p) (admissionRequest node p result) =
        (.ok receipt, s'.episode))
      (hsettled : Settled s node targetId p true r s')
      (hproducer : r.canonicalProducerExecutionId = receipt.canonicalProducerExecutionId)
      (houtput : r.canonicalOutputDigest = receipt.canonicalOutputDigest)
      (hprior : s'.priorIndependent = s.priorIndependent ++
        if node.descriptor.independenceRequired then [node.independence] else [])
      (hversions : s'.priorIndependentSourceVersions = s.priorIndependentSourceVersions ++
        if node.descriptor.independenceRequired then [p.auditView.potentiallyConsumedEvidenceVersions] else []) :
      CallEnds rt s node executor targetId p (.next s')
  | inadmissible {result : ExecutionResult} {err : RezonError} {e : Episode} {s' : RunState}
      (hattempt : attempted rt s executor targetId p = .result result)
      (hadmission : admitExecutionResult rt (leftEpisode s executor targetId p) (admissionRequest node p result) =
        (.error err, e))
      (hkind : err.kind ≠ .admissionError)
      (hcalls : s'.calls = s.calls ++ [⟨node, targetId, p.executorView, false⟩]) (hprior : Unadmitted s s') :
      CallEnds rt s node executor targetId p (.raised err s')

theorem admission_error {e : Episode} {request : AdmissionRequest} {err : RezonError} {e' : Episode}
    (h : admitExecutionResult rt e request = (.error err, e')) : e' = e := by
  rcases admit_cases rt e request with ⟨_, herr⟩ | ⟨_, _, _, _, _, -, -, -, hok⟩
  · exact (Prod.mk.inj (h.symm.trans herr)).2
  · cases (Prod.mk.inj (h.symm.trans hok)).1

theorem conclude_cases {executor : Executor} {result : ExecutionResult} {versions : List Text}
    (hattempt : attempted rt s executor targetId p = .result result) :
    CallEnds rt s node executor targetId p (conclude rt ctx node targetId p result
      { s.addSourceVersions versions with episode := leftEpisode s executor targetId p }) := by
  unfold conclude
  split
  · exact .unencodable hattempt ‹_› rfl ⟨rfl, rfl⟩
  · rename_i output houtput
    split
    · exact .refused hattempt ⟨rfl, rfl, rfl, rfl, rfl⟩ ⟨rfl, rfl⟩ rfl rfl houtput
    · split
      · exact .refused hattempt ⟨rfl, rfl, rfl, rfl, rfl⟩ ⟨rfl, rfl⟩ rfl rfl houtput
      · rename_i hpasses
        have hpasses (hmandatory : node.descriptor.mandatoryVerification = true) :
            verificationFailure node.descriptor p.auditView result = none := by
          rwa [if_pos hmandatory] at hpasses
        split
        · rename_i receipt e hadmission
          split
          · rename_i hindependent
            exact .admitted hattempt hpasses hadmission ⟨rfl, rfl, rfl, rfl, rfl⟩ rfl rfl
              (by rw [if_pos hindependent]; rfl) (by rw [if_pos hindependent]; rfl)
          · rename_i hindependent
            exact .admitted hattempt hpasses hadmission ⟨rfl, rfl, rfl, rfl, rfl⟩ rfl rfl
              (by rw [if_neg hindependent, List.append_nil]; rfl) (by rw [if_neg hindependent, List.append_nil]; rfl)
        · rename_i err e hadmission
          split
          · exact .refused hattempt ⟨rfl, rfl, rfl, rfl, rfl⟩ ⟨rfl, rfl⟩ (admission_error hadmission) rfl
              houtput
          · exact .inadmissible hattempt hadmission ‹_› rfl ⟨rfl, rfl⟩

theorem execute_cases (rt : Runtime) (ctx : RunContext) (s : RunState) (node : RunnerNode) (executor : Executor)
    (targetId : Option Text) (p : Prepared) :
    CallEnds rt s node executor targetId p (execute rt ctx node executor targetId p s) := by
  unfold execute
  dsimp only
  split
  · rename_i failure label hattempt
    exact .failed hattempt ⟨rfl, rfl, rfl, rfl, rfl⟩ ⟨rfl, rfl⟩ rfl rfl rfl
  · rename_i r hattempt
    exact conclude_cases hattempt

/-! ## Runs -/

/-- The state is reached by rounds that each go on. -/
def Reached (rt : Runtime) (ctx : RunContext) : RunState → RunState → Prop :=
  Relation.ReflTransGen fun s s' => step rt ctx s = .next s'

/-- What holds before the first round and is kept by every round that goes on holds in every state
that is reached. -/
theorem Reached.keeps {P : RunState → Prop} {s₀ : RunState} (hstart : P s₀)
    (hround : ∀ s s', P s → step rt ctx s = .next s' → P s') (h : Reached rt ctx s₀ s) : P s := by
  induction h with
  | refl => exact hstart
  | tail _ hnext ih => exact hround _ _ ih hnext

end VeraMono.Rezon
