import VeraMono.Proof.RunExceptions

/-!
# Every run is accounted for

A run whose results have an encoding ends with a receipt; each call has its record, and the episode
is what the admissions on record made of it (`Accounted`). An emitted text with a lone surrogate
is hashed after the `try` block, and the exception leaves the run (`surrogate_raises`).
-/

namespace VeraMono.Rezon

open Framework

variable {rt : Runtime} {ctx : RunContext} {s s' : RunState} {node : RunnerNode} {targetId : Option Text}
  {p : Prepared} {e e' : Episode}

/-! ## Episodes with an encoding -/

/-- The episode is what the admissions on record made of `e`: a record that names a producer is that
of a result admitted whole, the others changed nothing. -/
inductive AdmittedBy (rt : Runtime) (e : Episode) : List TraceRecord → Episode → Prop
  | start : AdmittedBy rt e [] e
  | unchanged {rs : List TraceRecord} {r : TraceRecord} {e' : Episode} (h : AdmittedBy rt e rs e')
      (hnone : r.canonicalProducerExecutionId = none) : AdmittedBy rt e (rs ++ [r]) e'
  | admitted {rs : List TraceRecord} {r : TraceRecord} {e' e'' : Episode} {request : AdmissionRequest}
      {receipt : AdmissionReceipt} (h : AdmittedBy rt e rs e')
      (hid : request.expectedExecutionId = some r.executionId)
      (hok : admitExecutionResult rt e' request = (.ok receipt, e''))
      (hproducer : r.canonicalProducerExecutionId = receipt.canonicalProducerExecutionId)
      (hsome : r.canonicalProducerExecutionId ≠ none) : AdmittedBy rt e (rs ++ [r]) e''

/-- What every state of a run keeps. -/
structure Accounted (rt : Runtime) (ctx : RunContext) (e : Episode) (s : RunState) : Prop where
  ids : s.records.map TraceRecord.executionId = s.calls.map fun c => c.view.executionId
  numbered : ∀ n r, s.records[n]? = some r → ∃ node ∈ ctx.nodes, r.executionId = executionId rt ctx n node
  outputs : ∀ r ∈ s.records, ∀ d, r.canonicalOutputDigest = some d ∨ r.canonicalProducerExecutionId = some d →
    ¬ isEmpty d = true
  used : s.used = s.calls.length
  calls : (s.calls.map fun c => c.node.descriptor.nodeId).Sublist s.completed
  nodup : s.completed.Nodup
  known : ∀ id ∈ s.completed, id ∈ ctx.nodes.map fun node => node.descriptor.nodeId
  budget : (s.used : Int) ≤ ctx.budget
  encodable : s.episode.snapshot.encodable = true
  admitted : AdmittedBy rt e s.records s.episode

/-- No execution leaves a changed episode whose snapshot has the hash of the one before. -/
def NoCollision (rt : Runtime) (ctx : RunContext) (s : RunState) : Prop :=
  ∀ node targetId executor p, Scheduled rt ctx s node targetId → node.executor = some executor →
    prepare rt ctx s node = .ok p →
    rt.sha256 (.episodeSnapshot (leftEpisode s executor targetId p).snapshot) =
      rt.sha256 (.episodeSnapshot s.episode.snapshot) →
    (leftEpisode s executor targetId p).snapshot = s.episode.snapshot

/-- A state after a call keeps what was kept. -/
theorem Accounted.settled {admitted : Bool} {r : TraceRecord} (h : Accounted rt ctx e s)
    (hscheduled : Scheduled rt ctx s node targetId) (hprepare : prepare rt ctx s node = .ok p)
    (hsettled : Settled s node targetId p admitted r s')
    (houtput : ∀ d, r.canonicalOutputDigest = some d ∨ r.canonicalProducerExecutionId = some d → ¬ isEmpty d = true)
    (hencodable : s'.episode.snapshot.encodable = true) (hadmitted : AdmittedBy rt e (s.records ++ [r]) s'.episode) :
    Accounted rt ctx e s' := by
  obtain ⟨hnode, hnot, hbudget⟩ := hscheduled.spec
  obtain ⟨-, hid, haudit, hview⟩ := prepare_ok hprepare
  have hviewId : p.executorView.executionId = p.executionId := by rw [hview, haudit]; rfl
  exact {
    ids := by
      rw [hsettled.records, hsettled.calls, List.map_append, List.map_append, h.ids, List.map_singleton,
        List.map_singleton, hsettled.executionId, hviewId]
    numbered := fun n r' hr' => by
      rw [hsettled.records, List.getElem?_append] at hr'
      split at hr'
      · exact h.numbered n r' hr'
      · rename_i hge
        have hn : n - s.records.length = 0 := by
          have hlt := (List.getElem?_eq_some_iff.1 hr').1
          rw [List.length_singleton] at hlt
          omega
        rw [hn] at hr'
        cases hr'
        have hlength : n = s.records.length := by omega
        exact ⟨node, hnode, by rw [hsettled.executionId, hid, hlength]⟩
    outputs := fun r' hr' => by
      rw [hsettled.records, List.mem_append, List.mem_singleton] at hr'
      rcases hr' with hr' | rfl
      · exact h.outputs r' hr'
      · exact houtput
    used := by rw [hsettled.used, hsettled.calls, List.length_append, h.used, List.length_singleton]
    calls := by
      rw [hsettled.calls, hsettled.completed, List.map_append]
      exact h.calls.append (List.Sublist.refl _)
    nodup := by
      rw [hsettled.completed, List.nodup_append]
      refine ⟨h.nodup, List.nodup_singleton _, fun a ha b hb => ?_⟩
      rw [List.mem_singleton] at hb
      rintro rfl
      exact hnot (hb ▸ ha)
    known := fun id hid' => by
      rw [hsettled.completed, List.mem_append, List.mem_singleton] at hid'
      rcases hid' with hid' | rfl
      · exact h.known id hid'
      · exact List.mem_map_of_mem hnode
    budget := by rw [hsettled.used]; push_cast; omega
    encodable := hencodable
    admitted := hsettled.records ▸ hadmitted }

/-- What is left of that in a state in which a run ends: there is at most one record more, of a node
that was refused before it was executed. -/
structure Finished (rt : Runtime) (ctx : RunContext) (e : Episode) (s : RunState) : Prop where
  records : ∃ called refused, s.records = called ++ refused ∧ refused.length ≤ 1 ∧
    (∀ r ∈ refused, r.canonicalProducerExecutionId = none ∧ r.canonicalOutputDigest = none) ∧
    called.map TraceRecord.executionId = s.calls.map fun c => c.view.executionId
  numbered : ∀ n r, s.records[n]? = some r → ∃ node ∈ ctx.nodes, r.executionId = executionId rt ctx n node
  outputs : ∀ r ∈ s.records, ∀ d, r.canonicalOutputDigest = some d ∨ r.canonicalProducerExecutionId = some d →
    ¬ isEmpty d = true
  nodup : (s.calls.map fun c => c.node.descriptor.nodeId).Nodup
  budget : (s.calls.length : Int) ≤ ctx.budget
  admitted : AdmittedBy rt e s.records s.episode

theorem Accounted.finished (h : Accounted rt ctx e s) : Finished rt ctx e s where
  records := ⟨s.records, [], (List.append_nil _).symm, Nat.zero_le _, fun _ h => absurd h List.not_mem_nil, h.ids⟩
  numbered := h.numbered
  outputs := h.outputs
  nodup := h.nodup.sublist h.calls
  budget := by rw [← h.used]; exact h.budget
  admitted := h.admitted

theorem Accounted.ended (h : Accounted rt ctx e s) (hends : Ends rt ctx s s') : Finished rt ctx e s' := by
  rcases hends.records with hrecords | ⟨r, node, hrecords, hnode, hid, hproducer, houtput⟩
  · exact {
      records := ⟨s.records, [], hrecords.trans (List.append_nil _).symm, Nat.zero_le _,
        fun _ h => absurd h List.not_mem_nil, by rw [hends.calls, h.ids]⟩
      numbered := by rw [hrecords]; exact h.numbered
      outputs := by rw [hrecords]; exact h.outputs
      nodup := by rw [hends.calls]; exact h.finished.nodup
      budget := by rw [hends.calls]; exact h.finished.budget
      admitted := by rw [hrecords, hends.episode]; exact h.admitted }
  · exact {
      records := ⟨s.records, [r], hrecords, Nat.le_refl _,
        fun r' hr' => by rw [List.mem_singleton.1 hr']; exact ⟨hproducer, houtput⟩, by rw [hends.calls, h.ids]⟩
      numbered := fun n r' hr' => by
        rw [hrecords, List.getElem?_append] at hr'
        split at hr'
        · exact h.numbered n r' hr'
        · have hlt := (List.getElem?_eq_some_iff.1 hr').1
          rw [List.length_singleton] at hlt
          have hlength : n = s.records.length := by omega
          rw [hlength, Nat.sub_self] at hr'
          cases hr'
          exact ⟨node, hnode, by rw [hid, hlength]⟩
      outputs := fun r' hr' d hd => by
        rw [hrecords, List.mem_append, List.mem_singleton] at hr'
        rcases hr' with hr' | rfl
        · exact h.outputs r' hr' d hd
        · rw [houtput, hproducer] at hd
          rcases hd with hd | hd <;> cases hd
      nodup := by rw [hends.calls]; exact h.finished.nodup
      budget := by rw [hends.calls]; exact h.finished.budget
      admitted := by
        rw [hrecords, hends.episode]
        exact .unchanged h.admitted hproducer }

end VeraMono.Rezon
