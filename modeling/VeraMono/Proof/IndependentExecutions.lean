import VeraMono.Proof.Runner

/-!
# Independent executions

What an execution that must be independent is shown comes from no execution
(`isolated_of_preflight`) and is the same whatever is hidden from it (`unblinded_of_prepare`);
those admitted in one run are independent of each other (`Isolated`).
-/

namespace VeraMono.Rezon

open Framework

variable {rt : Runtime} {ctx : RunContext} {s s' : RunState} {node : RunnerNode} {targetId : Option Text}
  {p : Prepared}

/-! ## Views -/

variable {policy : VisibilityPolicy} {rs : List Hyperrelation} {r : Hyperrelation} {ids : List Text}

theorem visibleRelations_shown
    (h : policy.showsRelation ids r = true) :
    policy.visibleRelations ids (r :: rs) = r :: policy.visibleRelations (r.relationId :: ids) rs := if_pos h

theorem visibleRelations_hidden
    (h : ¬ policy.showsRelation ids r = true) :
    policy.visibleRelations ids (r :: rs) = policy.visibleRelations ids rs := if_neg h

theorem blindedRelations_shown
    (h : policy.showsRelation ids r = true) :
    policy.blindedRelations ids (r :: rs) = policy.blindedRelations (r.relationId :: ids) rs := if_pos h

theorem blindedRelations_hidden
    (h : ¬ policy.showsRelation ids r = true) :
    policy.blindedRelations ids (r :: rs) = r.relationId :: policy.blindedRelations ids rs := if_neg h

theorem blindedRelations_subset :
    ∀ {ids : List Text} {rs : List Hyperrelation} {id : Text}, id ∈ policy.blindedRelations ids rs →
      id ∈ rs.map Hyperrelation.relationId
  | _, [], _, h => absurd h List.not_mem_nil
  | ids, r :: rs, id, h => by
    by_cases hshows : policy.showsRelation ids r = true
    · rw [blindedRelations_shown hshows] at h
      exact List.mem_cons_of_mem _ (blindedRelations_subset h)
    · rw [blindedRelations_hidden hshows, List.mem_cons] at h
      rcases h with rfl | h
      · exact List.mem_cons_self
      · exact List.mem_cons_of_mem _ (blindedRelations_subset h)

theorem filter_blindedRelations :
    ∀ {ids : List Text} {rs : List Hyperrelation}, (rs.map Hyperrelation.relationId).Nodup →
      rs.filter (fun r => r.relationId ∉ policy.blindedRelations ids rs) = policy.visibleRelations ids rs
  | _, [], _ => rfl
  | ids, r :: rs, hnd => by
    rw [List.map_cons, List.nodup_cons] at hnd
    by_cases hshows : policy.showsRelation ids r = true
    · have hnot : r.relationId ∉ policy.blindedRelations (r.relationId :: ids) rs :=
        fun h => hnd.1 (blindedRelations_subset h)
      rw [blindedRelations_shown hshows, visibleRelations_shown hshows,
        List.filter_cons, if_pos (decide_eq_true hnot), filter_blindedRelations hnd.2]
    · have hin : ¬ decide (r.relationId ∉ policy.blindedRelations ids (r :: rs)) = true := by
        rw [blindedRelations_hidden hshows]
        simp
      rw [visibleRelations_hidden hshows, List.filter_cons, if_neg hin, ← filter_blindedRelations hnd.2]
      refine List.filter_congr fun r' hr' => ?_
      have hne : r'.relationId ≠ r.relationId := fun h => hnd.1 (h ▸ List.mem_map_of_mem hr')
      rw [blindedRelations_hidden hshows]
      simp [hne]

theorem filter_blindedPropositions {ps : List Proposition}
    (hnd : (ps.map Proposition.propositionId).Nodup) :
    ps.filter (fun q => q.propositionId ∉ (ps.filter fun q => ¬ policy.shows q).map Proposition.propositionId) =
      ps.filter policy.shows := by
  refine List.filter_congr fun q hq => ?_
  by_cases hshows : policy.shows q = true
  · rw [hshows, decide_eq_true_iff]
    intro hmem
    obtain ⟨q', hq', hid⟩ := List.mem_map.1 hmem
    obtain ⟨hq', hhidden⟩ := List.mem_filter.1 hq'
    rw [List.inj_on_of_nodup_map hnd hq' hq hid] at hhidden
    exact absurd hshows (of_decide_eq_true hhidden)
  · rw [Bool.eq_false_iff.2 hshows, decide_eq_false_iff_not, not_not]
    exact List.mem_map_of_mem (List.mem_filter.2 ⟨hq, decide_eq_true hshows⟩)

/-- The current objects of a snapshot but those that a view leaves out. -/
def unblinded (snapshot : EpisodeSnapshot) (audit : ExecutionView) : List Proposition × List Hyperrelation :=
  (snapshot.currentPropositions.filter fun q => q.propositionId ∉ audit.blindedPropositionIds,
    snapshot.currentRelations.filter fun r => r.relationId ∉ audit.blindedRelationIds)

theorem unblinded_of_prepare (hprepare : prepare rt ctx s node = .ok p) :
    unblinded s.episode.snapshot p.auditView = (p.auditView.propositions, p.auditView.relations) := by
  have hps : (s.episode.snapshot.currentPropositions.map Proposition.propositionId).Nodup :=
    s.episode.propositions.nodup.sublist (List.filter_sublist.map _)
  have hrs : (s.episode.snapshot.currentRelations.map Hyperrelation.relationId).Nodup :=
    s.episode.relations.nodup.sublist (List.filter_sublist.map _)
  rw [(prepare_ok hprepare).2.2.1]
  exact Prod.ext (filter_blindedPropositions hps) (filter_blindedRelations hrs)

def independentView (executionId : Text) (propositions : List Proposition) (relations : List Hyperrelation)
    (specification : Option TaskSpecification) : ExecutionView :=
  ⟨executionId, lit "independent@0", propositions, relations, [], [], .unset, none, specification⟩

theorem executorView_independent (hindependent : node.descriptor.independenceRequired = true)
    (hprepare : prepare rt ctx s node = .ok p) :
    p.executorView = independentView p.executionId p.auditView.propositions p.auditView.relations
      (ctx.taskEnvelope.map TaskEnvelope.toTaskSpecification) := by
  obtain ⟨-, -, haudit, hview⟩ := prepare_ok hprepare
  rw [hview, haudit]
  simp only [executorView, if_pos hindependent]
  rfl

/-! ## Checks -/

theorem preflight_none (hindependent : node.descriptor.independenceRequired = true)
    (h : preflight rt ctx node targetId p s = none) :
    node.independence.isDemonstrablyIndependent = true ∧ independenceOk s node p.auditView = true := by
  unfold preflight at h
  split at h
  · cases h
  · split at h
    · cases h
    · unfold refuseIndependence at h
      split at h
      · cases h
      · split at h
        · cases h
        · rename_i hcomplete
          split at h
          · cases h
          · rename_i hok
            exact ⟨Decidable.not_not.1 hcomplete, Decidable.not_not.1 hok⟩

theorem not_overlap {ts us : List Text} (h : ¬ IndependenceMetadata.overlap ts us = true) :
    ∀ t ∈ ts, t ∉ us := by
  intro t ht hu
  exact h (List.any_eq_true.2 ⟨t, ht, decide_eq_true hu⟩)

/-- Two calls that are independent of each other: of different origin, and shown different evidence. -/
structure IndependentCalls (c c' : ExecutorCall) : Prop where
  executorId : c.node.independence.executorId ≠ c'.node.independence.executorId
  modelId : c.node.independence.modelId ≠ c'.node.independence.modelId
  providerId : c.node.independence.providerId ≠ c'.node.independence.providerId
  promptLineage : c.node.independence.promptLineage ≠ c'.node.independence.promptLineage
  contextLineage : c.node.independence.contextLineage ≠ c'.node.independence.contextLineage
  evidence : ∀ q ∈ c.view.propositions, ∀ q' ∈ c'.view.propositions,
    q.kind = .evidence → q'.kind = .evidence → q.propositionId ≠ q'.propositionId ∧ (∀ ref ∈ q.sourceRefs, ref ∉ q'.sourceRefs) ∧
      ∀ version ∈ q.sourceVersions, version ∉ q'.sourceVersions

theorem IndependentCalls.symm {c c' : ExecutorCall} (h : IndependentCalls c c') : IndependentCalls c' c where
  executorId := h.executorId.symm
  modelId := h.modelId.symm
  providerId := h.providerId.symm
  promptLineage := h.promptLineage.symm
  contextLineage := h.contextLineage.symm
  evidence q hq q' hq' hk hk' := by
    obtain ⟨hid, hrefs, hversions⟩ := h.evidence q' hq' q hq hk' hk
    exact ⟨hid.symm, fun ref hr hr' => hrefs ref hr' hr, fun v hv hv' => hversions v hv' hv⟩

/-- What an execution that must be independent received. -/
structure IsolatedCall (ctx : RunContext) (c : ExecutorCall) : Prop where
  propositions : ∀ q ∈ c.view.propositions, q.producerExecutionId = none
  relations : ∀ r ∈ c.view.relations, r.producerExecutionId = none
  view : c.view = independentView c.view.executionId c.view.propositions c.view.relations
    (ctx.taskEnvelope.map TaskEnvelope.toTaskSpecification)
  consumed : ∀ q ∈ c.view.propositions, q.kind = .evidence →
    q.propositionId ∈ c.node.independence.consumedEvidenceRefs ∧
      ∀ ref ∈ q.sourceRefs, ref ∈ c.node.independence.consumedEvidenceRefs

theorem mem_evidenceRefs {v : ExecutionView} {q : Proposition} {ref : Text} (hq : q ∈ v.propositions)
    (hkind : q.kind = .evidence) (href : ref ∈ q.propositionId :: q.sourceRefs) :
    ref ∈ v.potentiallyConsumedEvidenceRefs := by
  rw [ExecutionView.potentiallyConsumedEvidenceRefs, List.mem_eraseDups, List.mem_flatMap]
  exact ⟨q, List.mem_filter.2 ⟨hq, decide_eq_true hkind⟩, href⟩

theorem mem_evidenceVersions {v : ExecutionView} {q : Proposition} {version : Text} (hq : q ∈ v.propositions)
    (hkind : q.kind = .evidence) (hversion : version ∈ q.sourceVersions) :
    version ∈ v.potentiallyConsumedEvidenceVersions := by
  rw [ExecutionView.potentiallyConsumedEvidenceVersions, List.mem_eraseDups, List.mem_flatMap]
  exact ⟨q, List.mem_filter.2 ⟨hq, decide_eq_true hkind⟩, hversion⟩

theorem isolated_of_preflight (hindependent : node.descriptor.independenceRequired = true)
    (hprepare : prepare rt ctx s node = .ok p) (hpreflight : preflight rt ctx node targetId p s = none)
    (admitted : Bool) : IsolatedCall ctx ⟨node, targetId, p.executorView, admitted⟩ := by
  obtain ⟨-, hok⟩ := preflight_none hindependent hpreflight
  have hview := executorView_independent hindependent hprepare
  simp only [independenceOk, attestationMatches, ExecutionView.isBlind, Bool.and_eq_true] at hok
  obtain ⟨⟨⟨⟨-, -, hconsumed⟩, -⟩, -⟩, ⟨hpropositions, -⟩, hrelations⟩ := hok
  have hprops : p.executorView.propositions = p.auditView.propositions := by rw [hview]; rfl
  have hrels : p.executorView.relations = p.auditView.relations := by rw [hview]; rfl
  exact {
    propositions := fun q hq => Option.isNone_iff_eq_none.1 (List.all_eq_true.1 hpropositions q (hprops ▸ hq))
    relations := fun r hr => Option.isNone_iff_eq_none.1 (List.all_eq_true.1 hrelations r (hrels ▸ hr))
    view := by rw [hview]; rfl
    consumed := fun q hq hkind => by
      have hmem (ref : Text) (href : ref ∈ q.propositionId :: q.sourceRefs) :
          ref ∈ node.independence.consumedEvidenceRefs :=
        of_decide_eq_true (List.all_eq_true.1 hconsumed ref (mem_evidenceRefs (hprops ▸ hq) hkind href))
      exact ⟨hmem _ List.mem_cons_self, fun ref href => hmem ref (List.mem_cons_of_mem _ href)⟩ }

/-! ## Runs -/

/-- The call is one of an execution that must be independent. -/
def ExecutorCall.independent (c : ExecutorCall) : Bool := c.node.descriptor.independenceRequired

def ExecutorCall.admittedIndependent (c : ExecutorCall) : Bool := c.admitted && c.independent

/-- What a run keeps of its independent executions. -/
structure Isolated (ctx : RunContext) (s : RunState) : Prop where
  prior : s.priorIndependent =
    (s.calls.filter ExecutorCall.admittedIndependent).map fun c => c.node.independence
  priorVersions : s.priorIndependentSourceVersions =
    (s.calls.filter ExecutorCall.admittedIndependent).map fun c => c.view.potentiallyConsumedEvidenceVersions
  each : ∀ c ∈ s.calls, c.independent = true → IsolatedCall ctx c
  pairwise : (s.calls.filter ExecutorCall.admittedIndependent).Pairwise IndependentCalls

theorem isolated_start (e : Episode) : Isolated ctx (.start e) :=
  ⟨rfl, rfl, fun _ h => absurd h List.not_mem_nil, List.Pairwise.nil⟩

theorem independentCalls_of_preflight (h : Isolated ctx s)
    (hindependent : node.descriptor.independenceRequired = true) (hprepare : prepare rt ctx s node = .ok p)
    (hpreflight : preflight rt ctx node targetId p s = none) {c : ExecutorCall} (hc : c ∈ s.calls)
    (hadmitted : c.admittedIndependent = true) (admitted : Bool) :
    IndependentCalls c ⟨node, targetId, p.executorView, admitted⟩ := by
  have hnew := isolated_of_preflight hindependent hprepare hpreflight admitted
  obtain ⟨-, hok⟩ := preflight_none hindependent hpreflight
  simp only [independenceOk, Bool.and_eq_true] at hok
  obtain ⟨⟨⟨-, hprior⟩, hversions⟩, -⟩ := hok
  have hmem : c ∈ s.calls.filter ExecutorCall.admittedIndependent := List.mem_filter.2 ⟨hc, hadmitted⟩
  have hpair := List.all_eq_true.1 hprior c.node.independence (h.prior ▸ List.mem_map_of_mem hmem)
  have hversion := List.all_eq_true.1 hversions c.view.potentiallyConsumedEvidenceVersions
    (h.priorVersions ▸ List.mem_map_of_mem hmem)
  simp only [IndependenceMetadata.demonstrablyIndependentFrom, Bool.and_eq_true, decide_eq_true_eq] at hpair
  obtain ⟨⟨⟨⟨⟨⟨⟨-, hexecutor⟩, hmodel⟩, hprovider⟩, hprompt⟩, hcontext⟩, -⟩, hconsumed⟩ := hpair
  have hconsumed := not_overlap hconsumed
  have hversion := not_overlap (of_decide_eq_true hversion)
  have hprops : p.executorView.propositions = p.auditView.propositions := by
    rw [executorView_independent hindependent hprepare]
    rfl
  have hold := h.each c hc (Bool.and_eq_true_iff.1 hadmitted).2
  refine IndependentCalls.symm ⟨hexecutor, hmodel, hprovider, hprompt, hcontext, fun q hq q' hq' hk hk' => ?_⟩
  obtain ⟨hid, hrefs⟩ := hnew.consumed q hq hk
  obtain ⟨hid', hrefs'⟩ := hold.consumed q' hq' hk'
  refine ⟨fun heq => hconsumed _ hid (heq ▸ hid'),
    fun ref href href' => hconsumed ref (hrefs ref href) (hrefs' ref href'), fun version hv hv' => ?_⟩
  exact hversion version (mem_evidenceVersions (hprops ▸ hq) hk hv) (mem_evidenceVersions hq' hk' hv')

theorem Isolated.called {admitted : Bool} (h : Isolated ctx s)
    (hcalls : s'.calls = s.calls ++ [⟨node, targetId, p.executorView, admitted⟩])
    (hnew : node.descriptor.independenceRequired = true →
      IsolatedCall ctx ⟨node, targetId, p.executorView, admitted⟩ ∧
        ∀ c ∈ s.calls, c.admittedIndependent = true →
          IndependentCalls c ⟨node, targetId, p.executorView, admitted⟩)
    (hprior : s'.priorIndependent = s.priorIndependent ++
      if admitted && node.descriptor.independenceRequired then [node.independence] else [])
    (hversions : s'.priorIndependentSourceVersions = s.priorIndependentSourceVersions ++
      if admitted && node.descriptor.independenceRequired then [p.executorView.potentiallyConsumedEvidenceVersions]
      else []) : Isolated ctx s' := by
  have hfilter : [(⟨node, targetId, p.executorView, admitted⟩ : ExecutorCall)].filter
      ExecutorCall.admittedIndependent =
      if admitted && node.descriptor.independenceRequired then [⟨node, targetId, p.executorView, admitted⟩]
      else [] := by
    rw [List.filter_singleton, Bool.cond_eq_ite]
    rfl
  constructor
  · rw [hprior, hcalls, List.filter_append, hfilter, List.map_append, h.prior]
    split <;> rfl
  · rw [hversions, hcalls, List.filter_append, hfilter, List.map_append, h.priorVersions]
    split <;> rfl
  · intro c hc hindependent
    rw [hcalls, List.mem_append, List.mem_singleton] at hc
    rcases hc with hc | rfl
    · exact h.each c hc hindependent
    · exact (hnew hindependent).1
  · rw [hcalls, List.filter_append, hfilter, List.pairwise_append]
    refine ⟨h.pairwise, ?_, fun c hc c' hc' => ?_⟩
    · split
      · exact List.pairwise_singleton _ _
      · exact List.Pairwise.nil
    · split at hc'
      · rename_i hboth
        rw [List.mem_singleton] at hc'
        subst hc'
        obtain ⟨hmem, hadmitted⟩ := List.mem_filter.1 hc
        exact (hnew (Bool.and_eq_true_iff.1 hboth).2).2 c hmem hadmitted
      · exact absurd hc' List.not_mem_nil

theorem Isolated.same (h : Isolated ctx s) (hcalls : s'.calls = s.calls) (hprior : Unadmitted s s') :
    Isolated ctx s' where
  prior := by rw [hprior.prior, hcalls, h.prior]
  priorVersions := by rw [hprior.priorVersions, hcalls, h.priorVersions]
  each := by rw [hcalls]; exact h.each
  pairwise := by rw [hcalls]; exact h.pairwise

/-- What a round does to the independent executions: the calls of its state keep what they kept. -/
structure IsolatedCalls (ctx : RunContext) (calls : List ExecutorCall) : Prop where
  each : ∀ c ∈ calls, c.independent = true → IsolatedCall ctx c
  pairwise : (calls.filter ExecutorCall.admittedIndependent).Pairwise IndependentCalls

theorem Isolated.calls (h : Isolated ctx s) : IsolatedCalls ctx s.calls := ⟨h.each, h.pairwise⟩

theorem isolated_step (h : Isolated ctx s) : IsolatedCalls ctx (step rt ctx s).state.calls ∧
    ∀ s', step rt ctx s = .next s' → Isolated ctx s' := by
  have hround := step_cases rt ctx s
  generalize step rt ctx s = c at hround
  cases hround with
  | ended hends =>
    refine ⟨?_, fun _ hc => by cases hc⟩
    rw [show (Control.stop _).state.calls = s.calls from hends.calls]
    exact h.calls
  | missing hscheduled hoptional failures unresolved =>
    refine ⟨h.calls, fun s' hc => ?_⟩
    cases hc
    exact h.same rfl ⟨rfl, rfl⟩
  | undigested hdigest => exact ⟨h.calls, fun _ hc => by cases hc⟩
  | @called node targetId executor p hscheduled hexecutor hprepare hpreflight =>
    have hends := execute_cases rt ctx s node executor targetId p
    have hnew (admitted : Bool) (hindependent : node.descriptor.independenceRequired = true) :
        IsolatedCall ctx ⟨node, targetId, p.executorView, admitted⟩ ∧
          ∀ c ∈ s.calls, c.admittedIndependent = true →
            IndependentCalls c ⟨node, targetId, p.executorView, admitted⟩ :=
      ⟨isolated_of_preflight hindependent hprepare hpreflight admitted, fun c hc hadmitted =>
        independentCalls_of_preflight h hindependent hprepare hpreflight hc hadmitted admitted⟩
    have hunadmitted {t : RunState} (hcalls : t.calls = s.calls ++ [⟨node, targetId, p.executorView, false⟩])
        (hprior : Unadmitted s t) : Isolated ctx t :=
      h.called hcalls (hnew false) (by rw [hprior.prior]; simp) (by rw [hprior.priorVersions]; simp)
    generalize execute rt ctx node executor targetId p s = c at hends
    cases hends with
    | @failed t r failure label hattempt hsettled hprior =>
      have ht := hunadmitted hsettled.calls hprior
      split
      · exact ⟨ht.calls, fun _ hc => by cases hc⟩
      · exact ⟨ht.calls, fun s' hc => by cases hc; exact ht⟩
    | unencodable hattempt hdigest hcalls hprior =>
      exact ⟨(hunadmitted hcalls hprior).calls, fun _ hc => by cases hc⟩
    | refused hattempt hsettled hprior =>
      have ht := hunadmitted hsettled.calls hprior
      exact ⟨ht.calls, fun s' hc => by cases hc; exact ht⟩
    | @admitted result t r receipt hattempt hpasses hadmission hsettled hproducer houtput hprior hversions =>
      have hprops : p.executorView.potentiallyConsumedEvidenceVersions =
          p.auditView.potentiallyConsumedEvidenceVersions := by
        rw [(prepare_ok hprepare).2.2.2]
        rfl
      have ht : Isolated ctx t := h.called hsettled.calls (hnew true) (by rw [hprior, Bool.true_and])
        (by rw [hversions, hprops, Bool.true_and])
      exact ⟨ht.calls, fun s' hc => by cases hc; exact ht⟩
    | inadmissible hattempt hadmission hkind hcalls hprior =>
      exact ⟨(hunadmitted hcalls hprior).calls, fun _ hc => by cases hc⟩

/-- Of every run: what an independent execution receives comes from no execution; it is fixed by the
task specification and the visible objects, so that two rounds of any runs whose objects agree but
for blinded ones give equal views; and those admitted are of different origin and were shown
different evidence. -/
theorem independent_executions (rt : Runtime) (ctx : RunContext) (e : Episode) :
    (∀ s, Reached rt ctx (.start e) s → ∀ calls, calls = s.calls ∨ calls = (step rt ctx s).state.calls →
      (∀ c ∈ calls, c.node.descriptor.independenceRequired = true →
        (∀ q ∈ c.view.propositions, q.producerExecutionId = none) ∧
        (∀ r ∈ c.view.relations, r.producerExecutionId = none) ∧
        c.view = independentView c.view.executionId c.view.propositions c.view.relations
          (ctx.taskEnvelope.map TaskEnvelope.toTaskSpecification)) ∧
      (calls.filter fun c => c.admitted && c.node.descriptor.independenceRequired).Pairwise IndependentCalls) ∧
    ∀ (ctx' : RunContext) (s s' : RunState) (node node' : RunnerNode) (p p' : Prepared),
      node.descriptor.independenceRequired = true → node'.descriptor.independenceRequired = true →
      prepare rt ctx s node = .ok p → prepare rt ctx' s' node' = .ok p' →
      ctx.taskEnvelope.map TaskEnvelope.toTaskSpecification =
        ctx'.taskEnvelope.map TaskEnvelope.toTaskSpecification →
      unblinded s.episode.snapshot p.auditView = unblinded s'.episode.snapshot p'.auditView →
      { p.executorView with executionId := p'.executionId } = p'.executorView := by
  constructor
  · intro s hreached calls hcalls
    have hisolated : Isolated ctx s :=
      hreached.keeps (isolated_start e) fun s s' h hnext => (isolated_step h).2 s' hnext
    have hcalls : IsolatedCalls ctx calls := by
      rcases hcalls with rfl | rfl
      · exact hisolated.calls
      · exact (isolated_step hisolated).1
    exact ⟨fun c hc hindependent => ⟨(hcalls.each c hc hindependent).propositions,
      (hcalls.each c hc hindependent).relations, (hcalls.each c hc hindependent).view⟩, hcalls.pairwise⟩
  · intro ctx' s s' node node' p p' hnode hnode' hprepare hprepare' hspecification hsame
    rw [unblinded_of_prepare hprepare, unblinded_of_prepare hprepare'] at hsame
    rw [executorView_independent hnode hprepare, executorView_independent hnode' hprepare', hspecification,
      (Prod.mk.inj hsame).1, (Prod.mk.inj hsame).2]
    rfl

end VeraMono.Rezon
