import VeraMono.Model.Admission
import VeraMono.Proof.Episode

/-!
# Admission is atomic and governed

`Grows` is what adding objects does to an episode, one or many (`addEach_spec`); `Governs` is what
the checks of the governed view let through.
-/

namespace VeraMono.Rezon

open Framework

/-! ## Adding -/

/-- New objects, active, beside those there were. -/
structure Episode.Grows (e e' : Episode) : Prop where
  episodeId : e'.episodeId = e.episodeId
  active : ∀ o, e.isActive o = true → e'.isActive o = true
  propositions : ∀ id p, e.propositions.get? id = some p → e'.propositions.get? id = some p
  relations : ∀ id r, e.relations.get? id = some r → e'.relations.get? id = some r
  events : e'.events.length + e.storedObjects.card = e.events.length + e'.storedObjects.card

namespace Episode

variable {e e' e'' : Episode} {o : ObjectId}

theorem Grows.refl (e : Episode) : e.Grows e := ⟨rfl, fun _ h => h, fun _ _ h => h, fun _ _ h => h, rfl⟩

theorem Grows.trans (h : e.Grows e') (h' : e'.Grows e'') : e.Grows e'' where
  episodeId := h'.episodeId.trans h.episodeId
  active o ho := h'.active o (h.active o ho)
  propositions id p hp := h'.propositions id p (h.propositions id p hp)
  relations id r hr := h'.relations id r (h.relations id r hr)
  events := by
    have h₁ := h.events
    have h₂ := h'.events
    omega

theorem Grows.stored (h : e.Grows e') (ho : e.isStored o = true) : e'.isStored o = true := by
  cases o with
  | proposition id =>
    obtain ⟨p, hp⟩ := isStored_proposition.1 ho
    exact isStored_proposition.2 ⟨p, h.propositions id p hp⟩
  | relation id =>
    obtain ⟨r, hr⟩ := isStored_relation.1 ho
    exact isStored_relation.2 ⟨r, h.relations id r hr⟩

theorem Grows.length_events (h : e.Grows e') :
    e'.events.length = e.events.length + (e'.storedObjects \ e.storedObjects).card := by
  have hsubset : e.storedObjects ⊆ e'.storedObjects := fun o ho =>
    mem_storedObjects.2 (h.stored (mem_storedObjects.1 ho))
  have hcard := Finset.card_sdiff_add_card_eq_card hsubset
  have hevents := h.events
  omega

theorem AddsObject.grows (h : AddsObject e o e') (hid : e'.episodeId = e.episodeId) : e.Grows e' where
  episodeId := hid
  active o' ho' := (h.active o').2 (.inl ho')
  propositions := h.propositions
  relations := h.relations
  events := by
    have hstored : e'.storedObjects = insert o e.storedObjects := by
      ext o'
      rw [Finset.mem_insert, mem_storedObjects, mem_storedObjects, h.stored, or_comm]
    have hcard := Finset.card_insert_of_notMem (mt mem_storedObjects.1 h.fresh)
    have hevents := h.events
    rw [hstored]
    omega

def HasProposition (e : Episode) (p : Proposition) : Prop :=
  e.isActive (.proposition p.propositionId) = true ∧ e.propositions.get? p.propositionId = some p

def HasRelation (e : Episode) (r : Hyperrelation) : Prop :=
  e.isActive (.relation r.relationId) = true ∧ e.relations.get? r.relationId = some r

theorem Grows.hasProposition (h : e.Grows e') {p : Proposition} (hp : e.HasProposition p) : e'.HasProposition p :=
  ⟨h.active _ hp.1, h.propositions _ _ hp.2⟩

theorem Grows.hasRelation (h : e.Grows e') {r : Hyperrelation} (hr : e.HasRelation r) : e'.HasRelation r :=
  ⟨h.active _ hr.1, h.relations _ _ hr.2⟩

theorem addProposition_spec {p : Proposition} (h : e.addProposition (.exact p) = .ok e') :
    e.Grows e' ∧ e'.HasProposition p ∧
      ∀ o, e'.isStored o = true → e.isStored o = true ∨ o = .proposition p.propositionId := by
  obtain ⟨_, hget, h⟩ := bind_eq_ok.1 h
  cases hget
  obtain ⟨-, -, h⟩ := bind_eq_ok.1 h
  obtain ⟨-, -, h⟩ := bind_eq_ok.1 h
  obtain ⟨⟨⟩, hnone, h⟩ := bind_eq_ok.1 h
  split at h
  · rename_i previous hprevious
    obtain ⟨⟨⟩, hsame, h⟩ := bind_eq_ok.1 h
    obtain ⟨⟨⟩, hactive, hreturn⟩ := bind_eq_ok.1 h
    obtain rfl : previous = p := of_decide_eq_true (requireThat_ok.1 hsame)
    rw [pure_ok.1 hreturn]
    exact ⟨.refl e, ⟨requireThat_ok.1 hactive, hprevious⟩, fun _ ho => .inl ho⟩
  · rename_i hnew
    rw [pure_ok.1 h]
    have hadds := adds_storeProposition hnew (current_of_none (requireNone_ok.1 hnone)) "proposition_added" none
    exact ⟨hadds.grows rfl, ⟨(hadds.active _).2 (.inr rfl), Table.get?_insert_self hnew⟩,
      fun o ho => (hadds.stored o).1 ho⟩

theorem addRelation_spec {r : Hyperrelation} (h : e.addRelation (.exact r) = .ok e') :
    e.Grows e' ∧ e'.HasRelation r ∧
      ∀ o, e'.isStored o = true → e.isStored o = true ∨ o = .relation r.relationId := by
  obtain ⟨_, hget, h⟩ := bind_eq_ok.1 h
  cases hget
  obtain ⟨-, -, h⟩ := bind_eq_ok.1 h
  obtain ⟨-, -, h⟩ := bind_eq_ok.1 h
  obtain ⟨⟨⟩, hparticipants, h⟩ := bind_eq_ok.1 h
  obtain ⟨⟨⟩, hnone, h⟩ := bind_eq_ok.1 h
  split at h
  · rename_i previous hprevious
    obtain ⟨⟨⟩, hsame, h⟩ := bind_eq_ok.1 h
    obtain ⟨⟨⟩, hactive, hreturn⟩ := bind_eq_ok.1 h
    obtain rfl : previous = r := of_decide_eq_true (requireThat_ok.1 hsame)
    rw [pure_ok.1 hreturn]
    exact ⟨.refl e, ⟨requireThat_ok.1 hactive, hprevious⟩, fun _ ho => .inl ho⟩
  · rename_i hnew
    rw [pure_ok.1 h]
    have hadds := adds_storeRelation hnew (cites_of_none (requireNone_ok.1 hparticipants) (requireNone_ok.1 hnone))
      "relation_added" none
    exact ⟨hadds.grows rfl, ⟨(hadds.active _).2 (.inr rfl), Table.get?_insert_self hnew⟩,
      fun o ho => (hadds.stored o).1 ho⟩

end Episode

/-- A loop that adds: the new objects are those of the list, and each of them is there. -/
theorem addEach_spec {α : Type} {add : Episode → Given α → Except RezonError Episode} (name : α → ObjectId)
    (has : Episode → α → Prop)
    (hadd : ∀ e a e', add e (.exact a) = .ok e' → e.Grows e' ∧ has e' a ∧
      ∀ o, e'.isStored o = true → e.isStored o = true ∨ o = name a)
    (hkept : ∀ e e' a, e.Grows e' → has e a → has e' a) :
    ∀ (as : List α) (e e' : Episode), addEach add e as = (.ok (), e') →
      e.Grows e' ∧ (∀ a ∈ as, has e' a) ∧
        ∀ o, e'.isStored o = true → e.isStored o = true ∨ ∃ a ∈ as, o = name a
  | [], e, e', h => by
    obtain ⟨-, rfl⟩ := Prod.mk.inj h
    exact ⟨.refl e, fun _ ha => absurd ha List.not_mem_nil, fun _ ho => .inl ho⟩
  | a :: as, e, e', h => by
    rw [addEach] at h
    split at h
    · rename_i e₁ hok
      obtain ⟨hgrows, hhas, hnew⟩ := hadd e a e₁ hok
      obtain ⟨hgrows', hhas', hnew'⟩ := addEach_spec name has hadd hkept as e₁ e' h
      refine ⟨hgrows.trans hgrows', List.forall_mem_cons.2 ⟨hkept _ _ _ hgrows' hhas, hhas'⟩, fun o ho => ?_⟩
      rcases hnew' o ho with ho | ⟨b, hb, rfl⟩
      · exact (hnew o ho).imp_right fun h => ⟨a, List.mem_cons_self, h⟩
      · exact .inr ⟨b, List.mem_cons_of_mem _ hb, rfl⟩
    · cases (Prod.mk.inj h).1

/-! ## Governing -/

/-- Where an object says it comes from lies in the governed view. -/
structure GovernedView.Governs (view : GovernedView) (sourceRefs sourceVersions : List Text) : Prop where
  refs : ∀ allowed, view.allowedSourceRefs = some allowed → ∀ ref ∈ sourceRefs, ref ∈ allowed
  versions : ∀ allowed, view.allowedSourceVersions = some allowed →
    ∀ version ∈ sourceVersions, version ∈ allowed
  bindings : ∀ allowed, view.allowedSourceBindings = some allowed →
    ∃ bindings, sourceRefVersionBindings sourceRefs sourceVersions = some bindings ∧
      ∀ b ∈ bindings, b ∈ allowed

section
variable {view : GovernedView} {label : String} {sourceRefs sourceVersions : List Text}

theorem all_mem_of_filter {α : Type} [BEq α] [LawfulBEq α] {as allowed : List α}
    (h : as.filter (· ∉ allowed) = []) : ∀ a ∈ as, a ∈ allowed := by
  intro a ha
  simpa using List.filter_eq_nil_iff.1 h a ha

theorem governs_of_ok (hrefs : view.checkSourceRefs label sourceRefs = .ok ())
    (hversions : view.checkSourceVersions label sourceVersions = .ok ())
    (hbindings : view.checkBindings label sourceRefs sourceVersions = .ok ()) :
    view.Governs sourceRefs sourceVersions where
  refs allowed hallowed := by
    rw [GovernedView.checkSourceRefs, hallowed] at hrefs
    exact all_mem_of_filter (Episode.requireNone_ok.1 hrefs)
  versions allowed hallowed := by
    rw [GovernedView.checkSourceVersions, hallowed] at hversions
    exact all_mem_of_filter (Episode.requireNone_ok.1 hversions)
  bindings allowed hallowed := by
    unfold GovernedView.checkBindings at hbindings
    simp only [hallowed] at hbindings
    split at hbindings
    · rename_i hempty
      exact ⟨[], by rw [hempty]; rfl, fun _ h => absurd h List.not_mem_nil⟩
    · split at hbindings
      · cases hbindings
      · rename_i bindings hsome
        refine ⟨bindings, hsome, all_mem_of_filter ?_⟩
        have hnil := Episode.requireNone_ok.1 hbindings
        refine List.eq_nil_iff_forall_not_mem.2 fun b hb => ?_
        exact List.cons_ne_nil _ _ (List.flatMap_eq_nil_iff.1 hnil b hb)

end

theorem mapM_eq_map {α β ε : Type} {f : α → Except ε β} {g : α → β}
    (hf : ∀ a b, f a = .ok b → b = g a) :
    ∀ {as : List α} {bs : List β}, as.mapM f = .ok bs → bs = as.map g
  | [], bs, h => pure_ok.1 h
  | a :: as, bs, h => by
    rw [List.mapM_cons] at h
    obtain ⟨b, hb, h⟩ := bind_eq_ok.1 h
    obtain ⟨bs', hbs, h⟩ := bind_eq_ok.1 h
    rw [pure_ok.1 h, hf a b hb, mapM_eq_map hf hbs, List.map_cons]

/-! ## `admit_execution_result` -/

variable {rt : Runtime} {e : Episode} {request : AdmissionRequest}

/-- The policy that every emitted proposition passed. -/
structure PropositionGoverned (d : NodeDescriptor) (view : GovernedView) (executionId : Text) (p : Proposition) :
    Prop where
  permitted : p.kind ∈ d.permittedOutputKinds
  notEvidence : p.kind ≠ .evidence
  producer : p.producerExecutionId = some executionId
  governs : view.Governs p.sourceRefs p.sourceVersions

/-- The policy that every emitted relation passed. -/
structure RelationGoverned (rt : Runtime) (d : NodeDescriptor) (view : GovernedView) (executionId : Text)
    (propositionIds : List Text) (r : Hyperrelation) : Prop where
  permitted : ∃ t ∈ d.permittedRelationTypes, rt.lower t = rt.lower r.relationType
  producer : r.producerExecutionId = some executionId
  governs : view.Governs r.sourceRefs r.sourceVersions
  participants : ∀ allowed, view.allowedSourceRefs = some allowed →
    ∀ participant ∈ r.participants, participant.refId ∈ allowed ∨ participant.refId ∈ propositionIds

variable {receipt : AdmissionReceipt} {d : NodeDescriptor}

theorem checkProposition_ok {view : GovernedView} {executionId episodeId : Text}
    {p : Proposition} (h : checkProposition d view executionId episodeId p = .ok ()) : PropositionGoverned d view executionId p := by
  obtain ⟨⟨⟩, hpermitted, h⟩ := bind_eq_ok.1 h
  obtain ⟨⟨⟩, hevidence, h⟩ := bind_eq_ok.1 h
  obtain ⟨⟨⟩, hproducer, h⟩ := bind_eq_ok.1 h
  obtain ⟨-, -, h⟩ := bind_eq_ok.1 h
  obtain ⟨⟨⟩, hrefs, h⟩ := bind_eq_ok.1 h
  obtain ⟨⟨⟩, hversions, hbindings⟩ := bind_eq_ok.1 h
  exact {
    permitted := of_decide_eq_true (Episode.require_ok.1 hpermitted)
    notEvidence := of_decide_eq_true (Episode.require_ok.1 hevidence)
    producer := of_decide_eq_true (Episode.require_ok.1 hproducer)
    governs := governs_of_ok hrefs hversions hbindings }

theorem checkRelation_ok {view : GovernedView} {executionId episodeId : Text}
    {propositionIds : List Text} {r : Hyperrelation}
    (h : checkRelation rt d view executionId episodeId propositionIds r = .ok ()) :
    RelationGoverned rt d view executionId propositionIds r := by
  obtain ⟨⟨⟩, hpermitted, h⟩ := bind_eq_ok.1 h
  obtain ⟨⟨⟩, hproducer, h⟩ := bind_eq_ok.1 h
  obtain ⟨-, -, h⟩ := bind_eq_ok.1 h
  obtain ⟨⟨⟩, hrefs, h⟩ := bind_eq_ok.1 h
  obtain ⟨⟨⟩, hparticipants, h⟩ := bind_eq_ok.1 h
  obtain ⟨⟨⟩, hversions, hbindings⟩ := bind_eq_ok.1 h
  exact {
    permitted := List.mem_map.1 (of_decide_eq_true (Episode.require_ok.1 hpermitted))
    producer := of_decide_eq_true (Episode.require_ok.1 hproducer)
    governs := governs_of_ok hrefs hversions hbindings
    participants := fun allowed hallowed participant hmem => by
      rw [GovernedView.checkParticipants, hallowed] at hparticipants
      exact List.mem_append.1
        (all_mem_of_filter (Episode.requireNone_ok.1 hparticipants) _ (List.mem_map_of_mem hmem)) }

/-- What the checks before the loops that add establish. -/
structure Governed (rt : Runtime) (e : Episode) (request : AdmissionRequest) (d : NodeDescriptor)
    (result : ExecutionResult) (receipt : AdmissionReceipt) : Prop where
  isDescriptor : request.descriptor = .exact d
  isResult : request.result = .exact result
  unfailed : result.failures = []
  digest : canonicalEpisodeSnapshotDigest rt e.snapshot = .ok request.expectedEpisodeSnapshotDigest
  output : canonicalOutputDigest rt result = .ok receipt.canonicalOutputDigest
  producer : receipt.canonicalOutputDigest.mapM (canonicalProducerExecutionId rt d.nodeId
    request.expectedEpisodeSnapshotDigest (request.taskSpecification.map (·.digest rt))) = .ok receipt.canonicalProducerExecutionId
  propositions : ∀ p ∈ result.emittedPropositions,
    PropositionGoverned d request.view (request.expectedExecutionId.getD result.executionId) p
  relations : ∀ r ∈ result.emittedRelations,
    RelationGoverned rt d request.view (request.expectedExecutionId.getD result.executionId)
      (result.emittedPropositions.map Proposition.propositionId) r

theorem get_ok {α : Type} {kind : RezonErrorClass} {given : Given α} {a : α} (h : given.get kind = .ok a) :
    given = .exact a := by
  cases given with
  | exact b => cases h; rfl
  | malformed message => cases h

theorem withProducer_ok {producer : Option Text} {p q : Proposition} (h : p.withProducer producer = .ok q) :
    q = { p with producerExecutionId := producer } := by
  obtain ⟨-, -, h⟩ := bind_eq_ok.1 h
  obtain ⟨-, -, h⟩ := bind_eq_ok.1 h
  obtain ⟨-, -, h⟩ := bind_eq_ok.1 h
  obtain ⟨-, -, h⟩ := bind_eq_ok.1 h
  exact pure_ok.1 h

theorem relation_withProducer_ok {producer : Option Text} {p q : Hyperrelation}
    (h : p.withProducer producer = .ok q) : q = { p with producerExecutionId := producer } := by
  obtain ⟨-, -, h⟩ := bind_eq_ok.1 h
  obtain ⟨-, -, h⟩ := bind_eq_ok.1 h
  obtain ⟨-, -, h⟩ := bind_eq_ok.1 h
  obtain ⟨-, -, h⟩ := bind_eq_ok.1 h
  exact pure_ok.1 h

theorem governed_of_ok {propositions : List Proposition} {relations : List Hyperrelation}
    (h : govern rt e request = .ok (propositions, relations, receipt)) :
    ∃ d result, Governed rt e request d result receipt ∧
      propositions = result.emittedPropositions.map
        (fun p => { p with producerExecutionId := receipt.canonicalProducerExecutionId }) ∧
      relations = result.emittedRelations.map
        (fun r => { r with producerExecutionId := receipt.canonicalProducerExecutionId }) := by
  obtain ⟨d, hd, h⟩ := bind_eq_ok.1 h
  obtain ⟨result, hresult, h⟩ := bind_eq_ok.1 h
  obtain ⟨-, -, h⟩ := bind_eq_ok.1 h
  obtain ⟨-, -, h⟩ := bind_eq_ok.1 h
  obtain ⟨-, -, h⟩ := bind_eq_ok.1 h
  obtain ⟨-, -, h⟩ := bind_eq_ok.1 h
  obtain ⟨-, -, h⟩ := bind_eq_ok.1 h
  obtain ⟨⟨⟩, hunfailed, h⟩ := bind_eq_ok.1 h
  obtain ⟨snapshotDigest, hdigest, h⟩ := bind_eq_ok.1 h
  obtain ⟨⟨⟩, hexpected, h⟩ := bind_eq_ok.1 h
  obtain rfl : snapshotDigest = request.expectedEpisodeSnapshotDigest :=
    of_decide_eq_true (Episode.require_ok.1 hexpected)
  obtain ⟨-, -, h⟩ := bind_eq_ok.1 h
  obtain ⟨output, houtput, h⟩ := bind_eq_ok.1 h
  obtain ⟨producer, hproducer, h⟩ := bind_eq_ok.1 h
  obtain ⟨⟨⟩, hpropositions, h⟩ := bind_eq_ok.1 h
  obtain ⟨⟨⟩, hrelations, h⟩ := bind_eq_ok.1 h
  obtain ⟨ps, hps, h⟩ := bind_eq_ok.1 h
  obtain ⟨rs, hrs, h⟩ := bind_eq_ok.1 h
  obtain ⟨-, -, h⟩ := bind_eq_ok.1 h
  obtain ⟨-, -, h⟩ := bind_eq_ok.1 h
  obtain ⟨rfl, rfl, rfl⟩ : propositions = ps ∧ relations = rs ∧ receipt = _ := by
    simpa only [Prod.mk.injEq] using pure_ok.1 h
  refine ⟨d, result, ?_, mapM_eq_map (fun _ _ => withProducer_ok) hps,
    mapM_eq_map (fun _ _ => relation_withProducer_ok) hrs⟩
  exact {
    isDescriptor := get_ok hd
    isResult := get_ok hresult
    unfailed := of_decide_eq_true (Episode.require_ok.1 hunfailed)
    digest := hdigest
    output := houtput
    producer := hproducer
    propositions := fun p hp => checkProposition_ok (forM_ok.1 hpropositions p hp)
    relations := fun r hr => checkRelation_ok (forM_ok.1 hrelations r hr) }

/-- An admission raises and leaves the episode as it was, or does all there is to do. -/
theorem admit_cases (rt : Runtime) (e : Episode) (request : AdmissionRequest) :
    (∃ err, admitExecutionResult rt e request = (.error err, e)) ∨
      ∃ propositions relations receipt e₁ e₂, govern rt e request = .ok (propositions, relations, receipt) ∧
        addEach Episode.addProposition e propositions = (.ok (), e₁) ∧
        addEach Episode.addRelation e₁ relations = (.ok (), e₂) ∧
        admitExecutionResult rt e request = (.ok receipt, e₂) := by
  unfold admitExecutionResult Episode.atomicMutation
  cases hgovern : govern rt e request with
  | error err => exact .inl ⟨err, by simp only [hgovern]⟩
  | ok governed =>
    obtain ⟨propositions, relations, receipt⟩ := governed
    cases hpropositions : addEach Episode.addProposition e propositions with
    | mk outcome e₁ =>
      cases outcome with
      | error err => exact .inl ⟨err, by simp only [hgovern, hpropositions]⟩
      | ok =>
        cases hrelations : addEach Episode.addRelation e₁ relations with
        | mk outcome e₂ =>
          cases outcome with
          | error err => exact .inl ⟨err, by simp only [hgovern, hpropositions, hrelations]⟩
          | ok =>
            exact .inr ⟨propositions, relations, receipt, e₁, e₂, rfl, hpropositions, hrelations,
              by simp only [hgovern, hpropositions, hrelations]⟩

/-- An admission that returns has governed its request and added what was emitted. -/
theorem admit_ok {e' : Episode}
    (h : admitExecutionResult rt e request = (.ok receipt, e')) :
    ∃ d result, Governed rt e request d result receipt ∧ e.Grows e' ∧
      (∀ p ∈ result.emittedPropositions,
        e'.HasProposition { p with producerExecutionId := receipt.canonicalProducerExecutionId }) ∧
      (∀ r ∈ result.emittedRelations,
        e'.HasRelation { r with producerExecutionId := receipt.canonicalProducerExecutionId }) ∧
      ∀ o, e'.isStored o = true → e.isStored o = true ∨
        (∃ p ∈ result.emittedPropositions, o = .proposition p.propositionId) ∨
        ∃ r ∈ result.emittedRelations, o = .relation r.relationId := by
  rcases admit_cases rt e request with ⟨err, herr⟩ | ⟨ps, rs, receipt', e₁, e₂, hgovern, hps, hrs, hok⟩
  · rw [herr] at h
    cases (Prod.mk.inj h).1
  · obtain ⟨hreceipt, rfl⟩ := Prod.mk.inj (hok.symm.trans h)
    obtain rfl : receipt' = receipt := Except.ok.inj hreceipt
    obtain ⟨d, result, hgoverned, rfl, rfl⟩ := governed_of_ok hgovern
    obtain ⟨hgrows₁, hhas₁, hnew₁⟩ := addEach_spec
      (fun p => .proposition p.propositionId) Episode.HasProposition (fun _ _ _ => Episode.addProposition_spec)
      (fun _ _ _ h => h.hasProposition) _ _ _ hps
    obtain ⟨hgrows₂, hhas₂, hnew₂⟩ := addEach_spec
      (fun r => .relation r.relationId) Episode.HasRelation (fun _ _ _ => Episode.addRelation_spec)
      (fun _ _ _ h => h.hasRelation) _ _ _ hrs
    refine ⟨d, result, hgoverned, hgrows₁.trans hgrows₂,
      fun p hp => hgrows₂.hasProposition (hhas₁ _ (List.mem_map_of_mem hp)),
      fun r hr => hhas₂ _ (List.mem_map_of_mem hr), fun o ho => ?_⟩
    rcases hnew₂ o ho with ho | ⟨_, hmem, rfl⟩
    · rcases hnew₁ o ho with ho | ⟨_, hmem, rfl⟩
      · exact .inl ho
      · obtain ⟨p, hp, rfl⟩ := List.mem_map.1 hmem
        exact .inr (.inl ⟨p, hp, rfl⟩)
    · obtain ⟨r, hr, rfl⟩ := List.mem_map.1 hmem
      exact .inr (.inr ⟨r, hr, rfl⟩)

theorem producer_isSome {result : ExecutionResult}
    (h : Governed rt e request d result receipt)
    (hemits : ¬ (result.emittedPropositions = [] ∧ result.emittedRelations = [])) :
    ∃ output, canonicalOutputDigest rt result = .ok (some output) ∧
      ∃ producer, receipt.canonicalProducerExecutionId = some producer ∧
        canonicalProducerExecutionId rt d.nodeId request.expectedEpisodeSnapshotDigest
          (request.taskSpecification.map (·.digest rt)) output = .ok producer := by
  have houtput := h.output
  have hproducer := h.producer
  cases hsome : receipt.canonicalOutputDigest with
  | none =>
    rw [hsome, canonicalOutputDigest, if_neg hemits] at houtput
    obtain ⟨_, -, houtput⟩ := bind_eq_ok.1 houtput
    obtain ⟨_, -, houtput⟩ := bind_eq_ok.1 houtput
    obtain ⟨_, -, houtput⟩ := bind_eq_ok.1 houtput
    cases pure_ok.1 houtput
  | some output =>
    rw [hsome] at houtput hproducer
    obtain ⟨producer, hid, hreceipt⟩ := map_eq_ok.1 (show Except.map some _ = _ from hproducer)
    exact ⟨output, houtput, producer, hreceipt.symm, hid⟩

/-- An admission that raises changes nothing. One that returns had the expected episode; it keeps
what there was, adds what was emitted and passed the policy, each object once, active and under
the producer that is derived. -/
theorem admission_governed (rt : Runtime) (e : Episode) (request : AdmissionRequest) :
    (∀ err e', admitExecutionResult rt e request = (.error err, e') → e' = e) ∧
    ∀ receipt e', admitExecutionResult rt e request = (.ok receipt, e') →
      ∃ d result, request.descriptor = .exact d ∧ request.result = .exact result ∧
        canonicalEpisodeSnapshotDigest rt e.snapshot = .ok request.expectedEpisodeSnapshotDigest ∧
        (∀ o, e.isActive o = true → e'.isActive o = true) ∧
        (∀ id p, e.propositions.get? id = some p → e'.propositions.get? id = some p) ∧
        (∀ id r, e.relations.get? id = some r → e'.relations.get? id = some r) ∧
        (∀ o, e'.isStored o = true → e.isStored o = true ∨
          (∃ p ∈ result.emittedPropositions, o = .proposition p.propositionId) ∨
          ∃ r ∈ result.emittedRelations, o = .relation r.relationId) ∧
        e'.events.length = e.events.length + (e'.storedObjects \ e.storedObjects).card ∧
        (∀ p ∈ result.emittedPropositions, e'.isActive (.proposition p.propositionId) = true ∧
          e'.propositions.get? p.propositionId =
            some { p with producerExecutionId := receipt.canonicalProducerExecutionId }) ∧
        (∀ r ∈ result.emittedRelations, e'.isActive (.relation r.relationId) = true ∧
          e'.relations.get? r.relationId =
            some { r with producerExecutionId := receipt.canonicalProducerExecutionId }) ∧
        (¬ (result.emittedPropositions = [] ∧ result.emittedRelations = []) →
          ∃ output, canonicalOutputDigest rt result = .ok (some output) ∧
            ∃ producer, receipt.canonicalProducerExecutionId = some producer ∧
              canonicalProducerExecutionId rt d.nodeId request.expectedEpisodeSnapshotDigest
                (request.taskSpecification.map (·.digest rt)) output = .ok producer) ∧
        (∀ p ∈ result.emittedPropositions,
          PropositionGoverned d request.view (request.expectedExecutionId.getD result.executionId) p) ∧
        ∀ r ∈ result.emittedRelations,
          RelationGoverned rt d request.view (request.expectedExecutionId.getD result.executionId)
            (result.emittedPropositions.map Proposition.propositionId) r := by
  constructor
  · intro err e' h
    rcases admit_cases rt e request with ⟨_, herr⟩ | ⟨_, _, _, _, _, -, -, -, hok⟩
    · exact (Prod.mk.inj (h.symm.trans herr)).2
    · cases (Prod.mk.inj (h.symm.trans hok)).1
  · intro receipt e' h
    obtain ⟨d, result, hgoverned, hgrows, hpropositions, hrelations, hnew⟩ := admit_ok h
    exact ⟨d, result, hgoverned.isDescriptor, hgoverned.isResult, hgoverned.digest, hgrows.active,
      hgrows.propositions, hgrows.relations, hnew, hgrows.length_events, hpropositions, hrelations,
      producer_isSome hgoverned, hgoverned.propositions, hgoverned.relations⟩

/-! ## Admissions among calls -/

/-- What happens to an episode: a caller acts on it or a worker's result is admitted. -/
inductive Episode.Action
  | call (call : Episode.Call)
  | admission (request : AdmissionRequest)

/-- The episode after a sequence of actions. -/
def Episode.afterAll (rt : Runtime) (e : Episode) (actions : List Action) : Episode :=
  actions.foldl (fun e => fun
    | .call call => call.apply e
    | .admission request => (admitExecutionResult rt e request).2) e

theorem addEach_after {α : Type} {add : Episode → Given α → Except RezonError Episode} (call : α → Episode.Call)
    (hadd : ∀ e a, (call a).perform e = add e (.exact a)) :
    ∀ (as : List α) (e e' : Episode), addEach add e as = (.ok (), e') → e' = e.after (as.map call)
  | [], _, _, h => (Prod.mk.inj h).2.symm
  | a :: as, e, e', h => by
    rw [addEach] at h
    split at h
    · rename_i e₁ hok
      have hstep : (call a).apply e = e₁ := by rw [Episode.Call.apply, hadd, hok]
      rw [addEach_after call hadd as e₁ e' h, ← hstep]
      rfl
    · cases (Prod.mk.inj h).1

theorem admit_calls (rt : Runtime) (e : Episode) (request : AdmissionRequest) :
    ∃ calls, (admitExecutionResult rt e request).2 = e.after calls := by
  rcases admit_cases rt e request with ⟨err, h⟩ | ⟨ps, rs, receipt, e₁, e₂, -, hps, hrs, h⟩
  · exact ⟨[], congrArg Prod.snd h⟩
  · have hadded := addEach_after (fun p => .addProposition (.exact p)) (fun _ _ => rfl) ps _ _ hps
    have hrelated := addEach_after (fun r => .addRelation (.exact r)) (fun _ _ => rfl) rs _ _ hrs
    rw [hadded] at hrelated
    exact ⟨_ ++ _, (congrArg Prod.snd h).trans (hrelated.trans (List.foldl_append ..).symm)⟩

theorem afterAll_calls (rt : Runtime) (e : Episode) (actions : List Episode.Action) :
    ∃ calls, e.afterAll rt actions = e.after calls := by
  induction actions generalizing e with
  | nil => exact ⟨[], rfl⟩
  | cons action actions ih =>
    cases action with
    | call call =>
      obtain ⟨calls, h⟩ := ih (call.apply e)
      exact ⟨call :: calls, h⟩
    | admission request =>
      obtain ⟨added, hadded⟩ := admit_calls rt e request
      obtain ⟨calls, h⟩ := ih (e.after added)
      exact ⟨added ++ calls, (congrArg (·.afterAll rt actions) hadded).trans
        (h.trans (List.foldl_append ..).symm)⟩

/-- However admissions fall among calls, an episode ends as calls alone leave it, and keeps what
they keep: no active object cites a retracted one, and nothing is replaced or revived. -/
theorem admissions_refine_calls (rt : Runtime) (e : Episode) (actions : List Episode.Action) :
    (∃ calls, e.afterAll rt actions = e.after calls) ∧ e.Succeeds (e.afterAll rt actions) ∧
      (e.Current → (e.afterAll rt actions).Current) := by
  obtain ⟨calls, h⟩ := afterAll_calls rt e actions
  rw [h]
  exact ⟨⟨calls, rfl⟩, Episode.succeeds_after e calls, Episode.current_after calls⟩

end VeraMono.Rezon
