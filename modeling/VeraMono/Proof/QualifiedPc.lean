import VeraMono.Model.QualifiedPc
import VeraMono.Proof.CoordinationRecovery
import VeraMono.Proof.JobJournal

/-!
# Recovery of PC executions

Any number of executions and cancellations of attempts, beside every other call of the state
directory, interleaved and crashing anywhere. The dispatch inside an execution is the gateway's
own, so a run of the three stores is, on the state directory, a run in which effects are started at
most once. `vera_lifts` transports the contracts of the state directory, `pcPool_once` is its
at-most-once theorem, and `pc_recovery_sound` joins it with what the journal says.
-/

namespace VeraMono

open Framework Transition QualifiedPCExecutionAdapter

variable {D : Type}

/-! ## Committed effects -/

/-- An effect that committed, with the digest of its result. -/
def CommittedAs (effectId : String) (digest : D) (s : VeraState D) : Prop :=
  ∃ r, s.fence.get? effectId = some r ∧ r.state = .committed ∧ r.resultDigest = some digest

theorem CommittedAs.step {R : Runtime D} {t : Transition D} {s s' : VeraState D} {effectId : String}
    {digest : D} (hs : CommittedAs effectId digest s) (hd : t.Does R s s') :
    CommittedAs effectId digest s' := by
  obtain ⟨r, hr, hstate, hdigest⟩ := hs
  have hrow := hd.row effectId
  rw [hr] at hrow
  generalize hs' : s'.fence.get? effectId = row at hrow
  cases hrow with
  | same => exact ⟨r, hs', hstate, hdigest⟩
  | advance _ hnext => exact absurd (hstate ▸ hnext) EffectState.Next.not_of_committed

/-- The contract of a thread of which only transitions are asked. -/
def steps (R : Runtime D) : Contract Lock (VeraState D) where
  inv _ := True
  rely _ _ s s' := ∃ t : Transition D, t.Does R s s'
  guar _ _ s s' := ∃ t : Transition D, t.Does R s s'

section Dispatch
variable {R : Runtime D} {held : Finset Lock} {effectId : String} {digest : D}

theorem CommittedAs.stable : (steps R).Stable held fun _ => CommittedAs effectId digest :=
  fun _ _ _ _ _ hs ⟨_, hd⟩ => hs.step hd

theorem steps_within {α : Type} {T : Transition D → Prop} {p : Op D α} {P : VeraState D → Prop}
    (hP : ∀ {s s' t}, P s → Transition.Does R s s' t → P s') (hp : Within R T p) :
    Triple (steps R) held (fun _ => P) p fun _ _ => P :=
  .segment (fun _ _ _ _ _ hs ⟨_, hd⟩ => hP hs hd) hp fun _ _ _ _ hs ⟨t, _, hd⟩ =>
    ⟨trivial, ⟨t, hd⟩, hP hs hd⟩

def ReturnsCommitted (effectId : String) (r : Except Failure (OutboundEffectResult D)) (_ : Moved D)
    (s : VeraState D) : Prop :=
  ∀ result, r = .ok result → CommittedAs effectId result.resultDigest s

theorem ReturnsCommitted.stable (r : Except Failure (OutboundEffectResult D)) :
    (steps R).Stable held (ReturnsCommitted effectId r) :=
  fun _ _ _ _ _ hs ⟨_, hd⟩ result hr => (hs result hr).step hd

variable [DecidableEq D] {args : DispatchArgs D}

omit [DecidableEq D] in
theorem settle_committed :
    Triple (steps R) held (fun _ _ => True)
      (Op.onFence (EffectFence.settle effectId (some (.lower digest)) true))
      (OnOk fun _ => CommittedAs effectId digest) := by
  refine .part _ (fun (s : VeraState D) t => { s with fence := t }) (.hist fun _ => True)
    (CommittedAs.stable.onOk) (fun h s r t _ _ hr => ?_) fun h s e _ _ _ => ?_
  · obtain ⟨row, d, hrow, -, hd, hdoes⟩ := settle_does hr
    refine ⟨trivial, ⟨_, hdoes⟩, _, hdoes.advanced (Table.get?_key hrow), rfl, ?_⟩
    cases hd
    rfl
  · exact ⟨⟨.idle, trivial, rfl⟩, trivial⟩

theorem dispatchLocked_committed {requestDigest : D} :
    Triple (steps R) held (fun _ _ => True) (dispatchLocked R args requestDigest)
      (ReturnsCommitted args.effectId) := by
  have hfree {β : Type} {p : Op D β} {T : Transition D → Prop} (hp : Within R T p) :
      Triple (steps R) held (fun _ _ => True) p fun _ _ _ => True :=
    steps_within (P := fun _ => True) (fun _ _ => trivial) hp
  refine .bind (hfree reserveEffect_within) (fun cut => .bind (hfree validate_within) (fun _ =>
    .bind (hfree claimDispatch_records) (fun executing => .bind (hfree (stage_within rfl)) (fun _ =>
    .bind (hfree runEffect_within) (fun result => .bind settle_committed (fun committed =>
    .bind (steps_within CommittedAs.step (stage_within rfl)) (fun _ => .pure (ReturnsCommitted.stable _) ?_)
    ?_) ?_) ?_) ?_) ?_) ?_) ?_
  · rintro h s - hs _ ⟨⟩
    exact hs
  all_goals exact fun _ _ _ _ _ _ => nofun

theorem dispatchVerified_committed {trust : Bool} :
    Triple (steps R) ∅ (fun _ _ => True) (dispatchVerified R trust args) (ReturnsCommitted args.effectId) := by
  have hscope {l : Lock} {held : Finset Lock} {p : Op D (OutboundEffectResult D)} (hl : l ∉ held)
      (hp : Triple (steps R) (insert l held) (fun _ _ => True) p (ReturnsCommitted args.effectId)) :
      Triple (steps R) held (fun _ _ => True) (Op.withLock l p) (ReturnsCommitted args.effectId) :=
    .withLock hl (.hist fun _ => True) ReturnsCommitted.stable (fun _ _ _ _ => trivial) hp
      (fun _ _ _ _ hs => hs) fun _ _ _ _ _ => nofun
  refine .guard (ReturnsCommitted.stable _) (fun _ _ _ _ _ _ => nofun) fun _ => .guard (ReturnsCommitted.stable _)
    (fun _ _ _ _ _ _ => nofun) fun _ => .bind (Q := fun _ _ _ => True)
    (.ofExcept (.hist fun _ => True) fun _ _ _ _ => trivial) (fun d => ?_) fun _ _ _ _ _ => nofun
  refine hscope (by decide) ?_
  cases trust with
  | false => exact dispatchLocked_committed
  | true => exact hscope (by decide) dispatchLocked_committed

end Dispatch

/-! ## The joint contract -/

def ResultCommitted (R : PcRuntime D) (s : PCState D) (row : AttemptProjection) : Prop :=
  ∃ binding digest, s.bindings.get? row.key = some binding ∧
    CommittedAs binding.prepared.effectId digest s.vera ∧ row.resultDigest = R.vera.hash.hex digest

/-- The results of the journal are those of the fence. -/
def ResultsAgree (R : PcRuntime D) (s : PCState D) : Prop :=
  ∀ row ∈ s.journal.attempts.rows, row.localState = .resultObserved → ResultCommitted R s row

def BindsMore (s s' : PCState D) : Prop :=
  ∀ key binding, s.bindings.get? key = some binding → s'.bindings.get? key = some binding

def BoundAs (prepared : PreparedPCDispatch D) (lease : PCExecutionLease) (s : PCState D) : Prop :=
  ∃ binding, s.bindings.get? lease.key = some binding ∧ binding.prepared = prepared

/-- The promise of every call: its transitions of the state directory start an effect only
after the thread's own claim, and no binding is replaced. -/
def pcDiscipline (R : PcRuntime D) : Discipline Lock (PCState D) (PCCall D) where
  inv := ResultsAgree R
  rely _ _ _ s s' := (∃ t : Transition D, t.Does R.vera s.vera s'.vera) ∧ BindsMore s s'
  guar _ h _ s s' :=
    (∃ t : Transition D, t.Does R.vera s.vera s'.vera ∧ Once (veraComponent.moves h) t) ∧
      BindsMore s s'

section Contract
variable {R : PcRuntime D} {c : PCCall D} {held : Finset Lock} {s s' : PCState D}
  {row : AttemptProjection}

theorem ResultCommitted.step (hs : ResultCommitted R s row) {t : Transition D}
    (hd : t.Does R.vera s.vera s'.vera) (hb : BindsMore s s') : ResultCommitted R s' row :=
  have ⟨binding, digest, hrow, hc, hdigest⟩ := hs
  ⟨binding, digest, hb _ _ hrow, hc.step hd, hdigest⟩

/-- What the state directory's own contracts say holds among the three stores. -/
theorem vera_lifts {fc : FenceCall D} :
    Lifts veraComponent (((onceDiscipline R.vera).contract fc).both (steps R.vera))
      ((pcDiscipline R).contract c) where
  inv _ := ⟨trivial, trivial⟩
  rely _ _ hr := ⟨trivial, hr.1⟩
  atom := by
    rintro h held s t hi - ⟨hg, hd⟩
    obtain ⟨tr, hdoes⟩ := hd
    refine ⟨fun row hrow hstate => ?_, hg, fun _ _ => id⟩
    have hcommitted : ResultCommitted R { s with vera := t } row :=
      (hi row hrow hstate).step hdoes fun _ _ => id
    exact hcommitted

theorem BoundAs.more {prepared : PreparedPCDispatch D} {lease : PCExecutionLease}
    (hs : BoundAs prepared lease s) (hb : BindsMore s s') : BoundAs prepared lease s' :=
  have ⟨binding, hrow, hp⟩ := hs
  ⟨binding, hb _ _ hrow, hp⟩

theorem BoundAs.stable {prepared : PreparedPCDispatch D} {lease : PCExecutionLease} :
    ((pcDiscipline R).contract c).Stable held fun _ => BoundAs prepared lease :=
  fun _ _ _ _ _ hs hr => hs.more hr.2

end Contract

/-! ## Steps beside the state directory -/

/-- A step that leaves the state directory alone and keeps what is known of the others. -/
structure Aside (R : PcRuntime D) (s s' : PCState D) : Prop where
  vera : s'.vera = s.vera
  more : BindsMore s s'
  agrees : ResultsAgree R s → ResultsAgree R s'

section Aside
variable {R : PcRuntime D} {c : PCCall D} {held : Finset Lock} {s s' : PCState D} {α : Type}
  {p : PCProg D α}

theorem Aside.rfl' : Aside R s s := ⟨rfl, fun _ _ => id, id⟩

theorem Aside.guar (h : Aside R s s') (moves : List (Move Lock (PCState D))) :
    ((pcDiscipline R).contract c).guar moves held s s' :=
  ⟨⟨.idle, ⟨trivial, h.vera⟩, once_of_quiet (quiet_of_emits rfl)⟩, h.more⟩

/-- The thread has not started the effect. -/
def Unstarted (effectId : String) (h : List (Move Lock (PCState D))) : Prop :=
  NotStarted effectId (veraComponent.moves h)

theorem Unstarted.aside {effectId : String} {h : List (Move Lock (PCState D))}
    (hh : Unstarted effectId h) (hs : Aside R s s') : Unstarted effectId (⟨.act, s, s'⟩ :: h) :=
  NotStarted.step (R := R.vera) (t := .idle) hh ⟨trivial, hs.vera⟩ (quiet_of_emits rfl _)

/-- Code beside the state directory keeps that the thread has started nothing, and the binding. -/
theorem aside_triple {prepared : PreparedPCDispatch D} {lease : PCExecutionLease} {effectId : String}
    (hp : p.All (Aside R)) :
    Triple ((pcDiscipline R).contract c) held
      (fun h s => Unstarted effectId h ∧ BoundAs prepared lease s) p
      fun _ h s => Unstarted effectId h ∧ BoundAs prepared lease s :=
  .segment (Contract.Stable.and (.hist _) BoundAs.stable) hp fun _ _ _ hi hs ha =>
    ⟨ha.agrees hi, ha.guar _, hs.1.aside ha, hs.2.more ha.more⟩

/-- Code beside the state directory, of which nothing more is to be known. -/
theorem aside_rest (hp : p.All (Aside R)) :
    Triple ((pcDiscipline R).contract c) held (fun _ _ => True) p fun _ _ _ => True :=
  .segment (.hist fun _ => True) hp fun _ _ _ hi _ ha => ⟨ha.agrees hi, ha.guar _, trivial⟩

theorem aside_readOnly (hp : p.ReadOnly) : p.All (Aside R) := hp.all fun _ => .rfl'

theorem aside_lift (r : Except Failure α) : (PCProg.lift r : PCProg D α).All (Aside R) :=
  Prog.All.ofExcept r

/-- A transaction of the journal that records no result. -/
theorem onJournal_aside {t : JobJournal.Txn}
    (ht : ∀ j row j', t j = .ok (row, j') → ∀ row' ∈ j'.attempts.rows,
      row'.localState = .resultObserved → row' ∈ j.attempts.rows) :
    (PCProg.onJournal t : PCProg D AttemptProjection).All (Aside R) := by
  refine .txn (fun s row s' hs => ?_) fun _ => .rfl'
  obtain ⟨⟨row', j'⟩, hj, heq⟩ := map_eq_ok.1 hs
  cases heq
  exact ⟨rfl, fun _ _ => id, fun hi r hr hstate => hi r (ht _ _ _ hj r hr hstate) hstate⟩

variable {event : EventArgs} {rt : PcccRuntime}

theorem rows_of_transition {identity : AttemptIdentity}
    {edge : JournalEdge} {j j' : JournalStore} {row row' : AttemptProjection}
    (h : JobJournal.transition rt identity event edge j = .ok (row, j'))
    (hr : row' ∈ j'.attempts.rows) : row' ∈ j.attempts.rows ∨ row' = row := by
  obtain ⟨old, hm⟩ := JobJournal.transition_ok h
  rw [Table.mem_rows] at hr ⊢
  change j'.attempts.get? row'.identity.key = some row' at hr
  by_cases hk : row'.identity.key = identity.key
  · rw [hk, hm.get?_self] at hr
    exact .inr (Option.some.inj hr).symm
  · rw [hm.get?_other hk] at hr
    exact .inl hr

theorem transition_aside {identity : AttemptIdentity}
    {edge : JournalEdge} (hedge : edge.committedState ≠ .resultObserved) :
    (PCProg.onJournal (JobJournal.transition rt identity event edge) :
      PCProg D AttemptProjection).All (Aside R) := by
  refine onJournal_aside fun j row j' h row' hr hstate => ?_
  rcases rows_of_transition h hr with hold | rfl
  · exact hold
  · obtain ⟨old, hm⟩ := JobJournal.transition_ok h
    rw [hm.next_eq] at hstate
    exact absurd hstate hedge

theorem recordClaim_aside {identity : AttemptIdentity} :
    (PCProg.onJournal (JobJournal.recordClaim rt identity event) :
      PCProg D AttemptProjection).All (Aside R) := by
  refine onJournal_aside fun j row j' h row' hr hstate => ?_
  rcases JobJournal.recordClaim_ok h with ⟨rfl, -, -⟩ | hrec
  · exact hr
  rw [Table.mem_rows] at hr ⊢
  change j'.attempts.get? row'.identity.key = some row' at hr
  by_cases hk : row'.identity.key = identity.key
  · rw [hk, hrec.get?_self] at hr
    rw [← Option.some.inj hr, hrec.row_eq] at hstate
    cases hstate
  · rw [hrec.get?_other hk] at hr
    exact hr

end Aside

theorem decode_ok [DecidableEq D] {R : PcRuntime D} {row row' : PCExecutionBinding D}
    (h : PCExecutionBindingStore.decode R row = .ok row') : row' = row := by
  simp only [PCExecutionBindingStore.decode, ite_error_ok, ↓throw_bind, bind_eq_ok, pure_ok] at h
  obtain ⟨-, _, -, _, -, -, _, -, _, -, -, -, _, -, -, _, -, h⟩ := h
  exact h

/-! ## The calls of the adapter -/

section Calls
variable [DecidableEq D] {R : PcRuntime D} {c : PCCall D} {held : Finset Lock}
  {prepared : PreparedPCDispatch D} {lease : PCExecutionLease} {identity : AttemptIdentity}
  {args : ExecuteArgs D}

omit [DecidableEq D] in
theorem journalGet_readOnly : (journalGet R identity).ReadOnly :=
  (Prog.All.ofExcept _).bind fun _ => (Prog.All.ofExcept _).bind fun _ => Prog.ReadOnly.read _

omit [DecidableEq D] in
theorem assess_readOnly : (assess R prepared lease).ReadOnly := by
  refine (Prog.All.ofExcept _).bind fun identity => journalGet_readOnly.bind fun row => ?_
  cases row with
  | none => trivial
  | some projection => exact (Prog.ReadOnly.read _).bind fun _ => trivial

omit [DecidableEq D] in
theorem requireRecovery_aside {payload : List (String × PyValue)} :
    (requireRecovery R args identity payload).All (Aside R) :=
  (aside_lift _).bind fun _ => transition_aside nofun

omit [DecidableEq D] in
theorem claimed_aside {found : Option PCExecutionRecoveryAssessment} :
    (claimed R args identity found).All (Aside R) := by
  cases found with
  | none => exact (aside_lift _).bind fun _ => recordClaim_aside
  | some found =>
    simp only [claimed]
    split
    · trivial
    split
    · split
      · exact requireRecovery_aside.bind fun _ => trivial
      · trivial
    split <;> trivial

omit [DecidableEq D] in
theorem startPreparation_aside {projection : AttemptProjection} :
    (startPreparation R args identity projection).All (Aside R) := by
  rw [startPreparation]
  split
  · trivial
  · exact (aside_lift _).bind fun _ => transition_aside nofun

/-- What an execution knows from the moment its attempt is bound: the attempt is bound to
what it executes, and the thread has not started the effect. -/
abbrev Ready (prepared : PreparedPCDispatch D) (lease : PCExecutionLease)
    (h : List (Move Lock (PCState D))) (s : PCState D) : Prop :=
  Unstarted prepared.effectId h ∧ BoundAs prepared lease s

/-- Once its attempt is bound, an execution goes on with what it is bound to. -/
theorem bind_triple :
    Triple ((pcDiscipline R).contract c) held (fun h _ => Unstarted prepared.effectId h)
      (PCProg.onBindings (PCExecutionBindingStore.bind R prepared lease))
      (OnOk (Ready prepared lease)) := by
  refine .part _ (fun (s : PCState D) t => { s with bindings := t }) (.hist _)
    (Contract.Stable.onOk (Contract.Stable.and (.hist _) BoundAs.stable))
    (fun h s row t hi hh hr => ?_) fun h s e _ _ _ => ⟨Aside.rfl'.guar (R := R) h, trivial⟩
  have hrow : t.get? lease.key = some row ∧ row.prepared = prepared ∧
      BindsMore s { s with bindings := t } := by
    rw [PCExecutionBindingStore.bind] at hr
    split at hr
    · rename_i stored hstored
      simp only [ite_error_ok, ↓throw_bind, bind_eq_ok, pure_ok, not_not] at hr
      obtain ⟨rfl, _, hdecode, hr⟩ := hr
      cases hr
      obtain rfl := decode_ok hdecode
      exact ⟨hstored, rfl, fun _ _ => id⟩
    · rename_i hnone
      simp only [ite_error_ok, ↓throw_bind, pure_ok] at hr
      obtain ⟨-, hr⟩ := hr
      cases hr
      refine ⟨Table.get?_insert_self hnone, rfl, fun key binding hb => ?_⟩
      have hk : key ≠ lease.key := fun h => by rw [h, hnone] at hb; cases hb
      exact (Table.get?_insert_other (t := s.bindings)
        (v := ⟨R.bindingDigest prepared lease, prepared, lease⟩) hk).trans hb
  obtain ⟨hrow, hprepared, hmore⟩ := hrow
  have hcommitted {r : AttemptProjection} (hr : ResultCommitted R s r) :
      ResultCommitted R { s with bindings := t } r :=
    hr.step (t := .idle) ⟨trivial, rfl⟩ hmore
  have ha : Aside R s { s with bindings := t } :=
    ⟨rfl, hmore, fun hi r hr hstate => hcommitted (hi r hr hstate)⟩
  exact ⟨ha.agrees hi, ha.guar _, hh.aside ha, row, hrow, hprepared⟩

/-- What a dispatch returns is committed, and the attempt is still bound. -/
def Dispatched (prepared : PreparedPCDispatch D) (lease : PCExecutionLease)
    (r : Except Failure (OutboundEffectResult D)) (_ : List (Move Lock (PCState D)))
    (s : PCState D) : Prop :=
  (∀ result, r = .ok result → CommittedAs prepared.effectId result.resultDigest s.vera) ∧
    BoundAs prepared lease s

omit [DecidableEq D] in
theorem Dispatched.stable (r : Except Failure (OutboundEffectResult D)) :
    ((pcDiscipline R).contract c).Stable held (Dispatched prepared lease r) :=
  fun _ _ _ _ _ hs ⟨⟨_, hd⟩, hb⟩ => ⟨fun result hr => (hs.1 result hr).step hd, hs.2.more hb⟩

/-- A dispatch of the gateway, among the three stores. -/
theorem onVera_dispatch {args : DispatchArgs D} (hid : args.effectId = prepared.effectId) :
    Triple ((pcDiscipline R).contract c) ∅ (Ready prepared lease)
      (PCProg.onVera (dispatchVerified R.vera true args)) (Dispatched prepared lease) := by
  have hcommitted : Triple (steps R.vera) ∅ (fun _ _ => True) (dispatchVerified R.vera true args)
      (ReturnsCommitted args.effectId) := dispatchVerified_committed
  have hboth := (dispatchVerified_once (R := R.vera) (c := .call .openState) true args).both hcommitted
  refine ((hboth.on (V := veraComponent) (vera_lifts (R := R) (c := c))).frame
    (F := BoundAs prepared lease) (fun _ => BoundAs.stable) fun hg hs => hs.more hg.2).conseq
    (fun h s _ hs => ⟨⟨hid ▸ hs.1, trivial⟩, hs.2⟩) fun r h s _ hs => ⟨fun result hr => ?_, hs.2⟩
  exact hid ▸ hs.1.2 result hr

attribute [local irreducible] Triple in
theorem dispatchPcJob_triple :
    Triple ((pcDiscipline R).contract c) ∅ (Ready args.prepared args.lease) (dispatchPcJob R args)
      (Dispatched args.prepared args.lease) := by
  refine .bind (aside_triple (aside_lift _)) (fun digests => onVera_dispatch rfl) ?_
  exact fun _ _ _ _ hs => ⟨nofun, hs.2⟩

omit [DecidableEq D] in
/-- A dispatch that raised returns nothing, whatever is recorded of it. -/
theorem afterFailure_triple {e : Failure} :
    Triple ((pcDiscipline R).contract c) held (Dispatched prepared lease (.error e))
      (afterFailure R args identity e) (Dispatched prepared lease) := by
  have hkeep {α : Type} {p : PCProg D α} (hp : p.All (Aside R)) :
      Triple ((pcDiscipline R).contract c) held (fun _ => BoundAs prepared lease) p
        fun _ _ => BoundAs prepared lease :=
    .segment BoundAs.stable hp fun _ _ _ hi hs ha => ⟨ha.agrees hi, ha.guar _, hs.more ha.more⟩
  have hraise {f : Failure} (h : List (Move Lock (PCState D))) (s : PCState D)
      (hs : BoundAs prepared lease s) : Dispatched prepared lease (.error f) h s := ⟨nofun, hs⟩
  have hthrow : Triple ((pcDiscipline R).contract c) held (fun _ => BoundAs prepared lease)
      (throw e) (Dispatched prepared lease) :=
    .throw (Dispatched.stable _) fun h s _ hs => hraise h s hs
  refine .conseq (A := fun _ => BoundAs prepared lease) (.bind
    (hkeep (aside_readOnly (Prog.ReadOnly.read _))) (fun effect => ?_) fun _ h s _ hs => hraise h s hs)
    (fun _ _ _ hs => hs.2) fun _ _ _ _ hs => hs
  cases effect with
  | none => exact hthrow
  | some effect =>
    dsimp only
    split
    · refine .bind (hkeep (aside_readOnly journalGet_readOnly)) (fun current => ?_)
        fun _ h s _ hs => hraise h s hs
      split
      · exact .bind (hkeep requireRecovery_aside) (fun _ => hthrow) fun _ h s _ hs => hraise h s hs
      · exact hthrow
    · exact hthrow

omit [DecidableEq D] in
theorem recordResult_triple {outbound : OutboundEffectResult D} :
    Triple ((pcDiscipline R).contract c) held
      (fun _ s => CommittedAs args.prepared.effectId outbound.resultDigest s.vera ∧
        BoundAs args.prepared args.lease s)
      (QualifiedPCExecutionAdapter.recordResult R args (attemptIdentity args.prepared args.lease) outbound)
      fun _ _ _ => True := by
  have hstable : ((pcDiscipline R).contract c).Stable held fun _ s =>
      CommittedAs args.prepared.effectId outbound.resultDigest s.vera ∧
        BoundAs args.prepared args.lease s :=
    fun _ _ _ _ _ hs ⟨⟨_, hd⟩, hb⟩ => ⟨hs.1.step hd, hs.2.more hb⟩
  refine .seq (.ofExcept (Q := fun _ _ s =>
    CommittedAs args.prepared.effectId outbound.resultDigest s.vera ∧
      BoundAs args.prepared args.lease s) hstable fun _ _ _ hs => hs) fun event => ?_
  refine .part _ (fun (s : PCState D) j => { s with journal := j }) hstable
    (fun _ => .hist fun _ => True) (fun h s row j hi hs hr => ?_)
    fun h s e _ _ _ => ⟨Aside.rfl'.guar (R := R) h, trivial⟩
  refine ⟨fun row' hr' hstate => ?_, ⟨⟨.idle, ⟨trivial, rfl⟩, once_of_quiet (quiet_of_emits rfl)⟩,
    fun _ _ => id⟩, trivial⟩
  obtain ⟨hne, edge, old, -, -, hresult, hm⟩ := recordResult_ok hr
  rw [Table.mem_rows] at hr'
  change j.attempts.get? row'.identity.key = some row' at hr'
  by_cases hk : row'.identity.key = (attemptIdentity args.prepared args.lease).key
  · rw [hk, hm.get?_self] at hr'
    obtain rfl := Option.some.inj hr'
    obtain ⟨hc, binding, hrow, hprepared⟩ := hs
    refine ⟨binding, outbound.resultDigest, ?_, hprepared ▸ hc, ?_⟩
    · rw [hm.key_eq]
      exact hrow
    · rw [hm.next_eq, AttemptProjection.moved, JournalEdge.given_result hresult, orText, if_neg hne]
  · rw [hm.get?_other hk] at hr'
    exact hi row' (Table.mem_of_get? hr') hstate

theorem execute_triple :
    Triple ((pcDiscipline R).contract c) ∅ (fun h _ => Unstarted args.prepared.effectId h)
      (QualifiedPCExecutionAdapter.execute R args) fun _ _ _ => True := by
  refine .bind (Q := fun r h _ => Unstarted args.prepared.effectId h ∧
      ∀ i, r = .ok i → i = attemptIdentity args.prepared args.lease)
    (.ofExcept (.hist _) fun h s _ hh => ⟨hh, fun i hi => ?_⟩) (fun identity => ?_)
    fun _ _ _ _ _ => trivial
  · obtain ⟨_, -, hi⟩ := bind_eq_ok.1 hi
    cases hi
    rfl
  refine .conseq (.given fun hid : identity = attemptIdentity args.prepared args.lease => ?_)
    (fun h s _ hs => ⟨hs.1, hs.2 identity rfl⟩) fun _ _ _ _ hs => hs
  subst hid
  have hready {α : Type} {p : PCProg D α} (hp : p.All (Aside R)) : Triple ((pcDiscipline R).contract c) ∅
      (fun h s => Unstarted args.prepared.effectId h ∧ BoundAs args.prepared args.lease s) p
      fun _ h s => Unstarted args.prepared.effectId h ∧ BoundAs args.prepared args.lease s := aside_triple hp
  refine .seq bind_triple fun _ => .seq (hready (aside_readOnly assess_readOnly)) fun found =>
    .seq (hready claimed_aside) fun projection => .seq (hready startPreparation_aside) fun _ =>
    .seq (Q := Dispatched args.prepared args.lease) ?_ fun outbound => ?_
  · exact .tryCatch dispatchPcJob_triple (fun e => afterFailure_triple) fun _ _ _ _ hs => hs
  · refine .seq (Q := fun _ _ _ => True) (recordResult_triple.conseq (fun _ _ _ hs =>
      ⟨hs.1 outbound rfl, hs.2⟩) fun _ _ _ _ hs => hs) fun _ => .pure (.hist fun _ => True) fun _ _ _ _ => trivial

theorem cancelReservedEffect_triple {effectId : String} :
    Triple ((pcDiscipline R).contract c) ∅ (fun _ _ => True)
      (PCProg.onVera (cancelReservedEffect R.vera effectId)) fun _ _ _ => True := by
  intro h s hi _
  have hcall : (cancelReservedEffect R.vera effectId).Locked
      (Moves R.vera (.cancelReservedEffect effectId)) ∅ ∅ :=
    cancelReservedEffect_locked fun _ ht => ht
  have hquiet {t : Transition D} (ht : (Call.cancelReservedEffect effectId).makes t) : Quiet t :=
    quiet_of_makes (fun ⟨_, _, hc⟩ => nomatch hc) (fun ⟨_, hc⟩ => nomatch hc) ht
  have hvera : Safe (((onceDiscipline R.vera).contract (.call .openState)).both (steps R.vera))
      (fun _ held _ _ => held = ∅) (cancelReservedEffect R.vera effectId) ∅ (veraComponent.moves h)
      s.vera :=
    .of_locked hcall (fun _ _ _ _ _ ⟨t, ht, _, hd⟩ =>
      ⟨⟨trivial, trivial⟩, ⟨t, hd, once_of_quiet (hquiet ht)⟩, t, hd⟩) ⟨trivial, trivial⟩
  exact (vera_lifts.safe hvera hi).mono hi fun _ _ _ _ _ hheld => ⟨hheld, trivial⟩

theorem cancelReservedAttempt_triple {args : CancelArgs D} :
    Triple ((pcDiscipline R).contract c) ∅ (fun _ _ => True) (cancelReservedAttempt R args)
      fun _ _ _ => True := by
  refine .seq (aside_rest (aside_lift _)) fun identity =>
    .seq (aside_rest (aside_readOnly assess_readOnly)) fun found => ?_
  cases found with
  | none => exact aside_rest (.throw _)
  | some found =>
    refine .guard (.hist fun _ => True) (fun _ _ _ _ _ => trivial) fun _ =>
      .seq cancelReservedEffect_triple fun cancelled =>
      .guard (.hist fun _ => True) (fun _ _ _ _ _ => trivial) fun _ =>
      .seq (aside_rest (aside_readOnly journalGet_readOnly)) fun current =>
      .guard (.hist fun _ => True) (fun _ _ _ _ _ => trivial) fun _ =>
      .seq (aside_rest (aside_lift _)) fun event => aside_rest (transition_aside nofun)

theorem pcProgram_safe (c : PCCall D) (s : PCState D) (hi : ResultsAgree R s) :
    Safe ((pcDiscipline R).contract c) (fun _ _ _ _ => True) (pcProgram R c) ∅ [] s := by
  have hsafe {P : List (Move Lock (PCState D)) → PCState D → Prop} {p : PCProg D (PCReply D)}
      {Q : Except Failure (PCReply D) → List (Move Lock (PCState D)) → PCState D → Prop}
      (hp : Triple ((pcDiscipline R).contract c) ∅ P p Q) (hP : P [] s) :
      Safe ((pcDiscipline R).contract c) (fun _ _ _ _ => True) p ∅ [] s :=
    (hp [] s hi hP).mono hi fun _ _ _ _ _ _ => trivial
  cases c with
  | execute args => exact hsafe (execute_triple.map _) fun _ hm => nomatch hm
  | cancelReservedAttempt args => exact hsafe (cancelReservedAttempt_triple.map _) trivial
  | vera call =>
    have honce := fenceProgram_once (R := R.vera) (.call call) s.vera
    have hsteps : Safe (steps R.vera) (fun _ held _ _ => held = ∅) (program R.vera call) ∅ []
        s.vera :=
      .of_locked (program_locked call) (fun _ _ _ _ _ ⟨t, _, _, hd⟩ => ⟨trivial, t, hd⟩) trivial
    refine (vera_lifts.safe (h := []) (honce.both hsteps) hi).resume hi fun r _ _ _ _ _ => ?_
    cases r with
    | ok reply => exact fun _ _ => trivial
    | error e => exact fun _ _ => trivial

theorem pcPool_sound (d : D) (es : List (Event (PCCall D))) :
    Sound (pcDiscipline R) (fun _ _ _ _ _ => True) (PCState.initial R d) (PCPool.run R d es) :=
  (Sound.init (D := pcDiscipline R) fun _ hrow => absurd hrow List.not_mem_nil).run
    { spawn := pcProgram_safe
      rely := fun _ _ _ ⟨⟨t, hd, _⟩, hb⟩ => ⟨⟨t, hd⟩, hb⟩ } es

/-- What a call does to the state directory, as a call of it. -/
def PCCall.onFence : PCCall D → FenceCall D
  | .execute args => .call (.dispatch true
      (dispatchArgs args args.prepared.jobDigest args.prepared.authorizationDigest))
  | .cancelReservedAttempt args => .call (.cancelReservedEffect args.prepared.effectId)
  | .vera call => .call call

/-- A run of the three stores is, on the state directory, one that starts effects at most once. -/
theorem pcPool_once (d : D) (es : List (Event (PCCall D))) :
    ∃ trace, Valid (onceDiscipline R.vera) (VeraState.initial R.vera.hash d) trace
      (PCPool.run R d es).store.vera :=
  ⟨_, Valid.on (D := pcDiscipline R) (V := veraComponent)
    (f := PCCall.onFence) (fun _ _ => trivial) (fun _ _ _ _ _ hg => hg.1)
    (pcPool_sound (R := R) d es).valid⟩

end Calls

/-! ## The assessment -/

section Assess
variable [DecidableEq D] {R : PcRuntime D} {prepared : PreparedPCDispatch D}
  {lease : PCExecutionLease} {s s' : PCState D} {found : PCExecutionRecoveryAssessment}

omit [DecidableEq D] in
/-- An assessment is made of the row and the receipt it reads. -/
theorem assess_ok (h : (assess R prepared lease).run s = (.ok (some found), s')) :
    ∃ projection, found =
      QualifiedPCExecutionAdapter.assessment projection prepared.effectId (s.vera.fence.get? prepared.effectId) := by
  obtain ⟨identity, -, h⟩ := Prog.run_readOnly_bind (Prog.All.ofExcept _) h
  obtain ⟨row, -, h⟩ := Prog.run_readOnly_bind journalGet_readOnly h
  cases row with
  | none => cases h
  | some projection =>
    obtain ⟨effect, he, h⟩ := Prog.run_readOnly_bind (Prog.ReadOnly.read _) h
    cases he
    cases h
    exact ⟨projection, rfl⟩

variable {projection : AttemptProjection} {effectId : String} {effect : Option (EffectReceipt D)}

omit [DecidableEq D] in
theorem assessment_replay
    (h : (QualifiedPCExecutionAdapter.assessment projection effectId effect).replayAllowed = true) :
    effect = none := by
  rw [← Option.map_eq_none_iff (f := EffectReceipt.state)]
  revert h
  rw [QualifiedPCExecutionAdapter.assessment]
  split
  · exact nofun
  split
  · exact fun _ => ‹_ ∧ _›.2
  split
  · exact fun _ => ‹_ ∧ _›.2
  split
  · exact nofun
  split <;> exact nofun

omit [DecidableEq D] in
theorem assessment_cancel
    (h : (QualifiedPCExecutionAdapter.assessment projection effectId
      effect).preDispatchCancelAllowed = true) :
    ∃ receipt, effect = some receipt ∧ receipt.state = .reserved := by
  rw [← Option.map_eq_some_iff]
  revert h
  rw [QualifiedPCExecutionAdapter.assessment]
  split
  · exact nofun
  split
  · exact nofun
  split
  · exact nofun
  split
  · exact nofun
  split
  · exact fun _ => ‹_›
  · exact nofun

end Assess

/-- What `assess` reports, and what the journal keeps, is true of the run: an attempt may be
replayed only if nothing was executed for its effect, and cancelled only if its effect is
still reserved; a job runs at most once, and an observed result is the committed one. -/
structure PcRecoverySound [DecidableEq D] (R : PcRuntime D) (s : PCState D) : Prop where
  replay : ∀ prepared lease found s',
    (assess R prepared lease).run s = (.ok (some found), s') → found.replayAllowed = true →
    s.vera.world.count (.executeStarted prepared.effectId) = 0
  cancel : ∀ prepared lease found s',
    (assess R prepared lease).run s = (.ok (some found), s') →
    found.preDispatchCancelAllowed = true →
    s.vera.world.count (.executeStarted prepared.effectId) = 0 ∧
      ∃ receipt, s.vera.fence.get? prepared.effectId = some receipt ∧ receipt.state = .reserved
  once : ∀ envelopeId : String,
    s.vera.world.count (.executeStarted ("pc:" ++ envelopeId)) ≤ 1
  result : ∀ row ∈ s.journal.attempts.rows, row.localState = .resultObserved →
    ResultCommitted R s row

/-- In every state that executions and cancellations of any attempts lead to, beside the
other calls of the state directory and with any crashes, recovery is sound. -/
theorem pc_recovery_sound [DecidableEq D] (R : PcRuntime D) (d : D) (es : List (Event (PCCall D))) :
    PcRecoverySound R (PCPool.run R d es).store := by
  obtain ⟨trace, hv⟩ := pcPool_once (R := R) d es
  refine ⟨fun prepared lease found s' h hreplay => ?_, fun prepared lease found s' h hcancel => ?_,
    fun envelopeId => (count_starts hv rfl).1, (pcPool_sound d es).inv⟩
  · obtain ⟨projection, rfl⟩ := assess_ok h
    exact unstarted_of_untouched hv rfl fun r hr => by
      rw [assessment_replay hreplay] at hr
      cases hr
  · obtain ⟨projection, rfl⟩ := assess_ok h
    obtain ⟨receipt, hrow, hstate⟩ := assessment_cancel hcancel
    refine ⟨unstarted_of_untouched hv rfl fun r hr => ?_, receipt, hrow, hstate⟩
    cases hrow.symm.trans hr
    exact hstate

end VeraMono
