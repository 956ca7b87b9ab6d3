import VeraMono.Model.Sample
import VeraMono.Proof.Outcome

/-!
# Dispatches in a run

The outcome of every dispatch that a run finishes, and what a reconciliation can do to one that is
still running. A value without a canonical form turns an effect that succeeded into an unknown one;
and the coordination gateway, which does not take the trust lock, may lose its effect to a
reconciliation while the effect runs. `running_inFlight` is what holds during `execute`;
`outcome_classified` and `live_dispatch_undisturbed` are the two results, and
`float_outcome_unknown` and `coordination_effect_reconciled` the runs that show their conditions.
-/

namespace VeraMono

open Framework Transition

variable {D : Type} [DecidableEq D] {R : Runtime D} {s₀ s s' : VeraState D} {effectId : String}
  {trace : List (Step Lock (VeraState D) (Call D))}

theorem outcomes_sound (R : Runtime D) (d : D) (es : List (Event (Call D))) :
    Sound (outcomes R).discipline (outcomePost R) (VeraState.initial R.hash d)
      (VeraPool.run R d es) :=
  Protocol.sound (V := outcomes R) (fun c s _ => program_outcome c s) d trivial es

omit [DecidableEq D] in
theorem resultDigest_ok_iff (args : DispatchArgs D) {v : PyValue} :
    (∃ d, resultDigest R args v = .ok d) ↔ PyValue.digestible R.py .plain v = true := by
  rw [← actionValue_ok_iff]
  simp only [resultDigest, bind_eq_ok]
  constructor
  · rintro ⟨d, j, hj, -⟩
    exact ⟨j, hj⟩
  · rintro ⟨j, hj⟩
    exact ⟨_, j, hj, rfl⟩

/-- The effect of a dispatch is committed with the digest of `v`. -/
def CommittedWith (R : Runtime D) (args : DispatchArgs D) (v : PyValue) : VeraState D → Prop :=
  RowIs args.effectId fun r => r.state = .committed ∧
    ∃ d, resultDigest R args v = .ok d ∧ r.resultDigest = some d

def LeavesUnknown (effectId : String) (m : Move Lock (VeraState D)) : Prop :=
  (∀ r, m.before.fence.get? effectId = some r → r.state ≠ .attemptedUnknown) ∧
    ∃ r, m.after.fence.get? effectId = some r ∧ r.state = .attemptedUnknown

/-! ## Steps of a run -/

omit [DecidableEq D] in
theorem reconcile_of_makes {c : Call D} {r r' : EffectReceipt D} (hm : c.makes (.advance r r'))
    (hr : r'.state.reconciled = true) : ∃ args, c = .reconcile args ∧ args.effectId = r.effectId := by
  have hfalse (h : r'.state.reconciled = false) : False := by rw [h] at hr; cases hr
  cases c with
  | dispatch => exact (hfalse hm).elim
  | invoke => exact hm.elim (fun hm => (hfalse hm).elim) fun ⟨_, hm⟩ => nomatch hm
  | cancelReservedEffect => rw [show r'.state = _ from hm] at hr; cases hr
  | cancelReservedCommand =>
    rcases hm with hm | hm
    · rw [show r'.state = _ from hm] at hr; cases hr
    · exact hm.elim
  | reconcile args => exact ⟨args, rfl, hm.1.symm⟩
  | reconstruct | resumeContext => exact (hm.elim id id : False).elim
  | admitRecord => rcases hm with hm | ⟨m, hm⟩ <;> cases hm
  | replaceControlSource => rcases hm with hm | hm <;> cases hm
  | validateActionPermit => cases hm
  | _ => exact (hm : False).elim

omit [DecidableEq D] in
theorem reconciled_step (h : Valid (outcomes R).discipline s₀ trace s)
    (h₀ : s₀.fence.get? effectId = none)
    (hs : RowIs effectId (fun r => r.state.reconciled = true) s) :
    ∃ st ∈ trace, Reconciles effectId st.move ∧
      ∃ args, st.call = .reconcile args ∧ args.effectId = effectId := by
  induction h with
  | init =>
    obtain ⟨r, hr, -⟩ := hs
    cases h₀.symm.trans hr
  | lock i c k _ _ ih =>
    obtain ⟨st, hst, hrest⟩ := ih hs
    exact ⟨st, List.mem_cons_of_mem _ hst, hrest⟩
  | @act trace s s' i c hv _ hg ih =>
    obtain ⟨t, hd, -, hp⟩ := hg
    obtain ⟨r', hr', hrec⟩ := hs
    have hrow := hd.row effectId
    rw [hr'] at hrow
    generalize hr : s.fence.get? effectId = row at hrow
    cases hrow with
    | same =>
      obtain ⟨st, hst, hrest⟩ := ih ⟨r', hr, hrec⟩
      exact ⟨st, List.mem_cons_of_mem _ hst, hrest⟩
    | reserve hres =>
      rw [hres] at hrec
      cases hrec
    | @advance r _ hcut hnext =>
      refine ⟨_, List.mem_cons_self, ⟨⟨r, hr, hnext.of_reconciled hrec⟩, r', hr', hrec⟩, ?_⟩
      rcases hd.row_advance hr with hsame | ⟨r'', rfl, -, hr''⟩
      · cases hsame.symm.trans hr'
        rw [hnext.not_reconciled] at hrec
        cases hrec
      · cases hr''.symm.trans hr'
        obtain ⟨args, hc, hid⟩ := reconcile_of_makes hp.makes hrec
        exact ⟨args, hc, hid.trans (Table.get?_key hr)⟩

omit [DecidableEq D] in
theorem reconciled_persists {st : Step Lock (VeraState D) (Call D)}
    (h : Valid (outcomes R).discipline s₀ trace s) (hst : st ∈ trace)
    (hs : RowIs effectId (fun r => r.state.reconciled = true) st.move.after) :
    RowIs effectId (fun r => r.state.reconciled = true) s := by
  refine h.persist (P := RowIs effectId fun r => r.state.reconciled = true) ?_ hst hs
  rintro c h held s s' - ⟨t, hd, -⟩ hs
  exact hs.does reconciled_next hd

omit [DecidableEq D] in
theorem leavesUnknown_step {st : Step Lock (VeraState D) (Call D)}
    (h : Valid (outcomes R).discipline s₀ trace s) (hst : st ∈ trace)
    (hu : LeavesUnknown effectId st.move) :
    ∃ trust args, st.call.Runs trust args ∧ args.effectId = effectId ∧ args.Failing R := by
  obtain ⟨hbefore, r', hr', hs'⟩ := hu
  obtain ⟨later, earlier, rfl⟩ := List.append_of_mem hst
  by_cases hk : st.move.kind = .act
  · obtain ⟨t, hd, -, hp⟩ := h.split.2.2 hk
    have hrow := hd.row effectId
    rw [hr'] at hrow
    generalize hr : st.move.before.fence.get? effectId = row at hrow
    cases hrow with
    | same => exact absurd hs' (hbefore r' hr)
    | reserve hres =>
      rw [hres] at hs'
      cases hs'
    | @advance r _ _ hnext =>
      rcases hd.row_advance hr with hsame | ⟨r'', rfl, hid, hr''⟩
      · cases hsame.symm.trans hr'
        exact absurd hs' (hbefore r' hr)
      · cases hr''.symm.trans hr'
        obtain ⟨trust, args, hc, he, hf⟩ := hp.unknown _ _ rfl hs'
        exact ⟨trust, args, hc, he.trans hid, hf⟩
  · rw [h.lock_move hst hk] at hr'
    exact absurd hs' (hbefore r' hr')

omit [DecidableEq D] in
theorem Call.Runs.unique {c : Call D} {trust trust' : Bool} {args args' : DispatchArgs D}
    (hc : c.Runs trust args) (hc' : c.Runs trust' args') : trust' = trust := by
  cases hc <;> cases hc' <;> rfl

omit [DecidableEq D] in
/-- While `execute` runs, the effect is in flight. -/
theorem running_inFlight {Q : Call D → Post Lock (VeraState D) Failure (Reply D)}
    {P : VeraPool D} (hP : Sound (outcomes R).discipline Q s₀ P) {i : Nat} {c : Call D}
    {p : Op D (Reply D)} {m : Move Lock (VeraState D)} {rest : Moved D} {trust : Bool}
    {args : DispatchArgs D} (hc : c.Runs trust args) (hi : P.thread i = some ⟨c, some p⟩)
    (hm : hist i P.trace = m :: rest) (hs : Starts args.effectId m) :
    InFlight trust args.effectId P.store := by
  obtain ⟨later, st, earlier, htrace, rfl, rfl, rfl⟩ := hist_split hm
  have hv := hP.valid
  have hst : st ∈ P.trace := by simp [htrace]
  have hcall : st.call = c := by
    obtain ⟨t, ht, hcall⟩ := hP.calls st hst
    cases ht.symm.trans hi
    exact hcall.symm
  have hk : st.move.kind = .act := by
    by_contra hk
    suffices Starts args.effectId ⟨st.move.kind, st.move.before, st.move.before⟩ from starts_lock this
    have := hv.lock_move hst hk
    rw [Starts, this] at hs
    exact hs
  obtain ⟨t, hd, hlock, hp⟩ := (htrace ▸ hv).split.2.2 hk
  obtain rfl := Starts.transition hd (k := .act) hs
  obtain ⟨trust', args', hc', he, hflight, hheld⟩ := hp.starts _ rfl
  obtain rfl := hc.unique (hcall ▸ hc')
  -- since the start only the others have moved, and this thread holds its locks
  have hsince := hP.since _ c p _ _ hi hm
  have hholding : holding (st.move :: hist st.thread earlier) = holding (hist st.thread earlier) := by
    rw [holding, hk]
  rw [hP.held _ c p hi, hm, hholding] at hsince
  refine Contract.Stable.env (inFlight_stable (outcomes R) fun l hl => ?_)
    (show InFlight _ _ st.move.after by rw [hd.eq]; exact hflight) hsince
  cases l with
  | lifecycle => exact hlock _ rfl
  | trust =>
    refine hheld ?_
    revert hl
    cases trust' <;> decide

omit [DecidableEq D] in
theorem due_of_ended {P : VeraPool D} (hP : Sound (outcomes R).discipline (outcomePost R) s₀ P)
    {i : Nat} {c : Call D} {p : Op D (Reply D)} {trust : Bool} {args : DispatchArgs D}
    (hi : P.thread i = some ⟨c, some p⟩) (hend : p.ended = true) (hc : c.Runs trust args) :
    Due R trust args (hist i P.trace) P.store := by
  have hsafe := hP.safe i c p hi
  cases p with
  | ret | raise => exact hsafe _ .refl trust args hc
  | _ => cases hend

/-! ## Outcome classification -/

/-- Every dispatch that a run finishes with its effect started and returned leaves
the effect committed with the digest of the returned value exactly when the value is
digestible and nothing reconciled the effect meanwhile, which the trust lock rules
out; and only a dispatch that raised, or returned what is not digestible, leaves an
effect unknown. -/
theorem outcome_classified (R : Runtime D) (d : D) (es : List (Event (Call D))) :
    (∀ i c trust args v, (VeraPool.run R d es).Finished i c → Call.Runs c trust args →
        args.execute = .ok v →
        (∃ m ∈ hist i (VeraPool.run R d es).trace, Starts args.effectId m) →
      (CommittedWith R args v (VeraPool.run R d es).store ↔
        PyValue.digestible R.py .plain v = true ∧
          (trust = true ∨ ∀ st ∈ (VeraPool.run R d es).trace, ¬ Reconciles args.effectId st.move))) ∧
      ∀ st ∈ (VeraPool.run R d es).trace, ∀ effectId, LeavesUnknown effectId st.move →
        ∃ trust args, st.call.Runs trust args ∧ args.effectId = effectId ∧
          ∀ v, args.execute = .ok v → PyValue.digestible R.py .plain v = false := by
  have hP := outcomes_sound R d es
  refine ⟨fun i c trust args v ⟨p, hi, hend⟩ hc hv hstart => ?_, fun st hst effectId hu => ?_⟩
  · obtain ⟨r, hr, hended⟩ := (due_of_ended hP hi hend hc hstart).ended v hv
    constructor
    · rintro ⟨r', hr', hs', d', hd', -⟩
      refine ⟨(resultDigest_ok_iff args).1 ⟨d', hd'⟩, .inr fun st hst hrec => ?_⟩
      obtain ⟨r'', hr'', hrec''⟩ := reconciled_persists hP.valid hst hrec.2
      cases hr''.symm.trans hr'
      rw [hs'] at hrec''
      cases hrec''
    · rintro ⟨hdig, hquiet⟩
      obtain ⟨d', hd'⟩ := (resultDigest_ok_iff args).2 hdig
      rcases hended with ⟨d'', hd'', hs, hrd⟩ | ⟨hnone, -⟩ | ⟨rfl, hrec⟩
      · exact ⟨r, hr, hs, d'', hd'', hrd⟩
      · exact absurd hd' (hnone d')
      · obtain ⟨st, hst, hst', -⟩ := reconciled_step hP.valid rfl ⟨r, hr, hrec⟩
        rcases hquiet with h | h
        · cases h
        · exact absurd hst' (h st hst)
  · obtain ⟨trust, args, hc, he, hf⟩ := leavesUnknown_step hP.valid hst hu
    refine ⟨trust, args, hc, he, fun v hv => Bool.eq_false_iff.2 fun hdig => ?_⟩
    obtain ⟨d', hd'⟩ := (resultDigest_ok_iff args).2 hdig
    exact hf v d' hv hd'

def floatDispatch : DispatchArgs Nat where
  permit := samplePermit
  effectId := "e"
  effectKind := "k"
  requestPayload := .none
  verifyAuthority := .ok ⟨.lower 1, .none⟩
  execute := .ok (.float (some (3 / 2)))

/-- The run of that dispatch: its effect is left unknown. -/
theorem floatRun_facts :
    ((VeraPool.run sample 0 (calledRun (.dispatch true floatDispatch) 90)).store.fence.get?
      "e").map EffectReceipt.state = some .attemptedUnknown ∧
    (VeraPool.run sample 0 (calledRun (.dispatch true floatDispatch) 90)).ended 2 = true ∧
    ∃ m ∈ hist 2 (VeraPool.run sample 0 (calledRun (.dispatch true floatDispatch) 90)).trace, Starts "e" m := by
  decide +kernel

theorem floatRun_finished : (VeraPool.run sample 0 (calledRun (.dispatch true floatDispatch) 90)).Finished 2
    (.dispatch true floatDispatch) :=
  Pool.finished_run (by simp [calledRun, acceptedRun]) floatRun_facts.2.1

/-- The effect of a dispatch that returned a float is left unknown. -/
theorem float_outcome_unknown : ¬ ∀ (es : List (Event (Call Nat))) i c trust args v,
    (VeraPool.run sample 0 es).Finished i c → Call.Runs c trust args → args.execute = .ok v →
    (∃ m ∈ hist i (VeraPool.run sample 0 es).trace, Starts args.effectId m) →
    CommittedWith sample args v (VeraPool.run sample 0 es).store := by
  intro h
  obtain ⟨hstate, -, hstarts⟩ := floatRun_facts
  obtain ⟨r, hr, hs, -⟩ := h _ 2 _ true floatDispatch _ floatRun_finished (.dispatch true floatDispatch) rfl hstarts
  rw [show (VeraPool.run sample 0 _).store.fence.get? "e" = _ from hr] at hstate
  cases hs.symm.trans (Option.some.inj hstate)

/-! ## Reconciliation under a live dispatch -/

/-- No call of the run reconciles the effect. -/
def NoReconcile (effectId : String) (trace : List (Step Lock (VeraState D) (Call D))) : Prop :=
  ∀ st ∈ trace, ∀ args, st.call = .reconcile args → args.effectId ≠ effectId

omit [DecidableEq D] in
theorem not_reconciled (h : Valid (outcomes R).discipline s₀ trace s)
    (h₀ : s₀.fence.get? effectId = none) (hn : NoReconcile effectId trace) :
    ¬ RowIs effectId (fun r => r.state.reconciled = true) s := by
  intro hs
  obtain ⟨st, hst, -, args, hc, hid⟩ := reconciled_step h h₀ hs
  exact hn st hst args hc hid

/-- A dispatch whose gateway takes the trust lock, or whose effect no call of the run
reconciles, keeps its effect in `EXECUTING` while `execute` runs and settles it itself;
an effect that returned is then not found to have had no effect, unless its value was
not digestible and a reconciliation of what was left unknown said so. -/
theorem live_dispatch_undisturbed (R : Runtime D) (d : D) (es : List (Event (Call D))) (i : Nat)
    (c : Call D) (trust : Bool) (args : DispatchArgs D) (hc : c.Runs trust args)
    (hsafe : trust = true ∨ NoReconcile args.effectId (VeraPool.run R d es).trace) :
    (∀ p m rest, (VeraPool.run R d es).thread i = some ⟨c, some p⟩ →
        hist i (VeraPool.run R d es).trace = m :: rest → Starts args.effectId m →
        RowIs args.effectId (fun r => r.state = .executing) (VeraPool.run R d es).store) ∧
      ((VeraPool.run R d es).Finished i c →
        (∃ m ∈ hist i (VeraPool.run R d es).trace, Starts args.effectId m) →
        (∃ m ∈ hist i (VeraPool.run R d es).trace, Settles args.effectId m) ∧
        ∀ v, args.execute = .ok v →
          (PyValue.digestible R.py .plain v = true ∨
            NoReconcile args.effectId (VeraPool.run R d es).trace) →
          ¬ RowIs args.effectId (fun r => r.state = .reconciledNoEffect)
            (VeraPool.run R d es).store) := by
  have hP := outcomes_sound R d es
  have hnot (ht : trust = false) :
      ¬ RowIs args.effectId (fun r => r.state.reconciled = true) (VeraPool.run R d es).store := by
    rcases hsafe with rfl | hn
    · cases ht
    · exact not_reconciled hP.valid rfl hn
  refine ⟨fun p m rest hi hm hs => ?_, fun ⟨p, hi, hend⟩ hstart => ?_⟩
  · obtain ⟨r, hr, hs | ⟨ht, hrec⟩⟩ := running_inFlight hP hc hi hm hs
    · exact ⟨r, hr, hs⟩
    · exact (hnot ht ⟨r, hr, hrec⟩).elim
  · obtain ⟨hsettles, hended⟩ := due_of_ended hP hi hend hc hstart
    refine ⟨hsettles.resolve_right fun ⟨ht, hs⟩ => hnot ht hs, fun v hv hdig => ?_⟩
    rintro ⟨r, hr, hnone⟩
    have hrec : RowIs args.effectId (fun r => r.state.reconciled = true)
        (VeraPool.run R d es).store := ⟨r, hr, show r.state.reconciled = true by rw [hnone]; rfl⟩
    rcases hdig with hdig | hn
    · obtain ⟨d', hd'⟩ := (resultDigest_ok_iff args).2 hdig
      obtain ⟨r', hr', hended⟩ := hended v hv
      cases hr.symm.trans hr'
      rcases hended with ⟨_, -, hs, -⟩ | ⟨hno, -⟩ | ⟨ht, -⟩
      · cases hs.symm.trans hnone
      · exact hno d' hd'
      · exact hnot ht hrec
    · exact not_reconciled hP.valid rfl hn hrec

theorem live_dispatch_undisturbed_float :
    ∃ m ∈ hist 2 (VeraPool.run sample 0 (calledRun (.dispatch true floatDispatch) 90)).trace,
      Settles "e" m :=
  ((live_dispatch_undisturbed sample 0 _ 2 _ true floatDispatch (.dispatch true floatDispatch)
    (.inl rfl)).2 floatRun_finished floatRun_facts.2.2).1

/-- A coordination command that returned. -/
def sampleInvoke : InvokeArgs Nat where
  command := "post"
  commandId := "m"
  permit := samplePermit
  actor := .none
  actorWorkstream := "w"
  args := .none
  kwargs := .none
  taskDependency := .none
  execute := .ok .none
  receipt := none

/-- An operator's verified finding that the command had no effect. -/
def noEffect : ReconcileArgs Nat where
  effectId := "coordination:m"
  proof := ⟨"", "a", "", ""⟩
  effectOccurred := false
  resultDigest := none
  authorityId := "a"
  trustReceipt := .ok ⟨"", "a", "", none, 0, 0, "", 0, 0, 0, 0⟩
  verify := fun _ => true

/-- The command starts its effect, the finding is recorded, and the command goes on. -/
def disturbedRun : List (Event (Call Nat)) :=
  calledRun (.invoke sampleInvoke) 65 ++ .spawn 3 (.reconcile noEffect) :: moves 3 20 ++ moves 2 30

theorem disturbedRun_facts :
    ((VeraPool.run sample 0 disturbedRun).store.fence.get? "coordination:m").map EffectReceipt.state =
      some .reconciledNoEffect ∧
    (VeraPool.run sample 0 disturbedRun).ended 2 = true ∧
    ∃ m ∈ hist 2 (VeraPool.run sample 0 disturbedRun).trace, Starts "coordination:m" m := by
  decide +kernel

/-- Under the coordination gateway an effect that returned may end as one without effect. -/
theorem coordination_effect_reconciled : ¬ ∀ (es : List (Event (Call Nat))) i c trust args,
    Call.Runs c trust args → (VeraPool.run sample 0 es).Finished i c →
    (∃ m ∈ hist i (VeraPool.run sample 0 es).trace, Starts args.effectId m) →
    ∀ v, args.execute = .ok v →
      ¬ RowIs args.effectId (fun r => r.state = .reconciledNoEffect)
        (VeraPool.run sample 0 es).store := by
  intro h
  obtain ⟨hstate, hended, hstarts⟩ := disturbedRun_facts
  have hfin : (VeraPool.run sample 0 disturbedRun).Finished 2 (.invoke sampleInvoke) :=
    Pool.finished_run (by simp [disturbedRun, calledRun, acceptedRun]) hended
  refine h _ 2 _ false (coordinationDispatch sampleInvoke 0) (.invoke sampleInvoke 0) hfin hstarts .none rfl ?_
  obtain ⟨r, hr, hs⟩ := Option.map_eq_some_iff.1 hstate
  exact ⟨r, hr, hs⟩

end VeraMono
