import VeraMono.Proof.AtMostOnce
import VeraMono.Proof.Digestible

/-!
# What becomes of a dispatched effect

A dispatch that started its effect holds the row of the effect in `EXECUTING` until it settles it
itself, when its gateway takes the trust lock; without that lock a reconciliation may take the row
away meanwhile (`InFlight`). `Outcome` is what its call ends with: the effect settled, as committed
when the returned value has a digest and as unknown when it has none. `settle_outcome` inverts the
settlement of an effect in flight, and `after_outcome` says what the audit has of a dispatch that
is over.
-/

namespace VeraMono

open Framework Transition

variable {D : Type}

/-- The dispatch that a call makes, and whether its gateway takes the trust lock. -/
inductive Call.Runs : Call D → Bool → DispatchArgs D → Prop
  | dispatch (trust : Bool) (args : DispatchArgs D) : Runs (.dispatch trust args) trust args
  | invoke (args : InvokeArgs D) (authority : D) :
    Runs (.invoke args) false (coordinationDispatch args authority)

def Settles (effectId : String) (m : Move Lock (VeraState D)) : Prop :=
  (∃ r, m.before.fence.get? effectId = some r ∧ r.state = .executing) ∧
    ∃ r, m.after.fence.get? effectId = some r ∧ (r.state = .committed ∨ r.state = .attemptedUnknown)

def Reconciles (effectId : String) (m : Move Lock (VeraState D)) : Prop :=
  (∃ r, m.before.fence.get? effectId = some r ∧ r.state.ambiguous = true) ∧
    ∃ r, m.after.fence.get? effectId = some r ∧ r.state.reconciled = true

/-- An effect whose row is as `K` says. -/
def RowIs (effectId : String) (K : EffectReceipt D → Prop) (s : VeraState D) : Prop :=
  ∃ r, s.fence.get? effectId = some r ∧ K r

/-- An effect between its claim and its settlement: only without the trust lock may
it have been reconciled. -/
def InFlight (trust : Bool) (effectId : String) : VeraState D → Prop :=
  RowIs effectId fun r => r.state = .executing ∨ trust = false ∧ r.state.reconciled = true

variable (R : Runtime D)

/-- A receipt after its dispatch returned `v`. -/
def Ended (trust : Bool) (args : DispatchArgs D) (v : PyValue) (r : EffectReceipt D) : Prop :=
  (∃ d, resultDigest R args v = .ok d ∧ r.state = .committed ∧ r.resultDigest = some d) ∨
    ((∀ d, resultDigest R args v ≠ .ok d) ∧ (r.state = .attemptedUnknown ∨ r.state.reconciled = true)) ∨
    trust = false ∧ r.state.reconciled = true

/-- What a dispatch that started its effect ends with. -/
structure Outcome (trust : Bool) (args : DispatchArgs D) (h : Moved D) (s : VeraState D) : Prop where
  settles : (∃ m ∈ h, Settles args.effectId m) ∨
    trust = false ∧ RowIs args.effectId (fun r => r.state.reconciled = true) s
  ended : ∀ v, args.execute = .ok v → RowIs args.effectId (Ended R trust args v) s

/-- What a dispatch ends with, started or not. -/
def Due (trust : Bool) (args : DispatchArgs D) (h : Moved D) (s : VeraState D) : Prop :=
  (∃ m ∈ h, Starts args.effectId m) → Outcome R trust args h s

/-- A dispatch whose effect raised, or returned what has no digest. -/
def DispatchArgs.Failing (args : DispatchArgs D) : Prop :=
  ∀ v d, args.execute = .ok v → resultDigest R args v ≠ .ok d

/-- What every call promises of its transitions: a start is made of an effect in
flight, and only a failing dispatch leaves its outcome unknown. -/
structure Accounted (c : Call D) (held : Finset Lock) (s : VeraState D) (t : Transition D) :
    Prop where
  makes : c.makes t
  starts : ∀ e, t = .world (.executeStarted e) → ∃ trust args, c.Runs trust args ∧
    args.effectId = e ∧ InFlight trust e s ∧ (trust = true → .trust ∈ held)
  unknown : ∀ r r', t = .advance r r' → r'.state = .attemptedUnknown →
    ∃ trust args, c.Runs trust args ∧ args.effectId = r'.effectId ∧ args.Failing R

def outcomes : Protocol R where
  inv _ := True
  promise c _ held s t := Accounted R c held s t
  keeps := fun _ _ _ => trivial

variable {R} {c : Call D} {held : Finset Lock} {trust : Bool} {args : DispatchArgs D}
  {effectId : String} {s s' : VeraState D} {h : Moved D} {t : Transition D}

/-! ## Rows -/

theorem EffectState.Next.not_reconciled {a b : EffectState} (h : Next a b) :
    a.reconciled = false := by
  rcases h.not_terminal with h | h
  · rw [h]
    rfl
  · revert h
    cases a <;> decide

theorem EffectState.Next.of_unknown {b : EffectState} (h : Next .attemptedUnknown b) :
    b.reconciled = true := by
  cases h with
  | reconcile _ hs => rcases hs with rfl | rfl <;> rfl

theorem EffectState.Next.not_of_committed {b : EffectState} : ¬ Next .committed b := by
  intro h
  rcases h.not_terminal with h | h <;> cases h

/-- A property of rows that every advance keeps. -/
theorem RowIs.does {K : EffectReceipt D → Prop}
    (hK : ∀ r r', K r → EffectState.Next r.state r'.state → K r') (hs : RowIs effectId K s)
    (hd : t.Does R s s') : RowIs effectId K s' := by
  obtain ⟨r, hr, hk⟩ := hs
  rcases hd.row_advance hr with hr' | ⟨r', rfl, -, hr'⟩
  · exact ⟨r, hr', hk⟩
  · exact ⟨r', hr', hK r r' hk hd.enabled.next⟩

theorem Ended.next {v : PyValue} (r r' : EffectReceipt D) (hr : Ended R trust args v r)
    (hn : EffectState.Next r.state r'.state) : Ended R trust args v r' := by
  rcases hr with ⟨d, -, hs, -⟩ | ⟨hv, hs | hs⟩ | ⟨-, hs⟩
  · exact absurd (hs ▸ hn) EffectState.Next.not_of_committed
  · exact .inr (.inl ⟨hv, .inr (hs ▸ hn).of_unknown⟩)
  · rw [hn.not_reconciled] at hs
    cases hs
  · rw [hn.not_reconciled] at hs
    cases hs

theorem reconciled_next (r r' : EffectReceipt D) (hr : r.state.reconciled = true)
    (hn : EffectState.Next r.state r'.state) : r'.state.reconciled = true := by
  rw [hn.not_reconciled] at hr
  cases hr

theorem inFlight_stable (V : Protocol R) (hl : gatewayLocks trust ⊆ held) :
    (V.contract c).Stable held fun _ s => InFlight trust effectId s := by
  rintro h s s' - - ⟨r, hr, hs⟩ ⟨t, hd, hlock⟩
  rcases hd.row_advance hr with hr' | ⟨r', rfl, -, hr'⟩
  · exact ⟨r, hr', hs⟩
  · refine ⟨r', hr', .inr ?_⟩
    cases hrec : r'.state.reconciled with
    | false => exact absurd (hl (lifecycle_mem_gatewayLocks trust)) (hlock _ (lock_advance hrec))
    | true =>
      refine ⟨?_, rfl⟩
      cases trust with
      | false => rfl
      | true => exact absurd (hl (by decide)) (hlock .trust (by simp [lock, hrec]))

theorem Outcome.does {m : Move Lock (VeraState D)} (ho : Outcome R trust args h s)
    (hd : t.Does R s s') : Outcome R trust args (m :: h) s' where
  settles := ho.settles.imp (fun ⟨m, hm, hs⟩ => ⟨m, List.mem_cons_of_mem _ hm, hs⟩)
    fun ⟨ht, hs⟩ => ⟨ht, hs.does reconciled_next hd⟩
  ended v hv := (ho.ended v hv).does Ended.next hd

theorem outcome_stable (V : Protocol R) :
    (V.contract c).Stable held fun h s => Outcome R trust args h s := by
  rintro h s s' - - ⟨hsettles, hended⟩ ⟨t, hd, -⟩
  exact ⟨hsettles.imp id fun ⟨ht, hs⟩ => ⟨ht, hs.does reconciled_next hd⟩,
    fun v hv => (hended v hv).does Ended.next hd⟩

theorem due_stable (V : Protocol R) :
    (V.contract c).Stable held fun h s => Due R trust args h s :=
  fun h s s' hi hi' hs hr hstart => outcome_stable V h s s' hi hi' (hs hstart) hr

theorem starts_lock {k : Kind Lock} (hs : Starts effectId ⟨k, s, s⟩) : False :=
  absurd (congrArg List.length (show s.world = _ from hs)) (by simp)

theorem due_lockFree : LockFree fun (h : Moved D) s => Due R trust args h s := by
  rintro k h s - hd ⟨m, hm, hs⟩
  rcases List.mem_cons.1 hm with rfl | hm
  · exact (starts_lock hs).elim
  · obtain ⟨hsettles, hended⟩ := hd ⟨m, hm, hs⟩
    exact ⟨hsettles.imp (fun ⟨m, hm, hs⟩ => ⟨m, List.mem_cons_of_mem _ hm, hs⟩) id, hended⟩

theorem due_of_notStarted (hh : NotStarted args.effectId h) : Due R trust args h s :=
  fun ⟨m, hm, hs⟩ => (hh m hm hs).elim

/-! ## The promise of a dispatch -/

theorem accounted_of_makes (hm : c.makes t) (hq : Quiet t) (ha : ∀ r r', t ≠ .advance r r') :
    Accounted R c held s t := ⟨hm, fun e he => absurd he (hq e), fun r r' h => absurd h (ha r r')⟩

theorem Call.Runs.makes (hc : c.Runs trust args) (ht : dispatches args.effectId t) : c.makes t := by
  cases hc with
  | dispatch => exact ht
  | invoke => exact .inl ht

theorem prepares_quiet (ht : prepares effectId t) : Quiet t := by
  cases t with
  | world => exact ht.elim
  | _ => exact quiet_of_emits rfl

theorem prepares_accounted (hc : c.Runs trust args) (ht : prepares args.effectId t) :
    Accounted R c held s t := by
  refine accounted_of_makes (hc.makes (dispatches_of_records t (records_of_prepares t ht)))
    (prepares_quiet ht) ?_
  rintro r r' rfl
  exact ht

section Dispatch
variable {α : Type} {p : Op D α}

theorem prepares_outcome (hc : c.Runs trust args) (hl : .lifecycle ∈ held)
    (hp : Within R (prepares args.effectId) p) {P : Moved D → VeraState D → Prop}
    (hP : ((outcomes R).contract c).Stable held P)
    (hstep : ∀ h s s' t, prepares args.effectId t → t.Does R s s' → P h s → P (⟨.act, s, s'⟩ :: h) s') :
    Triple ((outcomes R).contract c) held P p fun _ => P :=
  Protocol.within hp hP fun h s s' t _ hs ht hd =>
    ⟨lock_held (prepares_under _) hl ht, prepares_accounted hc ht, hstep h s s' t ht hd hs⟩

theorem InFlight.prepares (hs : InFlight trust effectId s) (ht : prepares effectId t)
    (hd : t.Does R s s') : InFlight trust effectId s' := by
  obtain ⟨r, hr, hs⟩ := hs
  rcases hd.row_advance hr with hr' | ⟨r', rfl, -, -⟩
  · exact ⟨r, hr', hs⟩
  · exact ht.elim

theorem claimDispatch_outcome [DecidableEq D] {cut : EffectFence.EvidenceCut D}
    (hc : c.Runs trust args) :
    Triple ((outcomes R).contract c) (gatewayLocks trust) (fun h _ => NotStarted args.effectId h)
      (claimDispatch args.effectId cut)
      fun r h s => NotStarted args.effectId h ∧ ∀ a, r = .ok a → InFlight trust args.effectId s := by
  have hl := lifecycle_mem_gatewayLocks trust
  refine .bind (Q := fun r h _ => NotStarted args.effectId h ∧ ∀ a, r = .ok a → a.effectId = args.effectId)
    (Protocol.part _ (fun (s : VeraState D) t => { s with fence := t }) (.hist _) (fun _ => .hist _)
      (fun h s r t' _ hh hr => ?_) fun h s e _ hh hr => ?_)
    (fun requested => Protocol.part _ (fun (s : VeraState D) t => { s with fence := t }) (.hist _)
      (fun r => (Contract.Stable.hist _).and (.forall fun a => .imp (inFlight_stable _ subset_rfl)))
      (fun h s r t' _ hh hr => ?_) fun h s e _ hh hr => ?_)
    fun e h s _ hh => ⟨hh.1, fun _ ha => nomatch ha⟩
  · obtain ⟨-, hid, t, ht, hd⟩ := reserve_does (R := R) hr
    have hp : prepares args.effectId t := by
      rcases ht with rfl | rfl
      · trivial
      · exact hid
    exact ⟨t, hd, lock_held (prepares_under _) hl hp, prepares_accounted hc hp,
      hh.step hd (prepares_quiet hp _), fun a ha => by cases ha; exact hid⟩
  · exact ⟨prepares_accounted hc trivial, hh.step (t := .idle) (R := R) ⟨trivial, rfl⟩ nofun,
      fun _ ha => nomatch ha⟩
  · obtain ⟨row, hrow, hs, hd⟩ := claim_does (R := R) hr
    rw [hh.2 requested rfl] at hrow
    have hm : dispatches args.effectId (.advance row { row with state := .executing }) :=
      show EffectState.reconciled .executing = false from rfl
    refine ⟨_, hd, lock_held (dispatches_under _) hl hm,
      ⟨hc.makes hm, nofun, fun r r' hrr hu => ?_⟩, hh.1.step hd nofun, fun a _ => ?_⟩
    · cases hrr
      cases hu
    · exact ⟨_, hd.advanced (Table.get?_key hrow), .inl rfl⟩
  · exact ⟨prepares_accounted hc trivial,
      hh.1.step (t := .idle) (R := R) ⟨trivial, rfl⟩ nofun, fun _ ha => nomatch ha⟩

/-- An effect in flight can be settled, unless it was reconciled. -/
theorem settle_error [DecidableEq D] {result : Option D} {e : Failure}
    (hid : effectId ≠ "") (hs : InFlight trust effectId s)
    (he : EffectFence.settle effectId (result.map .lower) result.isSome s.fence = .error e) :
    trust = false ∧ RowIs effectId (fun r => r.state.reconciled = true) s := by
  obtain ⟨r, hr, hs | ⟨ht, hs⟩⟩ := hs
  · cases result <;> simp [EffectFence.settle, requireText, hid, hr, hs, bind, Except.bind, pure,
      Except.pure] at he
  · exact ⟨ht, r, hr, hs⟩

/-- A settlement of an effect in flight is its dispatch's own, or the effect was
reconciled before it. -/
theorem settle_outcome [DecidableEq D] (result : Option D) (hc : c.Runs trust args)
    (hid : args.effectId ≠ "")
    (hunknown : result = none → args.Failing R)
    (hknown : ∀ d, result = some d → ∀ v, args.execute = .ok v → resultDigest R args v = .ok d) :
    Triple ((outcomes R).contract c) (gatewayLocks trust)
      (fun _ s => InFlight trust args.effectId s)
      (Op.onFence (EffectFence.settle args.effectId (result.map .lower) result.isSome))
      fun _ h s => Outcome R trust args h s := by
  have hl := lifecycle_mem_gatewayLocks trust
  refine Protocol.part _ (fun (s : VeraState D) t => { s with fence := t }) (inFlight_stable _ subset_rfl)
    (fun _ => outcome_stable _) (fun h s r t' _ hs hr => ?_) fun h s e _ hs hr => ?_
  · obtain ⟨row, d, hrow, hexec, hd', hd⟩ := settle_does (R := R) hr
    have hkey := Table.get?_key hrow
    have hm : dispatches args.effectId
        (.advance row (EffectFence.settled row d result.isSome)) := by
      change (EffectFence.settled row d result.isSome).state.reconciled = false
      cases result <;> rfl
    have hrow' := hd.advanced hkey
    refine ⟨_, hd, lock_held (dispatches_under _) hl hm, ⟨hc.makes hm, nofun, fun r r' hrr hu => ?_⟩,
      .inl ⟨_, List.mem_cons_self, ⟨row, hrow, hexec⟩, _, hrow', ?_⟩, fun v hv => ⟨_, hrow', ?_⟩⟩
    · cases hrr
      refine ⟨trust, args, hc, hkey.symm, hunknown ?_⟩
      cases result with
      | none => rfl
      | some => cases hu
    · cases result
      · exact .inr rfl
      · exact .inl rfl
    · cases result with
      | none => exact .inr (.inl ⟨fun d hd => hunknown rfl v d hv hd, .inl rfl⟩)
      | some d' =>
        cases hd'
        exact .inl ⟨d', hknown d' rfl v hv, rfl, rfl⟩
  · have hrec := settle_error hid hs hr
    obtain ⟨ht, r, hrow, hrs⟩ := hrec
    exact ⟨prepares_accounted hc trivial, .inr ⟨ht, r, hrow, hrs⟩,
      fun v _ => ⟨r, hrow, .inr (.inr ⟨ht, hrs⟩)⟩⟩

/-- The audit events of a dispatch that is over. -/
theorem after_outcome (hc : c.Runs trust args) {p : Op D α} (hp : Within R (prepares args.effectId) p) :
    Triple ((outcomes R).contract c) (gatewayLocks trust) (fun h s => Outcome R trust args h s) p
      fun _ h s => Outcome R trust args h s :=
  prepares_outcome hc (lifecycle_mem_gatewayLocks trust) hp (outcome_stable _)
    fun _ _ _ _ _ hd ho => ho.does hd

theorem emit_outcome {e : WorldEvent D} (hc : c.Runs trust args)
    (he : e = .executeStarted args.effectId ∨ e = .executeReturned args.effectId ∨
      e = .executeRaised args.effectId) :
    Triple ((outcomes R).contract c) (gatewayLocks trust) (fun _ s => InFlight trust args.effectId s)
      (Op.emit e) fun r _ s => InFlight trust args.effectId s ∧ r = .ok () := by
  refine Protocol.emit (inFlight_stable _ subset_rfl) (fun _ => (inFlight_stable _ subset_rfl).and (.hist _))
    (lifecycle_mem_gatewayLocks trust) fun h s _ hs =>
      ⟨⟨hc.makes he, fun e' he' => ?_, nofun⟩, hs, rfl⟩
  cases he'
  rcases he with he | he | he <;> cases he
  exact ⟨trust, args, hc, rfl, hs, fun ht => by subst ht; decide⟩

theorem execute_outcome (hc : c.Runs trust args) :
    Triple ((outcomes R).contract c) (gatewayLocks trust) (fun _ s => InFlight trust args.effectId s)
      (execute args) fun r _ s => InFlight trust args.effectId s ∧ args.execute = r := by
  have hpost (r : Except Failure PyValue) : ((outcomes R).contract c).Stable (gatewayLocks trust)
      fun _ s => InFlight trust args.effectId s ∧ args.execute = r := (inFlight_stable _ subset_rfl).and (.hist _)
  refine .bind (emit_outcome hc (.inl rfl)) (fun _ => ?_) fun e h s _ hs => nomatch hs.2
  cases hx : args.execute with
  | ok value =>
    exact .given fun _ => .bind (emit_outcome hc (.inr (.inl rfl))) (fun _ => .pure (hx ▸ hpost _) fun _ _ _ hs =>
      ⟨hs.1, rfl⟩) fun e h s _ hs => nomatch hs.2
  | error e =>
    exact .given fun _ => .bind (emit_outcome hc (.inr (.inr rfl))) (fun _ => .throw (hx ▸ hpost _) fun _ _ _ hs =>
      ⟨hs.1, rfl⟩) fun e h s _ hs => nomatch hs.2

variable [DecidableEq D]

/-- The effect has run: it is in flight and its result has a digest, or it is settled. -/
def EffectRan (R : Runtime D) (trust : Bool) (args : DispatchArgs D) :
    Except Failure (PyValue × D) → Moved D → VeraState D → Prop
  | .ok (value, digest) => fun _ s => InFlight trust args.effectId s ∧ args.execute = .ok value ∧
      resultDigest R args value = .ok digest
  | .error _ => fun h s => Outcome R trust args h s

theorem runEffect_outcome (hc : c.Runs trust args) (hid : args.effectId ≠ "") :
    Triple ((outcomes R).contract c) (gatewayLocks trust) (fun _ s => InFlight trust args.effectId s)
      (runEffect R args) (EffectRan R trust args) := by
  -- the body: the effect and the digest of what it returned
  have hbody : Triple ((outcomes R).contract c) (gatewayLocks trust)
      (fun _ s => InFlight trust args.effectId s)
      (do let value ← execute args
          let digest ← Op.lift (resultDigest R args value)
          return (value, digest))
      fun r _ s => InFlight trust args.effectId s ∧ match r with
        | .ok (value, digest) => args.execute = .ok value ∧ resultDigest R args value = .ok digest
        | .error _ => args.Failing R := by
    refine .bind (execute_outcome hc) (fun value => ?_) fun e h s _ hs => ⟨hs.1, fun v d hv => ?_⟩
    · refine .bind (Q := fun r _ s => InFlight trust args.effectId s ∧ args.execute = .ok value ∧
          resultDigest R args value = r)
        (.ofExcept ((inFlight_stable _ subset_rfl).and (.hist _)) fun h s _ hs => ⟨hs.1, hs.2, rfl⟩)
        (fun digest => .pure ((inFlight_stable _ subset_rfl).and (.hist _)) fun _ _ _ hs => hs)
        fun e h s _ hs => ⟨hs.1, fun v d hv hd => ?_⟩
      cases hs.2.1.symm.trans hv
      cases hs.2.2.symm.trans hd
    · cases hs.2.symm.trans hv
  refine .tryCatch hbody (fun e => ?_) fun (value, digest) h s _ hs => hs
  -- the handler: the outcome is recorded as unknown
  refine .given fun hfailing => ?_
  exact .bind (settle_outcome none hc hid (fun _ => hfailing) nofun)
    (fun unknown => .bind (after_outcome hc (stage_prepares rfl)) (fun _ =>
      .throw (outcome_stable _) fun _ _ _ hs => hs) fun _ _ _ _ hs => hs) fun _ _ _ _ hs => hs

theorem dispatchReserved_outcome {requestDigest : D} {cut : EffectFence.EvidenceCut D}
    (hc : c.Runs trust args) (hid : args.effectId ≠ "") :
    Triple ((outcomes R).contract c) (gatewayLocks trust) (fun h _ => NotStarted args.effectId h)
      (dispatchReserved R args requestDigest cut) fun _ h s => Due R trust args h s := by
  have hl := lifecycle_mem_gatewayLocks trust
  refine .bind (prepares_outcome hc hl validate_prepares (.hist _) fun _ _ _ _ ht hd hh =>
    hh.step hd (prepares_quiet ht _)) (fun _ => ?_) fun _ _ _ _ hh => due_of_notStarted hh
  refine .bind (claimDispatch_outcome hc) (fun executing => ?_) fun _ _ _ _ hh =>
    due_of_notStarted hh.1
  -- from the claim on the effect is in flight
  refine Triple.conseq (A := fun h s => InFlight trust args.effectId s ∧ NotStarted args.effectId h)
    ?_ (fun _ _ _ hs => ⟨hs.2 executing rfl, hs.1⟩) fun _ _ _ _ hq => hq
  refine .bind (prepares_outcome hc hl (stage_prepares rfl)
    ((inFlight_stable _ subset_rfl).and (.hist fun h => NotStarted args.effectId h))
    fun _ _ _ _ ht hd hs => ⟨hs.1.prepares ht hd, hs.2.step hd (prepares_quiet ht _)⟩)
    (fun _ => ?_) fun _ _ _ _ hs => due_of_notStarted hs.2
  refine .bind (Triple.conseq (runEffect_outcome hc hid) (fun _ _ _ hs => hs.1)
    fun _ _ _ _ hq => hq) (fun (value, digest) => ?_) fun _ _ _ _ ho _ => ho
  refine Triple.conseq (A := fun _ s => InFlight trust args.effectId s ∧ (args.execute = .ok value ∧
    resultDigest R args value = .ok digest)) (.given fun hran => ?_) (fun _ _ _ hs => hs)
    fun _ _ _ _ (ho : Outcome R trust args _ _) _ => ho
  refine .bind (settle_outcome (some digest) hc hid nofun fun d hd v hv => ?_) (fun committed =>
    .bind (after_outcome hc (stage_prepares rfl)) (fun _ => .pure (outcome_stable _)
      fun _ _ _ ho => ho) fun _ _ _ _ ho => ho) fun _ _ _ _ ho => ho
  cases hd
  cases hran.1.symm.trans hv
  exact hran.2

theorem dispatchVerified_outcome (hc : c.Runs trust args) :
    Triple ((outcomes R).contract c) ∅ (fun h _ => NotStarted args.effectId h)
      (dispatchVerified R trust args) fun _ h s => Due R trust args h s := by
  refine dispatchVerified_triple (fun _ => .hist _) (fun _ => due_stable _)
    (fun _ _ hh => due_of_notStarted hh) notStarted_lockFree due_lockFree fun hid d => ?_
  exact .bind (prepares_outcome hc (lifecycle_mem_gatewayLocks trust) reserveEffect_prepares
    (.hist _) fun _ _ _ _ ht hd hh => hh.step hd (prepares_quiet ht _))
    (fun cut => dispatchReserved_outcome hc hid) fun _ _ _ _ hh => due_of_notStarted hh

omit [DecidableEq D] in
theorem not_unknown_of_makes {r r' : EffectReceipt D} (hd : ¬ ∃ trust args, c = .dispatch trust args)
    (hi : ¬ ∃ args, c = .invoke args) (hm : c.makes (.advance r r')) :
    r'.state ≠ .attemptedUnknown := by
  intro hu
  cases c with
  | dispatch trust args => exact hd ⟨trust, args, rfl⟩
  | invoke args => exact hi ⟨args, rfl⟩
  | cancelReservedEffect => rw [show r'.state = _ from hm] at hu; cases hu
  | cancelReservedCommand =>
    rcases hm with hm | hm
    · rw [show r'.state = _ from hm] at hu; cases hu
    · exact hm
  | reconcile => exact absurd hm.2 (by rw [hu]; decide)
  | reconstruct | resumeContext => exact hm.elim id id
  | admitRecord => rcases hm with hm | ⟨m, hm⟩ <;> cases hm
  | replaceControlSource => rcases hm with hm | hm <;> cases hm
  | validateActionPermit => cases hm
  | _ => exact hm

omit [DecidableEq D] in
/-- The dispatch of a command is due the same whatever its authority digest. -/
theorem Due.authority {args : InvokeArgs D} {a : D} (b : D)
    (hd : Due R false (coordinationDispatch args a) h s) :
    Due R false (coordinationDispatch args b) h s :=
  fun hs => ⟨(hd hs).settles, (hd hs).ended⟩

/-- What a call ends with: the outcome of the dispatch it made. -/
def outcomePost (R : Runtime D) (c : Call D) : Post Lock (VeraState D) Failure (Reply D) :=
  fun _ _ h s => ∀ trust args, c.Runs trust args → Due R trust args h s

theorem program_outcome (c : Call D) (s : VeraState D) :
    Safe ((outcomes R).contract c) (outcomePost R c) (program R c) ∅ [] s := by
  have hnone (e : String) : NotStarted (D := D) e [] := fun _ hm => nomatch hm
  by_cases hd : ∃ trust args, c = .dispatch trust args
  · obtain ⟨trust, args, rfl⟩ := hd
    refine ((dispatchVerified_outcome (.dispatch trust args)).map Reply.effect [] s trivial
      (hnone _)).mono trivial ?_
    rintro r held h s - ⟨-, r', -, hdue⟩ trust' args' ⟨⟩
    exact hdue
  by_cases hi : ∃ args, c = .invoke args
  · obtain ⟨args, rfl⟩ := hi
    have hinvoke : Triple ((outcomes R).contract (.invoke args)) ∅
        (fun h _ => NotStarted ("coordination:" ++ args.commandId) h) (invoke R args)
        fun _ h s => ∀ a, Due R false (coordinationDispatch args a) h s := by
      refine invoke_triple (fun _ => .hist _) (fun _ => .forall fun _ => due_stable _)
        (fun h s hh a => show Due R false (coordinationDispatch args a) h s from due_of_notStarted hh)
        (fun h s s' t _ ht hd => ?_) fun a => (dispatchVerified_outcome (.invoke args a)).conseq
          (fun _ _ _ hh => hh) fun _ _ _ _ hdue b => hdue.authority b
      have hq : Quiet t := by rcases ht with rfl | ⟨j, rfl⟩ <;> exact quiet_of_emits rfl
      have hacc : Accounted R (.invoke args) ∅ s t := by
        refine accounted_of_makes (ht.elim (fun h => h ▸ .inl trivial) .inr) hq ?_
        rintro r r' rfl
        rcases ht with ht | ⟨j, ht⟩ <;> cases ht
      refine ⟨trivial, ⟨t, hd, ?_, hacc⟩, fun hh => hh.step hd (hq _), fun hdue a ⟨m, hm, hs⟩ => ?_⟩
      · rcases ht with rfl | ⟨j, rfl⟩ <;> exact nofun
      · rcases List.mem_cons.1 hm with rfl | hm
        · exact (hq _ (Starts.transition hd hs)).elim
        · exact (hdue a ⟨m, hm, hs⟩).does hd
    refine (hinvoke.map Reply.effect [] s trivial (hnone _)).mono trivial ?_
    rintro r held h s - ⟨-, r', -, hdue⟩ trust' args' ⟨⟩
    exact hdue _
  · refine (Protocol.safe_of_makes (V := outcomes R) (fun h held s t _ hm _ _ => ?_) trivial).mono
      trivial fun r held h s _ _ trust args hc => ?_
    · refine ⟨hm, fun e he => absurd he (quiet_of_makes hd hi hm e), fun r r' hrr hu => ?_⟩
      exact absurd hu (not_unknown_of_makes hd hi (hrr ▸ hm))
    · cases hc with
      | dispatch => exact absurd ⟨_, _, rfl⟩ hd
      | invoke => exact absurd ⟨_, rfl⟩ hi

end Dispatch

end VeraMono
