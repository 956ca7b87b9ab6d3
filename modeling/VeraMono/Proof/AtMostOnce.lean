import VeraMono.Proof.Protocol

/-!
# An effect runs at most once

The calls of the state directory together with direct calls of the fence, in any
interleaving and with any crashes. A dispatch promises to start an effect only
after its own claim of it and only once (`Once`); no two claims of an effect
succeed in one run, since no row comes back to `RESERVED`, so no two starts do.
-/

namespace VeraMono

open Framework Transition

variable {D : Type}

inductive FenceCall (D : Type)
  | call (c : Call D)
  | settle (effectId : String) (resultDigest : Option (DigestText D)) (completionKnown : Bool)
  | reconcileUnknown (effectId : String) (effectOccurred : Bool)
      (resultDigest : Option (DigestText D)) (evidence : DigestText D)

def fenceProgram [DecidableEq D] (R : Runtime D) : FenceCall D → Op D (Reply D)
  | .call c => program R c
  | .settle effectId resultDigest completionKnown =>
    (Op.onFence (EffectFence.settle effectId resultDigest completionKnown)).map .receipt
  | .reconcileUnknown effectId effectOccurred resultDigest evidence =>
    (Op.onFence (EffectFence.reconcileUnknown effectId effectOccurred resultDigest evidence)).map
      .receipt

/-- The pool of such calls after a list of events, from a new state directory. -/
def FencePool.run [DecidableEq D] (R : Runtime D) (controlSourceDigest : D)
    (es : List (Event (FenceCall D))) :
    Pool Lock (VeraState D) Failure (Reply D) (FenceCall D) :=
  Pool.run (fenceProgram R) (Pool.init (VeraState.initial R.hash controlSourceDigest)) es

/-- A step that invokes `execute` for an effect. -/
def Starts (effectId : String) (m : Move Lock (VeraState D)) : Prop :=
  m.after.world = .executeStarted effectId :: m.before.world

instance [DecidableEq D] (effectId : String) (m : Move Lock (VeraState D)) :
    Decidable (Starts effectId m) := inferInstanceAs (Decidable (_ = _))

/-- A step that moves an effect from `RESERVED` to `EXECUTING`. -/
def Claims (effectId : String) (m : Move Lock (VeraState D)) : Prop :=
  (∃ r, m.before.fence.get? effectId = some r ∧ r.state = .reserved) ∧
    ∃ r, m.after.fence.get? effectId = some r ∧ r.state = .executing

/-- An effect that is not reserved, or not yet claimed. -/
def Untouched (effectId : String) (s : VeraState D) : Prop :=
  ∀ r, s.fence.get? effectId = some r → r.state = .reserved

/-- A start of an effect is made after the thread's own claim, and is its first. -/
def Once (h : Moved D) (t : Transition D) : Prop :=
  ∀ effectId, t = .world (.executeStarted effectId) →
    (∃ m ∈ h, Claims effectId m) ∧ ∀ m ∈ h, ¬ Starts effectId m

/-- The promise of every call: `Once`. Nothing is assumed of the others. -/
def onceDiscipline (R : Runtime D) : Discipline Lock (VeraState D) (FenceCall D) where
  inv _ := True
  rely _ _ _ _ _ := True
  guar _ h _ s s' := ∃ t, t.Does R s s' ∧ Once h t

variable {R : Runtime D} {effectId : String} {s s' : VeraState D} {t : Transition D}

theorem Starts.transition (h : t.Does R s s') {k : Kind Lock} (hs : Starts effectId ⟨k, s, s'⟩) :
    t = .world (.executeStarted effectId) := by
  have hw : t.emits ++ s.world = .executeStarted effectId :: s.world := h.world_eq.symm.trans hs
  have he : t.emits = [.executeStarted effectId] := List.append_cancel_right hw
  cases t with
  | world e => rw [List.cons.inj he |>.1]
  | _ => cases he

theorem touched_of_does (h : t.Does R s s') (hs : ¬ Untouched effectId s) :
    ¬ Untouched effectId s' := by
  intro hu
  refine hs fun r hr => ?_
  have hrow := h.row effectId
  rw [hr] at hrow
  generalize hs'' : s'.fence.get? effectId = row at hrow
  cases hrow with
  | same => exact hu r hs''
  | advance _ hnext => exact absurd (hu _ hs'') hnext.not_reserved

theorem Claims.untouched {m : Move Lock (VeraState D)} (h : Claims effectId m) :
    Untouched effectId m.before := by
  obtain ⟨⟨r, hr, hs⟩, -⟩ := h
  intro r' hr'
  cases hr.symm.trans hr'
  exact hs

theorem Claims.touched {m : Move Lock (VeraState D)} (h : Claims effectId m) :
    ¬ Untouched effectId m.after := by
  obtain ⟨-, r, hr, hs⟩ := h
  intro hu
  have := hu r hr
  rw [hs] at this
  cases this

/-! ## The promise of a dispatch -/

def NotStarted (effectId : String) (h : Moved D) : Prop := ∀ m ∈ h, ¬ Starts effectId m

/-- A thread that has claimed the effect and not started it. -/
def Claimed (effectId : String) (h : Moved D) : Prop :=
  NotStarted effectId h ∧ ∃ m ∈ h, Claims effectId m

theorem NotStarted.step {h : Moved D} (hh : NotStarted effectId h) (hd : t.Does R s s')
    (ht : t ≠ .world (.executeStarted effectId)) : NotStarted effectId (⟨.act, s, s'⟩ :: h) := by
  intro m hm
  rcases List.mem_cons.1 hm with rfl | hm
  · exact fun hs => ht (Starts.transition hd hs)
  · exact hh m hm

theorem Claimed.step {h : Moved D} (hh : Claimed effectId h) (hd : t.Does R s s')
    (ht : t ≠ .world (.executeStarted effectId)) : Claimed effectId (⟨.act, s, s'⟩ :: h) :=
  have ⟨m, hm, hc⟩ := hh.2
  ⟨hh.1.step hd ht, m, List.mem_cons_of_mem _ hm, hc⟩

/-- A transition that starts no effect. -/
def Quiet (t : Transition D) : Prop := ∀ e, t ≠ .world (.executeStarted e)

theorem quiet_of_emits (ht : t.emits = []) : Quiet t := by
  rintro e rfl
  cases ht

theorem once_of_quiet {h : Moved D} (ht : Quiet t) : Once h t :=
  fun e he => absurd he (ht e)

section Dispatch
variable {c : FenceCall D} {held : Finset Lock} {α : Type} {T : Transition D → Prop} {p : Op D α}

/-- A lock-free routine without starts keeps what it knows of the thread's own moves. -/
theorem once_within {P : Moved D → Prop} (hp : Within R T p)
    (hT : ∀ t, T t → Quiet t)
    (hP : ∀ h s s' t, T t → t.Does R s s' → P h → P (⟨.act, s, s'⟩ :: h)) :
    Triple ((onceDiscipline R).contract c) held (fun h _ => P h) p fun _ h _ => P h :=
  .segment (.hist P) hp fun h s s' _ hh ⟨t, ht, hd⟩ =>
    ⟨trivial, ⟨t, hd, once_of_quiet (hT t ht)⟩, hP h s s' t ht hd hh⟩

variable [DecidableEq D]

theorem claimDispatch_once {cut : EffectFence.EvidenceCut D} :
    Triple ((onceDiscipline R).contract c) held (fun h _ => NotStarted effectId h)
      (claimDispatch effectId cut)
      fun r h _ => match r with
        | .ok _ => Claimed effectId h
        | .error _ => True := by
  refine .bind (Q := fun r h _ => NotStarted effectId h ∧ ∀ a, r = .ok a → a.effectId = effectId)
    (.part _ (fun (s : VeraState D) t => { s with fence := t }) (.hist _) (fun _ => .hist _)
      (fun h s r t' _ hh hr => ?_) fun h s e _ hh hr => ?_)
    (fun requested => .part _ (fun (s : VeraState D) t => { s with fence := t }) (.hist _)
      (fun r => .hist _) (fun h s r t' _ hh hr => ?_) fun h s e _ hh hr => ?_)
    fun _ _ _ _ _ => trivial
  · obtain ⟨-, hid, t, ht, hd⟩ := reserve_does hr
    have hne : Quiet t := by rcases ht with rfl | rfl <;> exact quiet_of_emits rfl
    exact ⟨trivial, ⟨t, hd, once_of_quiet hne⟩, hh.step hd (hne _), fun a ha => by cases ha; exact hid⟩
  · have hd : (.idle : Transition D).Does R s s := ⟨trivial, rfl⟩
    exact ⟨⟨.idle, hd, once_of_quiet (quiet_of_emits rfl)⟩, hh.step hd (quiet_of_emits rfl _),
      fun _ ha => nomatch ha⟩
  · obtain ⟨row, hrow, hs, hd⟩ := claim_does hr
    rw [hh.2 requested rfl] at hrow
    refine ⟨trivial, ⟨_, hd, once_of_quiet (quiet_of_emits rfl)⟩,
      hh.1.step hd (quiet_of_emits rfl _), _, List.mem_cons_self, ⟨row, hrow, hs⟩, { row with state := .executing }, ?_, rfl⟩
    obtain rfl : row.effectId = effectId := Table.get?_key hrow
    rw [hd.eq]
    exact Table.get?_update_self hrow
  · exact ⟨⟨.idle, ⟨trivial, rfl⟩, once_of_quiet (quiet_of_emits rfl)⟩, trivial⟩

omit [DecidableEq D] in
theorem records_quiet {e : String} (ht : records e t) : Quiet t := by
  cases t with
  | world => exact ht.elim
  | _ => exact quiet_of_emits rfl

omit [DecidableEq D] in
theorem once_rest {P : Moved D → VeraState D → Prop}
    (hp : Within R Quiet p) : Triple ((onceDiscipline R).contract c) held P p fun _ _ _ => True :=
  (once_within (P := fun _ => True) hp (fun _ ht => ht) fun _ _ _ _ _ _ _ => trivial).conseq
    (fun _ _ _ _ => trivial) fun _ _ _ _ _ => trivial

omit [DecidableEq D] in
theorem execute_once {args : DispatchArgs D} :
    Triple ((onceDiscipline R).contract c) held (fun h _ => Claimed args.effectId h)
      (execute args) fun _ _ _ => True := by
  refine Triple.seq (Q := fun _ _ _ => True) ?_ fun _ => once_rest ?_
  · refine .txn (.hist _) (fun _ => .hist _) (fun h s _ s' _ hh hr => ?_) fun _ _ _ _ _ hr => nomatch hr
    cases hr
    refine ⟨trivial, ⟨.world (.executeStarted args.effectId), ⟨trivial, rfl⟩, fun e he => ?_⟩, trivial⟩
    cases he
    exact ⟨hh.2, hh.1⟩
  · cases args.execute with
    | ok value => exact .bind (.emit (quiet_of_emits rfl) fun _ h => nomatch h) fun _ => .pure _
    | error e => exact .bind (.emit (quiet_of_emits rfl) fun _ h => nomatch h) fun _ => .throw e

theorem runEffect_once {args : DispatchArgs D} :
    Triple ((onceDiscipline R).contract c) held (fun h _ => Claimed args.effectId h)
      (runEffect R args) fun _ _ _ => True := by
  refine .tryCatch (Q := fun _ _ _ => True) ?_
    (fun e => once_rest (.mono (fun _ => records_quiet (e := args.effectId)) ?_))
    fun _ _ _ _ _ => trivial
  · exact Triple.seq execute_once fun _ => once_rest (.bind (.lift _) fun _ => .pure _)
  · exact .bind settle_records fun _ => .bind (stage_within rfl) fun _ => .throw e

theorem dispatchLocked_once {args : DispatchArgs D} {requestDigest : D} :
    Triple ((onceDiscipline R).contract c) held (fun h _ => NotStarted args.effectId h)
      (dispatchLocked R args requestDigest) fun _ _ _ => True := by
  have hquiet {β : Type} {p : Op D β} (hp : Within R (records args.effectId) p) :
      Triple ((onceDiscipline R).contract c) held (fun h _ => NotStarted args.effectId h) p
        fun _ h _ => NotStarted args.effectId h :=
    once_within hp (fun _ => records_quiet) fun _ _ _ _ ht hd hh => hh.step hd (records_quiet ht _)
  have hstage {β : Type} {p : Op D β} (hp : Within R (records args.effectId) p) :
      Triple ((onceDiscipline R).contract c) held (fun h _ => Claimed args.effectId h) p
        fun _ h _ => Claimed args.effectId h :=
    once_within hp (fun _ => records_quiet) fun _ _ _ _ ht hd hh => hh.step hd (records_quiet ht _)
  refine Triple.seq (hquiet reserveEffect_within) fun cut => Triple.seq (hquiet validate_within)
    fun _ => Triple.seq claimDispatch_once fun executing => Triple.seq (hstage (stage_within rfl))
    fun _ => Triple.seq runEffect_once fun r => once_rest (.mono (fun _ => records_quiet (e := args.effectId)) ?_)
  exact .bind settle_records fun _ => .bind (stage_within rfl) fun _ => .pure _

omit [DecidableEq D] in
theorem notStarted_lockFree : LockFree fun (h : Moved D) _ => NotStarted effectId h := by
  intro k h s _ hh m hm
  rcases List.mem_cons.1 hm with rfl | hm
  · exact fun hs => absurd (congrArg List.length (show s.world = _ from hs)) (by simp)
  · exact hh m hm

theorem dispatchVerified_once (trust : Bool) (args : DispatchArgs D) :
    Triple ((onceDiscipline R).contract c) ∅ (fun h _ => NotStarted args.effectId h)
      (dispatchVerified R trust args) fun _ _ _ => True :=
  dispatchVerified_triple (fun _ => .hist _) (fun _ => .hist fun _ => True) (fun _ _ _ => trivial)
    notStarted_lockFree (fun _ _ _ _ _ => trivial) fun _ _ => dispatchLocked_once

theorem invoke_once {args : InvokeArgs D} :
    Triple ((onceDiscipline R).contract c) ∅ (fun h _ => NotStarted ("coordination:" ++ args.commandId) h)
      (invoke R args) fun _ _ _ => True := by
  refine invoke_triple (fun _ => .hist _) (fun _ => .hist fun _ => True) (fun _ _ _ => trivial)
    (fun h s s' t _ ht hd => ?_) fun d => dispatchVerified_once false (coordinationDispatch args d)
  have hq : Quiet t := by rcases ht with rfl | ⟨j, rfl⟩ <;> exact quiet_of_emits rfl
  exact ⟨trivial, ⟨t, hd, once_of_quiet hq⟩, fun hh => hh.step hd (hq _), fun _ => trivial⟩

end Dispatch

/-! ## The run -/

section Run
variable [DecidableEq D]

omit [DecidableEq D] in
theorem quiet_of_makes {c : Call D} (hd : ¬ ∃ trust args, c = .dispatch trust args)
    (hi : ¬ ∃ args, c = .invoke args) (ht : c.makes t) : Quiet t := by
  rintro e rfl
  cases c with
  | dispatch trust args => exact hd ⟨trust, args, rfl⟩
  | invoke args => exact hi ⟨args, rfl⟩
  | cancelReservedCommand | resumeContext | reconstruct => exact ht.elim id id
  | admitRecord | replaceControlSource => rcases ht with ht | ht <;> simp at ht
  | validateActionPermit => cases ht
  | _ => exact ht

theorem fenceProgram_once (c : FenceCall D) (s : VeraState D) :
    Safe ((onceDiscipline R).contract c) (fun _ _ _ _ => True) (fenceProgram R c) ∅ [] s := by
  have hnone (e : String) : NotStarted (D := D) e [] := fun _ hm => nomatch hm
  have hsafe {P : Moved D → VeraState D → Prop} {p : Op D (Reply D)}
      {Q : Except Failure (Reply D) → Moved D → VeraState D → Prop}
      (hp : Triple ((onceDiscipline R).contract c) ∅ P p Q) (hP : P [] s) :
      Safe ((onceDiscipline R).contract c) (fun _ _ _ _ => True) p ∅ [] s :=
    (hp [] s trivial hP).mono trivial fun _ _ _ _ _ _ => trivial
  have hfence {f : EffectFence D → Except Failure (EffectReceipt D × EffectFence D)}
      (hf : Within R Quiet (Op.onFence f)) :
      Safe ((onceDiscipline R).contract c) (fun _ _ _ _ => True) ((Op.onFence f).map Reply.receipt) ∅ [] s :=
    hsafe (P := fun _ _ => True) (once_rest (hf.map _)) trivial
  cases c with
  | settle effectId result known => exact hfence (settle_within (quiet_of_emits rfl) fun _ _ _ => quiet_of_emits rfl)
  | reconcileUnknown effectId occurred result evidence =>
    refine hfence (onFence_within (quiet_of_emits rfl) fun s r t' h => ?_)
    obtain ⟨row, -, -, -, hd⟩ := reconcile_does h
    exact ⟨_, quiet_of_emits rfl, hd⟩
  | call c =>
    by_cases hd : ∃ trust args, c = .dispatch trust args
    · obtain ⟨trust, args, rfl⟩ := hd
      exact hsafe ((dispatchVerified_once _ _).map _) (hnone _)
    by_cases hi : ∃ args, c = .invoke args
    · obtain ⟨args, rfl⟩ := hi
      exact hsafe (invoke_once.map _) (hnone _)
    refine (Safe.of_locked (program_locked c) (fun _ _ _ _ _ ⟨t, ht, _, hd'⟩ => ?_) trivial).mono
      trivial fun _ _ _ _ _ _ => trivial
    exact ⟨trivial, t, hd', once_of_quiet (quiet_of_makes hd hi ht)⟩

theorem fencePool_sound (d : D) (es : List (Event (FenceCall D))) :
    Sound (onceDiscipline R) (fun _ _ _ _ _ => True) (VeraState.initial R.hash d)
      (FencePool.run R d es) :=
  (Sound.init trivial).run
    { spawn := fun c s _ => fenceProgram_once c s, rely := fun _ _ _ _ => trivial } es

end Run

section Trace
variable {s₀ : VeraState D} {trace : List (Step Lock (VeraState D) (FenceCall D))}
  {st : Step Lock (VeraState D) (FenceCall D)}

theorem touched_step {c : FenceCall D} {h : Moved D} {held : Finset Lock} {s s' : VeraState D}
    (hg : (onceDiscipline R).guar c h held s s') (hs : ¬ Untouched effectId s) :
    ¬ Untouched effectId s' := by
  obtain ⟨t, hd, -⟩ := hg
  exact touched_of_does hd hs

theorem claim_unique (h : Valid (onceDiscipline R) s₀ (st :: trace) s)
    (hc : Claims effectId st.move) : ∀ st' ∈ trace, ¬ Claims effectId st'.move := by
  intro st' hst' hc'
  have hv := h.init_trace
  exact hv.persist (P := fun s => ¬ Untouched effectId s) (fun _ _ _ _ _ _ => touched_step) hst'
    hc'.touched hc.untouched

/-- A thread starts an effect only after its own claim, and before that claim the
effect was never anything but reserved. -/
theorem own_claim (h : Valid (onceDiscipline R) s₀ (st :: trace) s)
    (hs : Starts effectId st.move) :
    (∀ m ∈ hist st.thread trace, ¬ Starts effectId m) ∧
    ∃ after claim before, trace = after ++ claim :: before ∧ claim.thread = st.thread ∧
      Claims effectId claim.move ∧ ∀ st' ∈ before, Untouched effectId st'.move.before := by
  cases h with
  | lock i c k hk hv => exact absurd (congrArg List.length (show s.world = _ from hs)) (by simp)
  | act i c hv _ hg =>
    obtain ⟨t, hd, honce⟩ := hg
    obtain ⟨⟨m, hm, hc⟩, hfirst⟩ := honce effectId (Starts.transition hd hs)
    obtain ⟨claim, hmem, hthread, rfl⟩ := mem_hist.1 hm
    obtain ⟨after, before, rfl⟩ := List.append_of_mem hmem
    refine ⟨hfirst, after, claim, before, rfl, hthread, hc, fun st' hst' => ?_⟩
    by_contra hu
    exact hv.split.1.persist_before (P := fun s => ¬ Untouched effectId s)
      (fun _ _ _ _ _ _ => touched_step) hst' hu hc.untouched

theorem claims_thread {a b : Step Lock (VeraState D) (FenceCall D)}
    (h : Valid (onceDiscipline R) s₀ trace s) (ha : a ∈ trace) (hb : b ∈ trace)
    (hca : Claims effectId a.move) (hcb : Claims effectId b.move) : a.thread = b.thread := by
  induction trace generalizing s with
  | nil => cases ha
  | cons st trace ih =>
    rcases List.mem_cons.1 ha with rfl | ha'
    · rcases List.mem_cons.1 hb with rfl | hb
      · rfl
      · exact absurd hcb (claim_unique h hca b hb)
    · rcases List.mem_cons.1 hb with rfl | hb
      · exact absurd hca (claim_unique h hcb a ha')
      · exact ih h.init_trace ha' hb

theorem start_unique (h : Valid (onceDiscipline R) s₀ (st :: trace) s)
    (hs : Starts effectId st.move) : ∀ st' ∈ trace, ¬ Starts effectId st'.move := by
  intro st' hst' hs'
  obtain ⟨hfirst, after, claim, before, rfl, hthread, hc, -⟩ := own_claim h hs
  have hv := h.init_trace
  obtain ⟨later, earlier, hsplit⟩ := List.append_of_mem hst'
  obtain ⟨-, hv', -⟩ := Valid.split (hsplit ▸ hv)
  obtain ⟨-, after', claim', before', rfl, hthread', hc', -⟩ := own_claim hv' hs'
  have hsame := claims_thread hv (a := claim) (b := claim') (by simp) (by rw [hsplit]; simp) hc hc'
  exact hfirst _ (mem_hist.2 ⟨st', hst', by rw [← hthread', ← hsame, hthread], rfl⟩) hs'

/-- The log of the world has as many starts of an effect as the trace, at most one. -/
theorem count_starts [DecidableEq D] (h : Valid (onceDiscipline R) s₀ trace s)
    (h₀ : s₀.world.count (.executeStarted effectId) = 0) :
    s.world.count (.executeStarted effectId) ≤ 1 ∧
      (s.world.count (.executeStarted effectId) ≠ 0 → ∃ st ∈ trace, Starts effectId st.move) := by
  induction h with
  | init => exact ⟨by omega, fun h => absurd h₀ h⟩
  | lock i c k _ _ ih => exact ⟨ih.1, fun h =>
      have ⟨st, hst, hs⟩ := ih.2 h
      ⟨st, List.mem_cons_of_mem _ hst, hs⟩⟩
  | @act trace s s' i c hv hi hg ih =>
    obtain ⟨t, hd, honce⟩ := id hg
    by_cases ht : t = .world (.executeStarted effectId)
    · have hs : Starts effectId ⟨.act, s, s'⟩ := by
        rw [Starts, hd.world_eq, ht]
        rfl
      have hzero : s.world.count (.executeStarted effectId) = 0 := by
        by_contra hne
        obtain ⟨st, hst, hst'⟩ := ih.2 hne
        exact start_unique (.act i c hv hi hg) hs st hst hst'
      rw [show s'.world = _ from hs, List.count_cons_self, hzero]
      exact ⟨le_refl _, fun _ => ⟨_, List.mem_cons_self, hs⟩⟩
    · have hcount : s'.world.count (.executeStarted effectId) =
          s.world.count (.executeStarted effectId) := by
        rw [hd.world_eq]
        cases t with
        | world e => exact List.count_cons_of_ne fun h => ht (by rw [h])
        | _ => rfl
      rw [hcount]
      exact ⟨ih.1, fun h =>
        have ⟨st, hst, hs⟩ := ih.2 h
        ⟨st, List.mem_cons_of_mem _ hst, hs⟩⟩

end Trace

/-- In every run of calls and fence calls with any crashes, `execute` is invoked at
most once for an effect; and the thread that invokes it had itself moved the effect
from `RESERVED` to `EXECUTING`, before which the effect was never in any other state. -/
theorem execute_at_most_once [DecidableEq D] (R : Runtime D) (d : D)
    (es : List (Event (FenceCall D))) (effectId : String) :
    (FencePool.run R d es).store.world.count (.executeStarted effectId) ≤ 1 ∧
      ∀ later start earlier, (FencePool.run R d es).trace = later ++ start :: earlier →
        Starts effectId start.move →
        ∃ after claim before, earlier = after ++ claim :: before ∧ claim.thread = start.thread ∧
          Claims effectId claim.move ∧ ∀ st ∈ before, Untouched effectId st.move.before := by
  have hv := (fencePool_sound (R := R) d es).valid
  refine ⟨(count_starts hv rfl).1, fun later start earlier htrace hs => ?_⟩
  rw [htrace] at hv
  exact (own_claim hv.split.2.1 hs).2

end VeraMono
