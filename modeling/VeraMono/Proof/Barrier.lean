import VeraMono.Proof.Protocol

/-!
# The fence barrier

At most one effect is unresolved in any reachable state. Each routine that
reserves an effect, writes a checkpoint or mints a permit first finds the fence
clear, and holds the lifecycle lock from there: a clear fence has no row to
advance and nobody else may reserve, so it stays clear until the routine itself
writes (`clear_stable`).
-/

namespace VeraMono

open Framework Transition

variable {D : Type}

def EffectFence.AtMostOne (t : EffectFence D) : Prop :=
  ∀ r r' : EffectReceipt D, r ∈ t.rows → r' ∈ t.rows → r.state.unresolved = true →
    r'.state.unresolved = true → r.effectId = r'.effectId

/-- A step that hands out a permit. -/
def Mints (permit : AcceptedLifecyclePermit D) (m : Move Lock (VeraState D)) : Prop :=
  m.after.world = .permitMinted permit :: m.before.world

namespace Transition

/-- A transition that is made only while no effect is unresolved. -/
def needsClear : Transition D → Bool
  | .reserve _ | .checkpoint _ | .publish _ | .world (.permitMinted _) => true
  | .journal b => b.eventType ≠ .restartReconciledCommitted
  | _ => false

end Transition

namespace EffectFence

variable {t : EffectFence D} {r r' : EffectReceipt D}

theorem Clear.not_advance (h : t.Clear) : ¬ Advance t r r' := by
  rintro ⟨hrow, -, hnext⟩
  have hu := h r (Table.mem_of_get? hrow)
  rcases hnext.not_terminal with hs | hs
  · rw [hs] at hu
    cases hu
  · rw [EffectState.unresolved_of_ambiguous hs] at hu
    cases hu

theorem Clear.atMostOne (h : t.Clear) : t.AtMostOne := by
  intro r _ hr _ hu
  rw [h r hr] at hu
  cases hu

theorem Clear.insert (h : t.Clear) (hn : t.get? r.effectId = none) : AtMostOne (t.insert r) := by
  have hrow (x : EffectReceipt D) (hx : x ∈ (t.insert r).rows) (hu : x.state.unresolved = true) :
      x = r := by
    rw [Table.rows_insert hn, List.mem_append, List.mem_singleton] at hx
    rcases hx with hx | rfl
    · rw [h x hx] at hu
      cases hu
    · rfl
  intro a b ha hb hua hub
  rw [hrow a ha hua, hrow b hb hub]

theorem AtMostOne.advance (h : t.AtMostOne) (ha : Advance t r r') : AtMostOne (t.update r') := by
  -- each unresolved row of the new table was an unresolved row of the old one
  have hrow (x : EffectReceipt D) (hx : x ∈ (t.update r').rows) (hu : x.state.unresolved = true) :
      ∃ y ∈ t.rows, y.effectId = x.effectId ∧ y.state.unresolved = true := by
    obtain ⟨y, hy, rfl⟩ := List.mem_map.1 hx
    split at hu
    · refine ⟨r, Table.mem_of_get? ha.row, ?_, ?_⟩
      · rw [if_pos ‹_›, ha.cut.effectId]
      · rcases ha.next.not_terminal with hs | hs
        · rw [hs]
          rfl
        · exact EffectState.unresolved_of_ambiguous hs
    · exact ⟨y, hy, by rw [if_neg ‹_›], hu⟩
  intro a b ha hb hua hub
  obtain ⟨y, hy, hya, hyu⟩ := hrow a ha hua
  obtain ⟨z, hz, hzb, hzu⟩ := hrow b hb hub
  rw [← hya, ← hzb]
  exact h y z hy hz hyu hzu

end EffectFence

variable {R : Runtime D} {s s' : VeraState D} {t : Transition D} {effectId : String}

/-- A transition that leaves the fence alone, or can only be made of an unresolved effect. -/
theorem Clear.does (hc : s.fence.Clear) (h : t.Does R s s') (hr : ∀ r, t ≠ .reserve r) :
    s'.fence.Clear := by
  rw [h.eq]
  cases t with
  | reserve r => exact absurd rfl (hr r)
  | advance r r' => exact absurd h.enabled hc.not_advance
  | _ => exact hc

def HasRow (effectId : String) (s : VeraState D) : Prop := s.fence.get? effectId ≠ none

theorem HasRow.does (hs : HasRow effectId s) (h : t.Does R s s') : HasRow effectId s' := by
  have hrow := h.row effectId
  intro hn
  rw [hn] at hrow
  generalize hs' : s.fence.get? effectId = row at hrow
  cases hrow
  exact hs hs'

/-- The barrier: at most one effect is unresolved, and what needs a clear fence has one. -/
def barrier (R : Runtime D) : Protocol R where
  inv s := s.fence.AtMostOne
  promise c _ _ s t := c.makes t ∧ (t.needsClear = true → s.fence.Clear)
  keeps := by
    rintro c h held s s' t hi hd ⟨-, hc⟩
    rw [hd.eq]
    cases t with
    | reserve r => exact (hc rfl).insert hd.enabled.1
    | advance r r' => exact hi.advance hd.enabled
    | _ => exact hi

section Triples
variable {c : Call D} {held : Finset Lock} {α : Type} {p : Op D α}

theorem clear_stable (V : Protocol R) (hl : .lifecycle ∈ held) :
    (V.contract c).Stable held fun _ s => s.fence.Clear := by
  rintro h s s' - - hc ⟨t, hd, hlock⟩
  exact Clear.does hc hd fun r ht => hlock .lifecycle (by rw [ht]; rfl) hl

theorem hasRow_stable (V : Protocol R) :
    (V.contract c).Stable held fun _ s => HasRow effectId s := by
  rintro h s s' - - hs ⟨t, hd, -⟩
  exact hs.does hd

theorem assertClear_triple (hl : .lifecycle ∈ held) (hi : c.makes .idle) :
    Triple ((barrier R).contract c) held (fun _ _ => True)
      (.readM fun s => s.fence.assertClear : Op D Unit)
      (OnOk fun h s => s.fence.Clear ∧ ∃ m ∈ h, m.before.fence.Clear) := by
  refine Protocol.readM (.hist fun _ => True) (((clear_stable _ hl).and (.hist _)).onOk)
    fun h s _ _ => ⟨⟨hi, nofun⟩, ?_⟩
  cases hr : s.fence.assertClear with
  | error => trivial
  | ok =>
    have hc := EffectFence.assertClear_ok hr
    exact ⟨hc, _, List.mem_cons_self, hc⟩

variable {T : Transition D → Prop} {args : DispatchArgs D}

/-- What a routine does once the fence is clear, under the lifecycle lock. -/
theorem clear_within (hl : .lifecycle ∈ held) (hp : Within R T p)
    (hc : ∀ t, T t → c.makes t) (hu : Under T .lifecycle) (hr : ∀ r, ¬ T (.reserve r)) :
    Triple ((barrier R).contract c) held (fun _ s => s.fence.Clear) p fun _ _ s => s.fence.Clear :=
  Protocol.within hp (clear_stable _ hl) fun _ _ _ t _ hs ht hd =>
    ⟨lock_held hu hl ht, ⟨hc t ht, fun _ => hs⟩, Clear.does hs hd fun r h => hr r (h ▸ ht)⟩

variable [DecidableEq D]

omit [DecidableEq D] in
/-- What a dispatch does once its effect has a row. -/
theorem reserved_within (hl : .lifecycle ∈ held)
    (hp : Within R (dispatches args.effectId) p) (hc : ∀ t, dispatches args.effectId t → c.makes t) :
    Triple ((barrier R).contract c) held (fun _ s => HasRow args.effectId s) p
      fun _ _ s => HasRow args.effectId s := by
  refine Protocol.within hp (hasRow_stable _) fun _ s _ t _ hs ht hd => ?_
  refine ⟨lock_held (dispatches_under _) hl ht, ⟨hc t ht, fun hneed => ?_⟩, hs.does hd⟩
  cases t with
  | reserve r => exact absurd ((show r.effectId = _ from ht) ▸ hd.enabled.1) hs
  | world e => rcases ht with rfl | rfl | rfl <;> cases hneed
  | _ => first | exact ht.elim | cases hneed

theorem reserveEffect_barrier {requestDigest : D}
    (hl : .lifecycle ∈ held) (hc : ∀ t, dispatches args.effectId t → c.makes t) :
    Triple ((barrier R).contract c) held (fun _ _ => True) (reserveEffect R args requestDigest)
      (OnOk fun _ s => HasRow args.effectId s) := by
  -- until the reservation: reads and the authority event
  have hclear {β : Type} {p : Op D β}
      (hp : Within R (fun t => t = .idle ∨ ∃ b, t = .audit b ∧ records args.effectId (.audit b)) p) :
      Triple ((barrier R).contract c) held (fun _ s => s.fence.Clear) p fun _ _ s => s.fence.Clear := by
    refine clear_within hl hp (fun t ht => hc t ?_) (fun t ht => ?_) fun r ht => ?_
    · rcases ht with rfl | ⟨b, rfl, hb⟩
      · trivial
      · exact hb
    · rcases ht with rfl | ⟨b, rfl, hb⟩
      · exact .inl rfl
      · exact records_under _ _ hb
    · simp at ht
  refine .seqOk (assertClear_triple hl (hc _ trivial)) fun _ => ?_
  refine Triple.conseq (A := fun _ s => s.fence.Clear) ?_ (fun _ _ _ hs => hs.1) fun _ _ _ _ h => h
  refine .seqOk (hclear (.readOnly (.inl rfl) (validateActionPermit_readOnly _))) fun _ =>
    .seqOk (hclear (.lift _)) fun _ => .seqOk (hclear (.lift _)) fun _ => .seqOk (hclear (.lift _))
    fun _ => .seqOk (hclear (.onAudit (.inl rfl) (.inr ⟨_, rfl, rfl, rfl⟩))) fun _ => ?_
  refine .seqOk (Q := OnOk fun _ s => HasRow args.effectId s) (Protocol.part _
    (fun (s : VeraState D) t => { s with fence := t }) (clear_stable _ hl) ((hasRow_stable _).onOk)
    (fun h s r t' _ hs hr => ?_) fun h s e _ _ _ => ⟨⟨hc _ trivial, nofun⟩, trivial⟩) fun _ => ?_
  · obtain ⟨hrow, hid, t, ht, hd⟩ := reserve_does (R := R) hr
    have hrec : records args.effectId t := by
      rcases ht with rfl | rfl
      · trivial
      · exact hid
    refine ⟨t, hd, lock_held (records_under _) hl hrec, ⟨hc t (dispatches_of_records t hrec), fun _ => hs⟩, ?_⟩
    exact fun hn => nomatch hrow.symm.trans hn
  · exact (reserved_within hl (.mono dispatches_of_records
      (.bind (stage_within rfl) fun _ => .pure _)) hc).onOk

theorem dispatchLocked_barrier {requestDigest : D}
    (hl : .lifecycle ∈ held) (hc : ∀ t, dispatches args.effectId t → c.makes t) :
    Triple ((barrier R).contract c) held (fun _ _ => True) (dispatchLocked R args requestDigest)
      fun _ _ _ => True := by
  refine .seq (reserveEffect_barrier hl hc) fun cut => ?_
  exact (reserved_within hl dispatchReserved_within hc).conseq (fun _ _ _ hs => hs)
    fun _ _ _ _ _ => trivial

theorem dispatchVerified_barrier (trust : Bool) (args : DispatchArgs D)
    (hc : ∀ t, dispatches args.effectId t → c.makes t) :
    Triple ((barrier R).contract c) ∅ (fun _ _ => True) (dispatchVerified R trust args)
      fun _ _ _ => True :=
  dispatchVerified_triple (fun _ => .hist fun _ => True) (fun _ => .hist fun _ => True)
    (fun _ _ _ => trivial) (fun _ _ _ _ _ => trivial) (fun _ _ _ _ _ => trivial)
    fun _ _ => dispatchLocked_barrier (lifecycle_mem_gatewayLocks trust) hc

omit [DecidableEq D] in
/-- A routine that starts by finding the fence clear: it writes while the fence is. -/
theorem guarded_barrier {β : Type} {k : Unit → Op D β}
    (hp : Within R T (.readM (fun s => s.fence.assertClear) >>= k)) (hl : .lifecycle ∈ held)
    (hi : T .idle) (hc : ∀ t, T t → c.makes t) (hu : Under T .lifecycle) (hr : ∀ r, ¬ T (.reserve r)) :
    Triple ((barrier R).contract c) held (fun _ _ => True)
      (.readM (fun s => s.fence.assertClear) >>= k)
      (OnOk fun h s => s.fence.Clear ∧ ∃ m ∈ h, m.before.fence.Clear) := by
  refine Protocol.checked hp (.hist fun _ => True) ((clear_stable _ hl).and (.hist _))
    (fun h s _ _ => ⟨⟨hc _ hi, nofun⟩, fun _ ha => ?_⟩) fun h s _ t _ hs ht hd => ?_
  · have hclear := EffectFence.assertClear_ok ha
    exact ⟨hclear, _, List.mem_cons_self, hclear⟩
  · obtain ⟨m, hm, hclear⟩ := hs.2
    exact ⟨lock_held hu hl ht, ⟨hc t ht, fun _ => hs.1⟩,
      Clear.does hs.1 hd (fun r h => hr r (h ▸ ht)), m, List.mem_cons_of_mem _ hm, hclear⟩

theorem acceptedActionPermit_barrier (hc : ∀ t, permits t → c.makes t) :
    Triple ((barrier R).contract c) ∅ (fun _ _ => True) (acceptedActionPermit R)
      fun _ _ _ => True :=
  withLock_triple (by decide) (fun _ => .hist fun _ => True) (fun _ => .hist fun _ => True)
    (fun _ _ _ => trivial) (fun _ _ _ _ _ => trivial) (fun _ _ _ _ _ => trivial)
    ((guarded_barrier (mintPermit_within trivial (fun _ h => h) fun _ => trivial) (by decide) trivial
      hc permits_under nofun).conseq (fun _ _ _ h => h) fun _ _ _ _ _ => trivial)

/-- What a checkpoint call has seen when it returns: the fence clear. -/
def SawClear (h : Moved D) : Prop := ∃ m ∈ h, m.before.fence.Clear

theorem checkpoint_barrier {args : CheckpointArgs D} (hc : ∀ t, checkpoints t → c.makes t) :
    Triple ((barrier R).contract c) ∅ (fun _ _ => True) (checkpoint R args)
      (OnOk fun h _ => SawClear h) := by
  have hbody : Triple ((barrier R).contract c) (insert .lifecycle ∅) (fun _ _ => True)
      (checkpointUnlocked R args) (OnOk fun h s => s.fence.Clear ∧ SawClear h) := by
    have hw : Within R checkpoints (checkpointUnlocked R args) := checkpointUnlocked_within
    rw [checkpointUnlocked, checkpointGuards, Prog.bind_assoc] at hw ⊢
    exact guarded_barrier hw (by decide) trivial hc checkpoints_under nofun
  refine .withLock (by decide) (.hist fun _ => True) (Contract.Stable.onOk (.hist _))
    (fun _ _ _ _ => trivial) hbody (fun r h s _ hs => ?_) fun _ _ _ _ => trivial
  cases r with
  | error => trivial
  | ok =>
    obtain ⟨-, m, hm, hclear⟩ := hs
    exact ⟨m, List.mem_cons_of_mem _ hm, hclear⟩

omit [DecidableEq D] in
theorem harmless_barrier (hp : Within R T p) (hu : Under T .lifecycle)
    (hl : .lifecycle ∈ held) (hc : ∀ t, T t → c.makes t) (hn : ∀ t, T t → t.needsClear = false) :
    Triple ((barrier R).contract c) held (fun _ _ => True) p fun _ _ _ => True :=
  Protocol.within hp (.hist fun _ => True) fun _ _ _ t _ _ ht _ =>
    ⟨lock_held hu hl ht, ⟨hc t ht, fun h => by rw [hn t ht] at h; cases h⟩, trivial⟩

omit [DecidableEq D] in
theorem readOnly_barrier (hp : p.ReadOnly) (hi : c.makes .idle) :
    Triple ((barrier R).contract c) held (fun _ _ => True) p fun _ _ _ => True :=
  Protocol.within (.readOnly (T := idles) rfl hp) (.hist fun _ => True) fun _ _ _ t _ _ ht _ => by
    cases (show t = .idle from ht)
    exact ⟨nofun, ⟨hi, nofun⟩, trivial⟩

theorem assessCommand_barrier {commandId : String} {consistent : Bool}
    (hc : ∀ t, permits t → c.makes t) :
    Triple ((barrier R).contract c) ∅ (fun _ _ => True) (assessCommand R commandId consistent)
      fun _ _ _ => True := by
  have hr {β : Type} {p : Op D β} (hp : p.ReadOnly) :
      Triple ((barrier R).contract c) ∅ (fun _ _ => True) p fun _ _ _ => True :=
    readOnly_barrier hp (hc _ trivial)
  refine .seq (hr verifyIntegrity_readOnly) fun _ => .seq (hr (.readM _)) fun _ =>
    .seq (hr ((Prog.ReadOnly.readM _).bind fun _ => Prog.ReadOnly.readM _)) fun _ =>
    .seq (hr (OutboundExecutionAudit.verifyFenceConsistency_readOnly _ _)) fun _ =>
    .seq (hr (.read _)) fun _ => .seq (Q := fun _ _ _ => True) ?_ fun _ => hr trivial
  refine .tryCatch (Q := fun _ _ _ => True) ?_ (fun e => ?_) fun _ _ _ _ _ => trivial
  · exact .seq (acceptedActionPermit_barrier hc) fun _ => hr trivial
  · split <;> exact hr trivial

theorem cancelReservedCommand_barrier {commandId : String} {consistent : Bool}
    (hp : ∀ t, permits t → c.makes t) (hc : ∀ t, cancels t → c.makes t) :
    Triple ((barrier R).contract c) ∅ (fun _ _ => True)
      (cancelReservedCommand R commandId consistent) fun _ _ _ => True := by
  refine .seq (assessCommand_barrier hp) fun assessed => .guard (Q := fun _ _ _ => True)
    (.hist fun _ => True) (fun _ _ _ _ _ => trivial) fun _ => .seq (Q := fun _ _ _ => True) ?_
    fun _ => assessCommand_barrier hp
  refine withLock_triple (by decide) (fun _ => .hist fun _ => True) (fun _ => .hist fun _ => True)
    (fun _ _ _ => trivial) (fun _ _ _ _ _ => trivial) (fun _ _ _ _ _ => trivial)
    (harmless_barrier (cancelReservation_within trivial (fun _ _ h => h) fun _ h => h) cancels_under
      (by decide) hc fun t ht => ?_)
  cases t with
  | idle | advance | audit => rfl
  | _ => exact ht.elim

/-! ## The run -/

/-- A checkpoint call that returns has seen the fence clear. -/
def barrierPost : Call D → Post Lock (VeraState D) Failure (Reply D)
  | .checkpoint _ => fun r _ h _ => ∀ reply, r = .ok reply → SawClear h
  | _ => fun _ _ _ _ => True

omit [DecidableEq D] in
theorem repairs_harmless (ht : repairs t) : t.needsClear = false := by
  cases t with
  | idle | audit => rfl
  | _ => exact ht.elim

omit [DecidableEq D] in
theorem restarts_harmless (ht : restarts t) : t.needsClear = false := by
  cases t with
  | idle => rfl
  | journal b => simp [needsClear, show b.eventType = _ from ht]
  | _ => exact ht.elim

omit [DecidableEq D] in
theorem cancels_harmless (ht : cancels t) : t.needsClear = false := by
  cases t with
  | idle | advance | audit => rfl
  | _ => exact ht.elim

omit [DecidableEq D] in
theorem reconciles_harmless (ht : reconciles effectId t) : t.needsClear = false := by
  cases t with
  | idle | advance | audit => rfl
  | _ => exact ht.elim

theorem program_barrier (c : Call D) (s : VeraState D) (hs : (barrier R).inv s) :
    Safe ((barrier R).contract c) (barrierPost c) (program R c) ∅ [] s := by
  have htrue {p : Op D (Reply D)} {Q : Except Failure (Reply D) → Moved D → VeraState D → Prop}
      (hpost : ∀ r held h s, barrierPost c r held h s)
      (hp : Triple ((barrier R).contract c) ∅ (fun _ _ => True) p Q) :
      Safe ((barrier R).contract c) (barrierPost c) p ∅ [] s :=
    (hp [] s hs trivial).mono hs fun r held h s _ _ => hpost r held h s
  have hother (hpost : ∀ r held h s, barrierPost c r held h s)
      (hn : ∀ t, c.makes t → t.needsClear = false) :
      Safe ((barrier R).contract c) (barrierPost c) (program R c) ∅ [] s :=
    (Protocol.safe_of_makes (V := barrier R)
      (fun _ _ _ t _ ht _ _ => ⟨ht, fun h => by rw [hn t ht] at h; cases h⟩) hs).mono hs
      fun r held h s _ _ => hpost r held h s
  cases c with
  | dispatch trust args =>
    refine htrue (fun _ _ _ _ => trivial) (.map (Q := fun _ _ _ => True) ?_ _)
    exact dispatchVerified_barrier trust args fun _ ht => ht
  | invoke args =>
    refine htrue (fun _ _ _ _ => trivial) (.map (Q := fun _ _ _ => True) ?_ _)
    refine invoke_triple (fun _ => .hist fun _ => True) (fun _ => .hist fun _ => True)
      (fun _ _ _ => trivial) (fun h s s' t hi ht hd => ?_) fun d => dispatchVerified_barrier false _ ?_
    · have hm : (Call.invoke args).makes t := ht.elim (fun h => h ▸ .inl trivial) .inr
      have hn : t.needsClear = false := by rcases ht with rfl | ⟨j, rfl⟩ <;> rfl
      have hp : (barrier R).promise (.invoke args) h ∅ s t :=
        ⟨hm, fun h => by rw [hn] at h; cases h⟩
      refine ⟨(barrier R).keeps hi hd hp, ⟨t, hd, ?_, hp⟩, fun _ => trivial, fun _ => trivial⟩
      rcases ht with rfl | ⟨j, rfl⟩ <;> exact nofun
    · exact fun _ ht => .inl ht
  | cancelReservedCommand commandId consistent =>
    refine htrue (fun _ _ _ _ => trivial) (.map (Q := fun _ _ _ => True) ?_ _)
    exact cancelReservedCommand_barrier (fun _ h => .inr h) fun _ h => .inl h
  | acceptedActionPermit =>
    refine htrue (fun _ _ _ _ => trivial) (.map (Q := fun _ _ _ => True) ?_ _)
    exact acceptedActionPermit_barrier fun _ h => h
  | checkpoint args =>
    have hp : Triple ((barrier R).contract (.checkpoint args)) ∅ (fun _ _ => True)
        (checkpoint R args) (OnOk fun h _ => SawClear h) := checkpoint_barrier fun _ h => h
    refine (hp.map Reply.checkpoint [] s hs trivial).mono hs ?_
    rintro r held h s - ⟨-, r', rfl, hr⟩ reply hreply
    cases r' with
    | ok => exact hr
    | error => cases hreply
  | cancelReservedEffect => exact hother (fun _ _ _ _ => trivial) fun _ => cancels_harmless
  | reconcile => exact hother (fun _ _ _ _ => trivial) fun _ => reconciles_harmless
  | openState => exact hother (fun _ _ _ _ => trivial) fun _ => repairs_harmless
  | reconstruct | resumeContext =>
    exact hother (fun _ _ _ _ => trivial) fun _ ht => ht.elim repairs_harmless restarts_harmless
  | validateActionPermit => exact hother (fun _ _ _ _ => trivial) fun t ht => by cases ht; rfl
  | admitRecord =>
    exact hother (fun _ _ _ _ => trivial) fun t ht => by rcases ht with rfl | ⟨m, rfl⟩ <;> rfl
  | replaceControlSource =>
    exact hother (fun _ _ _ _ => trivial) fun t ht => by rcases ht with rfl | rfl <;> rfl

end Triples

/-- A step of a call while an effect is unresolved: it mints no permit and reserves
nothing, and a checkpoint call adds no row. -/
structure Held (st : Step Lock (VeraState D) (Call D)) : Prop where
  mints : ∀ permit, ¬ Mints permit st.move
  reserves : ∀ effectId, st.move.before.fence.get? effectId = none →
    st.move.after.fence.get? effectId = none
  checkpoint : ∀ args, st.call = .checkpoint args →
    st.move.after.checkpoints = st.move.before.checkpoints ∧
      st.move.after.journal = st.move.before.journal ∧
      st.move.after.currentness = st.move.before.currentness

/-- A transition that does not need a clear fence adds no row and mints no permit. -/
theorem held_of_promise {i : Nat} {c : Call D} (hd : t.Does R s s') (hm : c.makes t)
    (hn : t.needsClear = false) : Held ⟨i, c, .act, s, s'⟩ where
  mints permit h := by
    have hw : t.emits ++ s.world = .permitMinted permit :: s.world := hd.world_eq.symm.trans h
    have he : t.emits = [.permitMinted permit] := List.append_cancel_right hw
    cases t with
    | world e =>
      rw [(List.cons.inj he).1] at hn
      cases hn
    | _ => cases he
  reserves effectId hnone := by
    change s.fence.get? effectId = none at hnone
    change s'.fence.get? effectId = none
    rw [hd.eq]
    cases t with
    | reserve => cases hn
    | advance r r' =>
      have hne : effectId ≠ r'.effectId := by
        rintro rfl
        rw [hd.enabled.cut.effectId, hd.enabled.row] at hnone
        cases hnone
      exact (Table.get?_update_other hne).trans hnone
    | _ => exact hnone
  checkpoint args hc := by
    cases hc
    have hidle : t = .idle := by
      cases t with
      | idle => rfl
      | journal b => simp [needsClear, show b.eventType ≠ _ from hm] at hn
      | checkpoint | publish => cases hn
      | _ => exact hm.elim
    subst hidle
    cases hd.eq
    exact ⟨rfl, rfl, rfl⟩

theorem held_of_eq {st : Step Lock (VeraState D) (Call D)} (h : st.move.after = st.move.before) :
    Held st where
  mints permit hm := absurd (congrArg List.length (h ▸ show st.move.after.world = _ from hm)) (by simp)
  reserves _ hnone := by rw [h, hnone]
  checkpoint _ _ := by rw [h]; exact ⟨rfl, rfl, rfl⟩

/-- In every state that any interleaving of calls reaches, with any crashes, at most
one effect is unresolved; no step made while one is mints a permit, reserves another
or adds a row for a checkpoint; and a checkpoint call that returned had found the
fence clear. -/
theorem fence_barrier [DecidableEq D] (R : Runtime D) (d : D) (es : List (Event (Call D))) :
    (VeraPool.run R d es).store.fence.AtMostOne ∧
      (∀ st ∈ (VeraPool.run R d es).trace, ¬ st.move.before.fence.Clear → Held st) ∧
      ∀ i args reply, (VeraPool.run R d es).thread i =
          some ⟨.checkpoint args, some (.ret reply)⟩ →
        SawClear (hist i (VeraPool.run R d es).trace) := by
  have hsound := Protocol.sound (V := barrier R) program_barrier d
    (fun r _ hr _ _ _ => nomatch hr) es
  refine ⟨hsound.inv, fun st hst hclear => ?_, fun i args reply hi => ?_⟩
  · obtain ⟨later, earlier, htrace⟩ := List.append_of_mem hst
    have hv := hsound.valid
    by_cases hk : st.move.kind = .act
    · obtain ⟨t, hd, -, hm, hn⟩ := (htrace ▸ hv).split.2.2 hk
      obtain ⟨i, c, k, s, s'⟩ := st
      obtain rfl : k = .act := hk
      exact held_of_promise hd hm (by
        cases ht : t.needsClear with
        | false => rfl
        | true => exact absurd (hn ht) hclear)
    · exact held_of_eq (hv.lock_move hst hk)
  · exact hsound.safe i _ _ hi _ .refl reply rfl

end VeraMono
