import VeraMono.Proof.Outcome

/-!
# The state directory over a run

What every run keeps of the state directory, whatever calls interleave and wherever they
crash: its stores only move forward (`directory_onward`), and an effect is reserved only
under the evidence that the audit holds for it (`reservations_vouched`).
-/

namespace VeraMono

open Framework Transition

variable {D : Type} {R : Runtime D} {s s' s'' : VeraState D} {t : Transition D}

/-! ## Forward -/

/-- A later state of the directory: the ledgers and the log of the world have grown, the
generations are no lower, and the effects are further in their lives. -/
structure Onward (s s' : VeraState D) : Prop where
  audit : s.audit.entries <+: s'.audit.entries
  checkpoints : s.checkpoints.entries <+: s'.checkpoints.entries
  journal : s.journal.entries <+: s'.journal.entries
  world : s.world <:+ s'.world
  memory : s.memory.generation ≤ s'.memory.generation
  currentness : ∀ subjectId row, s.currentness.get? subjectId = some row →
    ∃ row', s'.currentness.get? subjectId = some row' ∧ row.generation ≤ row'.generation
  fence : ∀ effectId r, s.fence.get? effectId = some r → ∃ r', s'.fence.get? effectId = some r' ∧
    r.SameCut r' ∧ Relation.ReflTransGen EffectState.Next r.state r'.state

theorem Onward.trans (h : Onward s s') (h' : Onward s' s'') : Onward s s'' where
  audit := h.audit.trans h'.audit
  checkpoints := h.checkpoints.trans h'.checkpoints
  journal := h.journal.trans h'.journal
  world := h.world.trans h'.world
  memory := h.memory.trans h'.memory
  currentness subjectId row hrow := by
    obtain ⟨row', hrow', hle⟩ := h.currentness subjectId row hrow
    obtain ⟨row'', hrow'', hle'⟩ := h'.currentness subjectId row' hrow'
    exact ⟨row'', hrow'', hle.trans hle'⟩
  fence effectId r hr := by
    obtain ⟨r', hr', hcut, hlife⟩ := h.fence effectId r hr
    obtain ⟨r'', hr'', hcut', hlife'⟩ := h'.fence effectId r' hr'
    exact ⟨r'', hr'', ⟨hcut'.1.trans hcut.1, hcut'.2.trans hcut.2, hcut'.3.trans hcut.3,
      hcut'.4.trans hcut.4, hcut'.5.trans hcut.5⟩, hlife.trans hlife'⟩

theorem Transition.Does.onward (hd : t.Does R s s') : Onward s s' where
  audit := by
    rw [hd.eq]
    cases t with
    | audit b => exact List.prefix_append _ _
    | _ => exact List.prefix_rfl
  checkpoints := by
    rw [hd.eq]
    cases t with
    | checkpoint b => exact List.prefix_append _ _
    | _ => exact List.prefix_rfl
  journal := by
    rw [hd.eq]
    cases t with
    | journal b => exact List.prefix_append _ _
    | _ => exact List.prefix_rfl
  world := hd.world_eq ▸ List.suffix_append _ _
  memory := by
    rw [hd.eq]
    cases t with
    | memory m => exact hd.enabled.1 ▸ Nat.le_succ _
    | _ => exact le_rfl
  currentness subjectId row hrow := by
    rw [hd.eq]
    cases t with
    | publish p =>
      let next := CurrentnessStore.nextRow R.hash R.config.currentnessSubjectId p s.currentness
      by_cases hid : subjectId = next.subjectId
      · subst hid
        refine ⟨next, Table.get?_upsert_self, ?_⟩
        have hrow : s.currentness.get? R.config.currentnessSubjectId = some row := hrow
        simp [next, CurrentnessStore.nextRow, hrow]
      · exact ⟨row, (Table.get?_upsert_other hid).trans hrow, le_rfl⟩
    | _ => exact ⟨row, hrow, le_rfl⟩
  fence effectId r hr := by
    have hstep := hd.row effectId
    rw [hr] at hstep
    generalize hrow : s'.fence.get? effectId = row at hstep
    cases hstep with
    | same => exact ⟨r, rfl, .rfl', .refl⟩
    | advance hcut hnext => exact ⟨_, rfl, hcut, .single hnext⟩

/-! ## Vouched -/

/-- The audit holds the evidence that an effect was reserved under. -/
def Vouched (r : EffectReceipt D) (s : VeraState D) : Prop :=
  ∃ e ∈ s.audit.entries, e.body.effectId = r.effectId ∧ e.body.eventType = .authorityVerified ∧
    e.body.payload.requestDigest = r.requestDigest ∧
    e.body.payload.authorityEvidenceDigest = r.authorityEvidenceDigest ∧
    e.body.payload.mechanicalPermitDigest = some r.mechanicalPermitDigest ∧
    e.body.payload.lifecyclePermit.map AcceptedLifecyclePermit.permitDigest = some r.currentnessEvidenceDigest

theorem Vouched.onward {r r' : EffectReceipt D} (h : Vouched r s) (ho : Onward s s') (hcut : r.SameCut r') :
    Vouched r' s' := by
  obtain ⟨e, he, hid, hs, hr, ha, hm, hc⟩ := h
  exact ⟨e, ho.audit.subset he, hid.trans hcut.1.symm, hs, hr.trans hcut.2.symm, ha.trans hcut.4.symm,
    hm.trans (congrArg some hcut.3.symm), hc.trans (congrArg some hcut.5.symm)⟩

theorem Vouched.does {r : EffectReceipt D} (h : Vouched r s) (hd : t.Does R s s') : Vouched r s' :=
  h.onward hd.onward .rfl'

variable (R) in
structure Vouching (s : VeraState D) : Prop where
  audit : (auditChain R.hash).WellFormed s.audit
  vouched : ∀ effectId r, s.fence.get? effectId = some r → Vouched r s

variable (R) in
/-- A call reserves an effect only after the audit has its evidence. -/
def vouching : Protocol R where
  inv := Vouching R
  promise _ _ _ s t := ∀ r, t = .reserve r → Vouched r s
  keeps := by
    intro c h held s s' t hi hd hp
    refine ⟨?_, fun effectId r' hr' => ?_⟩
    · rw [hd.eq]
      cases t with
      | audit b => exact hi.audit.extend hd.enabled.2.2
      | _ => exact hi.audit
    · cases t with
      | reserve new =>
        by_cases hid : effectId = new.effectId
        · subst hid
          rw [hd.eq] at hr'
          have heq : new = r' := Option.some.inj ((Table.get?_insert_self hd.enabled.1).symm.trans hr')
          exact heq ▸ (hp new rfl).does hd
        · rw [hd.eq] at hr'
          exact (hi.vouched effectId r' ((Table.get?_insert_other hid).symm.trans hr')).does hd
      | advance old new =>
        have hcut := hd.enabled.cut
        by_cases hid : effectId = new.effectId
        · subst hid
          cases (hd.advanced hcut.effectId.symm).symm.trans hr'
          exact (hi.vouched _ old hd.enabled.row).onward hd.onward hcut
        · rw [hd.eq] at hr'
          exact (hi.vouched effectId r' ((Table.get?_update_other hid).symm.trans hr')).does hd
      | _ =>
        rw [hd.eq] at hr'
        exact (hi.vouched effectId r' hr').does hd

section Calls
variable [DecidableEq D] {c : Call D} {held : Finset Lock} {α : Type} {p : Op D α} {args : DispatchArgs D}
  {effectId : String}

omit [DecidableEq D] in
/-- Once its row is there, a dispatch reserves nothing. -/
theorem dispatching_vouched (hl : .lifecycle ∈ held) (hp : Within R (dispatches effectId) p) :
    Triple ((vouching R).contract c) held (fun _ s => RowIs effectId (fun _ => True) s) p
      fun _ _ s => RowIs effectId (fun _ => True) s := by
  have hstep {s s' : VeraState D} {t : Transition D} (hs : RowIs effectId (fun _ => True) s)
      (hd : t.Does R s s') : RowIs effectId (fun _ => True) s' := hs.does (fun _ _ _ _ => trivial) hd
  refine Protocol.within hp (fun _ _ _ _ _ hs ⟨_, hd, _⟩ => hstep hs hd) fun h s s' t _ hs ht hd =>
    ⟨lock_held (dispatches_under _) hl ht, ?_, hstep hs hd⟩
  rintro r rfl
  obtain ⟨row, hrow, -⟩ := hs
  cases hrow.symm.trans ((show r.effectId = effectId from ht) ▸ hd.enabled.1)

omit [DecidableEq D] in
theorem reading_vouched (hp : p.ReadOnly) :
    Triple ((vouching R).contract c) held (fun _ _ => True) p fun _ _ _ => True :=
  Protocol.within (Within.readOnly (T := idles) rfl hp) (.hist _) fun _ _ _ _ _ _ ht _ => by
    cases ht
    exact ⟨nofun, nofun, trivial⟩

omit [DecidableEq D] in
/-- The event that a dispatch files of its authority vouches for its reservation. -/
theorem vouched_of_event {requestDigest authority : D} {details : Json} {e : OutboundAuditEvent D}
    {new : EffectReceipt D} (he : e ∈ s.audit.entries)
    (hkey : (auditChain R.hash).key e.body = (args.effectId, .authorityVerified))
    (hp : e.body.payload = authorityPayload R args requestDigest authority details)
    (hnew : EffectFence.reservation args.effectId (evidenceCut R args requestDigest authority) = .ok new) :
    Vouched new s := by
  obtain ⟨hid, hs⟩ := Prod.mk.inj hkey
  simp only [EffectFence.reservation, bind_eq_ok, requireText_ok] at hnew
  obtain ⟨_, ⟨-, rfl⟩, _, ⟨⟩, _, ⟨⟩, _, ⟨⟩, _, ⟨⟩, ⟨⟩⟩ := hnew
  refine ⟨e, he, hid, hs, ?_⟩
  rw [hp]
  exact ⟨rfl, rfl, rfl, rfl⟩

theorem authority_vouched (hl : .lifecycle ∈ held) {requestDigest authority : D} {details : Json} :
    Triple ((vouching R).contract c) held (fun _ _ => True)
      (auditAppend R args.effectId args.effectKind .authorityVerified
        (authorityPayload R args requestDigest authority details))
      (OnOk fun _ s => ∀ new, EffectFence.reservation args.effectId
        (evidenceCut R args requestDigest authority) = .ok new → Vouched new s) := by
  refine Protocol.part _ (fun (s : VeraState D) log => { s with audit := log }) (.hist _) (fun r => ?_)
    (fun h s e log' _ _ ha => ?_) fun h s e _ _ _ => ⟨nofun, trivial⟩
  · cases r with
    | error => exact .hist fun _ => True
    | ok => exact fun _ _ _ _ _ hs ⟨_, hd, _⟩ new hnew => (hs new hnew).does hd
  · obtain ⟨hid, hk, happ⟩ := audit_append_ok ha
    rcases Chaining.append_cases happ with ⟨rfl, hlook, hp⟩ | ⟨hn, -, rfl⟩
    · have hmem := Chaining.lookup_mem hlook
      exact ⟨.idle, ⟨trivial, rfl⟩, nofun, nofun, fun new hnew => vouched_of_event hmem.1 hmem.2 hp hnew⟩
    · refine ⟨.audit _, ⟨⟨hid, hk, hn⟩, rfl⟩, fun l hl' => ?_, nofun, fun new hnew =>
        vouched_of_event (List.mem_append_right _ List.mem_cons_self) rfl rfl hnew⟩
      rw [lock_audit (signed_of_stage rfl)] at hl'
      cases hl'
      exact hl

theorem reserve_vouched (hl : .lifecycle ∈ held) {cut : EffectFence.EvidenceCut D} :
    Triple ((vouching R).contract c) held
      (fun _ s => ∀ new, EffectFence.reservation effectId cut = .ok new → Vouched new s)
      (Op.onFence (EffectFence.reserve effectId cut)) (OnOk fun _ s => RowIs effectId (fun _ => True) s) := by
  refine Protocol.part _ (fun (s : VeraState D) t => { s with fence := t })
    (fun _ _ _ _ _ hs ⟨_, hd, _⟩ new hnew => (hs new hnew).does hd) (fun r => ?_)
    (fun h s r t' _ hs hr => ?_) fun h s e _ _ _ => ⟨nofun, trivial⟩
  · cases r with
    | error => exact .hist fun _ => True
    | ok => exact fun _ _ _ _ _ hs ⟨_, hd, _⟩ => hs.does (fun _ _ _ _ => trivial) hd
  · obtain ⟨hrow, -⟩ := reserve_does (R := R) (s := s) hr
    rcases EffectFence.reserve_ok hr with ⟨rfl, -⟩ | ⟨hn, hnew, rfl⟩
    · exact ⟨.idle, ⟨trivial, rfl⟩, nofun, nofun, r, hrow, trivial⟩
    · obtain ⟨hid, hstate, -⟩ := EffectFence.reservation_ok hnew
      refine ⟨.reserve r, ⟨⟨hid ▸ hn, hstate⟩, rfl⟩, fun l hl' => (by cases hl'; exact hl), fun r' hr' => ?_,
        r, hrow, trivial⟩
      cases hr'
      exact hs r hnew

theorem dispatchLocked_vouched (hl : .lifecycle ∈ held) {requestDigest : D} :
    Triple ((vouching R).contract c) held (fun _ _ => True) (dispatchLocked R args requestDigest)
      fun _ _ _ => True := by
  refine .seq (Q := OnOk fun _ s => RowIs args.effectId (fun _ => True) s) ?_ fun cut =>
    (dispatching_vouched hl dispatchReserved_within).conseq (fun _ _ _ hs => hs) fun _ _ _ _ _ => trivial
  refine .seqOk (reading_vouched (.readM _)) fun _ => .seqOk (reading_vouched (validateActionPermit_readOnly _))
    fun _ => .seqOk (reading_vouched (Prog.All.ofExcept _)) fun _ => .seqOk (reading_vouched (Prog.All.ofExcept _))
    fun _ => .seqOk (reading_vouched (Prog.All.ofExcept _)) fun _ => .seqOk (authority_vouched hl) fun _ =>
    .seqOk (reserve_vouched hl) fun _ => .onOk (dispatching_vouched hl ?_)
  exact .bind (.mono (fun t ht => dispatches_of_records t (records_of_prepares t ht)) (stage_prepares rfl))
    fun _ => .pure _

theorem program_vouched (c : Call D) (s : VeraState D) (hs : (vouching R).inv s) :
    Safe ((vouching R).contract c) (fun _ _ _ _ => True) (program R c) ∅ [] s := by
  have hdispatch {trust : Bool} {args : DispatchArgs D} : Triple ((vouching R).contract c) ∅ (fun _ _ => True)
      (dispatchVerified R trust args) fun _ _ _ => True :=
    dispatchVerified_triple (fun _ => .hist _) (fun _ => .hist _) (fun _ _ hs => hs) (fun _ _ _ _ hs => hs)
      (fun _ _ _ _ hs => hs) fun _ _ => dispatchLocked_vouched (lifecycle_mem_gatewayLocks trust)
  by_cases hd : ∃ trust args, c = .dispatch trust args
  · obtain ⟨trust, args, rfl⟩ := hd
    exact (hdispatch.map Reply.effect [] s hs trivial).mono hs fun _ _ _ _ _ _ => trivial
  by_cases hi : ∃ args, c = .invoke args
  · obtain ⟨args, rfl⟩ := hi
    have hinvoke : Triple ((vouching R).contract (.invoke args)) ∅ (fun _ _ => True) (invoke R args)
        fun _ _ _ => True := by
      refine invoke_triple (fun _ => .hist _) (fun _ => .hist _) (fun _ _ hs => hs)
        (fun h s s' t hinv ht hd => ?_) fun d => hdispatch
      have hp : ∀ r, t = .reserve r → Vouched r s := by
        rintro r rfl
        rcases ht with ht | ⟨j, ht⟩ <;> cases ht
      refine ⟨(vouching R).keeps hinv hd (show (vouching R).promise (.invoke args) h ∅ s t from hp),
        ⟨t, hd, ?_, hp⟩, fun _ => trivial, fun _ => trivial⟩
      rcases ht with rfl | ⟨j, rfl⟩ <;> exact nofun
    exact (hinvoke.map Reply.effect [] s hs trivial).mono hs fun _ _ _ _ _ _ => trivial
  refine (Protocol.safe_of_makes (V := vouching R) (fun _ _ _ t _ ht _ _ r hr => ?_) hs).mono hs
    fun _ _ _ _ _ _ => trivial
  subst hr
  exfalso
  cases c with
  | dispatch trust args => exact hd ⟨trust, args, rfl⟩
  | invoke args => exact hi ⟨args, rfl⟩
  | cancelReservedCommand | reconstruct | resumeContext => exact ht.elim id id
  | admitRecord => rcases ht with ht | ⟨m, ht⟩ <;> cases ht
  | replaceControlSource => rcases ht with ht | ht <;> cases ht
  | validateActionPermit => cases ht
  | _ => exact ht

end Calls

/-! ## Every run -/

variable [DecidableEq D]

theorem vouching_sound (R : Runtime D) (d : D) (es : List (Event (Call D))) :
    Sound (vouching R).discipline (fun _ _ _ _ _ => True) (VeraState.initial R.hash d) (VeraPool.run R d es) :=
  Protocol.sound program_vouched d ⟨Chaining.wellFormed_empty, nofun⟩ es

/-- In every run every effect has one audit event of its authority, and it holds the
evidence that the effect was reserved under. -/
theorem reservations_vouched (R : Runtime D) (d : D) (es : List (Event (Call D))) (effectId : String) :
    (auditChain R.hash).WellFormed (VeraPool.run R d es).store.audit ∧
      ∀ r, (VeraPool.run R d es).store.fence.get? effectId = some r → Vouched r (VeraPool.run R d es).store :=
  have hk := (vouching_sound R d es).inv
  ⟨hk.audit, hk.vouched effectId⟩

/-- Every state of a run leads onward to the last. -/
theorem directory_onward (R : Runtime D) (d : D) (es : List (Event (Call D))) :
    Onward (VeraState.initial R.hash d) (VeraPool.run R d es).store ∧
      ∀ st ∈ (VeraPool.run R d es).trace, Onward st.move.before (VeraPool.run R d es).store := by
  refine ⟨⟨List.nil_prefix, List.nil_prefix, List.nil_prefix, List.nil_suffix, Nat.zero_le _, nofun, nofun⟩,
    fun st hst => ?_⟩
  refine (vouching_sound R d es).valid.persist_before (P := Onward st.move.before) (fun _ _ _ _ _ _ hg ho => ?_)
    hst (Does.onward (R := R) (t := .idle) ⟨trivial, rfl⟩)
  obtain ⟨t, hd, -⟩ := hg
  exact ho.trans hd.onward

/-- In every run an effect that was started is claimed: it is neither still reserved nor
cancelled, and never will be. -/
theorem started_effects_claimed (R : Runtime D) (d : D) (es : List (Event (FenceCall D))) (effectId : String) :
    (FencePool.run R d es).store.world.count (.executeStarted effectId) = 0 ∨
      RowIs effectId (fun r => r.state ≠ .reserved ∧ r.state ≠ .cancelledPreDispatch) (FencePool.run R d es).store := by
  have hv := (fencePool_sound (R := R) d es).valid
  by_contra! hn
  obtain ⟨start, hstart, hs⟩ := (count_starts hv rfl).2 hn.1
  obtain ⟨later, earlier, htrace⟩ := List.append_of_mem hstart
  have hown := own_claim (htrace ▸ hv).split.2.1 hs
  obtain ⟨-, after, claim, before, rfl, -, ⟨-, r, hr, hexec⟩, -⟩ := hown
  have hmem : claim ∈ (FencePool.run R d es).trace := by
    rw [htrace]
    simp
  refine hn.2 (hv.persist (fun _ _ _ _ _ _ hg hrow => ?_) hmem ⟨r, hr, by simp [hexec]⟩)
  obtain ⟨t, hd, -⟩ := hg
  refine hrow.does (fun r r' hk hnext => ⟨hnext.not_reserved, fun hc => ?_⟩) hd
  generalize hs : r.state = a at hnext
  rw [hc] at hnext
  cases hnext with
  | cancel => exact hk.1 hs
  | reconcile _ h => rcases h with h | h <;> cases h

end VeraMono
