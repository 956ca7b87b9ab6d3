import VeraMono.Proof.Steps

/-!
# Footprints of the routines

`Within R T p`: every atom of the lock-free routine `p` makes a transition in `T`.
Each routine's footprint is proved from those of the routines it calls, and
`program_locked` collects them: every atom of a call makes one of the transitions
the call is for (`Call.makes`), under the lock of that transition.
-/

namespace VeraMono

open Framework Transition

variable {D : Type} {R : Runtime D} {α β : Type}

/-- No transition at all. -/
def Transition.idles (t : Transition D) : Prop := t = .idle

/-- Every atom makes a transition in `T`. -/
def Within (R : Runtime D) (T : Transition D → Prop) (p : Op D α) : Prop :=
  p.All fun s s' => ∃ t, T t ∧ t.Does R s s'

namespace Within

variable {T T' : Transition D → Prop}

theorem mono {p : Op D α} (hT : ∀ t, T t → T' t) (hp : Within R T p) : Within R T' p :=
  Prog.All.mono (fun _ _ ⟨t, ht, hd⟩ => ⟨t, hT t ht, hd⟩) hp

theorem bind {p : Op D α} {f : α → Op D β} (hp : Within R T p) (hf : ∀ a, Within R T (f a)) :
    Within R T (p >>= f) := Prog.All.bind hp hf

theorem pure (a : α) : Within R T (Pure.pure a : Op D α) := trivial

theorem throw (e : Failure) : Within R T (MonadExcept.throw e : Op D α) := trivial

theorem lift (r : Except Failure α) : Within R T (Op.lift r : Op D α) := Prog.All.ofExcept r

theorem map {p : Op D α} (hp : Within R T p) (f : α → β) : Within R T (p.map f) :=
  Prog.All.map hp f

theorem ite {c : Prop} [Decidable c] {p q : Op D α} (hp : Within R T p) (hq : Within R T q) :
    Within R T (if c then p else q) := by
  split <;> assumption

theorem guard {c : Prop} [Decidable c] {e : Failure} {p : Op D α} (hp : Within R T p) :
    Within R T (if c then (MonadExcept.throw e : Op D PUnit) >>= fun _ => p else p) := by
  split
  · exact .bind (.throw e) fun _ => hp
  · exact hp

theorem tryCatch {p : Op D α} {h : Failure → Op D α} (hp : Within R T p)
    (hh : ∀ e, Within R T (h e)) : Within R T (MonadExcept.tryCatch p h) := Prog.All.tryCatch hp hh

theorem readOnly (hi : T .idle) {p : Op D α} (hp : p.ReadOnly) : Within R T p :=
  Prog.All.mono (fun _ _ h => ⟨.idle, hi, trivial, h⟩) hp

theorem readM (hi : T .idle) (f : VeraState D → Except Failure α) :
    Within R T (.readM f : Op D α) := readOnly hi (.readM f)

theorem read (hi : T .idle) (f : VeraState D → α) : Within R T (.read f : Op D α) :=
  readOnly hi (.read f)

theorem txn {f : VeraState D → Except Failure (α × VeraState D)} (hi : T .idle)
    (h : ∀ s a s', f s = .ok (a, s') → ∃ t, T t ∧ t.Does R s s') :
    Within R T (Prog.txn f : Op D α) := Prog.All.txn h fun _ => ⟨.idle, hi, trivial, rfl⟩

/-- The transaction of one store, from what it does to that store. -/
theorem mapped {γ : Type} (f : VeraState D → Except Failure (α × γ))
    (put : VeraState D → γ → VeraState D) (hi : T .idle)
    (h : ∀ s a x, f s = .ok (a, x) → ∃ t, T t ∧ t.Does R s (put s x)) :
    Within R T (Prog.txn fun s => (f s).map fun r => (r.1, put s r.2) : Op D α) := by
  refine txn hi fun s a s' hs => ?_
  cases hf : f s with
  | error e => rw [hf] at hs; cases hs
  | ok r =>
    rw [hf] at hs
    obtain ⟨rfl, rfl⟩ : r.1 = a ∧ put s r.2 = s' := by simpa [Except.map] using hs
    exact h s r.1 r.2 hf

theorem publish {p : CandidateValues D} {expected : Option Int} (hi : T .idle)
    (hp : T (.publish p)) :
    Within R T (Op.onCurrentness (CurrentnessStore.publish R.hash R.config.currentnessSubjectId p
      expected)) :=
  mapped _ (fun s t => { s with currentness := t }) hi fun _ _ _ h =>
    ⟨.publish p, hp, trivial, by rw [(publish_ok h).2.2]; rfl⟩

theorem onCommands {f : CommandJournal D → Except Failure (α × CommandJournal D)} (hi : T .idle)
    (hc : ∀ j, T (.commands j)) : Within R T (Op.onCommands f) :=
  mapped _ (fun s j => { s with commands := j }) hi fun _ _ j _ => ⟨.commands j, hc j, trivial, rfl⟩

theorem emit {e : WorldEvent D} (hi : T .idle) (he : T (.world e)) :
    Within R T (Op.emit e : Op D Unit) := by
  refine txn hi fun s a s' h => ?_
  cases h
  exact ⟨.world e, he, trivial, rfl⟩

theorem readOnly_of_idle {p : Op D α} (hp : Within R idles p) : p.ReadOnly :=
  Prog.All.mono (fun _ _ ⟨_, ht, hd⟩ => by subst ht; exact hd.eq) hp

variable [DecidableEq D]

theorem onAudit {b : AuditBody D} (hi : T .idle) (hb : T (.audit b)) :
    Within R T (Op.onAudit (OutboundExecutionAudit.append R.hash b)) := by
  refine mapped _ (fun s log => { s with audit := log }) hi fun s e log' h => ?_
  obtain ⟨hid, hk, happ⟩ := audit_append_ok h
  rcases Chaining.append_cases happ with ⟨rfl, -⟩ | ⟨hn, -, rfl⟩
  · exact ⟨.idle, hi, trivial, rfl⟩
  · exact ⟨.audit b, hb, ⟨hid, hk, hn⟩, rfl⟩

theorem onJournal {b : JournalBody D} (hi : T .idle) (hb : T (.journal b)) :
    Within R T (Op.onJournal (LifecycleJournal.append R.hash b)) := by
  refine mapped _ (fun s log => { s with journal := log }) hi fun s e log' h => ?_
  rcases Chaining.append_cases (journal_append_ok h).2 with ⟨rfl, -⟩ | ⟨hn, -, rfl⟩
  · exact ⟨.idle, hi, trivial, rfl⟩
  · exact ⟨.journal b, hb, hn, rfl⟩

theorem onCheckpoints {b : CheckpointBody D} {expectedHead : DigestText D} (hi : T .idle)
    (hb : T (.checkpoint b)) :
    Within R T (Op.onCheckpoints (NativeRecoveryCheckpointStore.append R.hash b expectedHead)) := by
  refine mapped _ (fun s log => { s with checkpoints := log }) hi fun s e log' h => ?_
  rcases checkpoint_append_ok h with ⟨rfl, -⟩ | ⟨hn, -, -, rfl⟩
  · exact ⟨.idle, hi, trivial, rfl⟩
  · exact ⟨.checkpoint b, hb, hn, rfl⟩

end Within

/-! ## Routines that only read -/

variable [DecidableEq D]

namespace OutboundExecutionAudit

theorem verifyChain_readOnly (H : Hashing D) : (verifyChain H).ReadOnly :=
  (Prog.ReadOnly.read _).bind fun _ => (Prog.ReadOnly.read _).bind fun _ =>
    (Prog.ReadOnly.read _).bind fun _ => Prog.All.ofExcept _

theorem checkEffects_readOnly (receipts : List (EffectReceipt D)) :
    ∀ ids : List String, (checkEffects receipts ids).ReadOnly
  | [] => trivial
  | _ :: ids => (Prog.ReadOnly.read _).bind fun _ => (Prog.All.ofExcept _).bind fun _ =>
      (checkEffects_readOnly receipts ids).bind fun _ => trivial

theorem verifyFenceConsistency_readOnly (H : Hashing D) (ids : List String) :
    (verifyFenceConsistency H ids).ReadOnly := by
  refine (verifyChain_readOnly H).bind fun _ => (Prog.ReadOnly.read _).bind fun _ =>
    (Prog.ReadOnly.read _).bind fun _ => (checkEffects_readOnly _ _).bind fun _ => ?_
  split <;> trivial

end OutboundExecutionAudit

theorem assertOutboundEffectIntegrity_readOnly : (assertOutboundEffectIntegrity R).ReadOnly :=
  (OutboundExecutionAudit.verifyFenceConsistency_readOnly _ _).bind fun _ => trivial

theorem verifyJournalChain_readOnly : (verifyJournalChain R).ReadOnly :=
  (Prog.ReadOnly.read _).bind fun _ => (Prog.ReadOnly.read _).bind fun _ =>
    (Prog.ReadOnly.read _).bind fun _ => Prog.All.ofExcept _

omit [DecidableEq D] in
theorem reconstruction_readOnly {status : ReconstructionStatus} {m c : D}
    {current : Option (CurrentnessSnapshot D)}
    {accepted latest pending resume : Option (NativeRecoveryCheckpoint D)} :
    (reconstruction status m c current accepted latest pending resume).ReadOnly :=
  (Prog.ReadOnly.read _).bind fun _ => (Prog.ReadOnly.read _).bind fun _ => trivial

omit [DecidableEq D] in
theorem committedInJournal_readOnly (id : String) : (committedInJournal R id).ReadOnly := by
  refine (Prog.ReadOnly.read _).bind fun c => ?_
  split
  · trivial
  · exact Prog.ReadOnly.read _

/-! ## What each call is for -/

namespace Transition

/-- What a dispatch of an effect does to the stores without moving the effect on. -/
def prepares (effectId : String) : Transition D → Prop
  | .idle => True
  | .reserve r => r.effectId = effectId
  | .audit b => b.effectId = effectId ∧ b.eventType.reconciled = false
  | _ => False

/-- What a dispatch of an effect does to the stores. -/
def records (effectId : String) : Transition D → Prop
  | .idle => True
  | .reserve r => r.effectId = effectId
  | .advance _ r' => r'.state.reconciled = false
  | .audit b => b.effectId = effectId ∧ b.eventType.reconciled = false
  | _ => False

def dispatches (effectId : String) : Transition D → Prop
  | .world e => e = .executeStarted effectId ∨ e = .executeReturned effectId ∨
      e = .executeRaised effectId
  | t => records effectId t

def cancels : Transition D → Prop
  | .idle => True
  | .advance _ r' => r'.state = .cancelledPreDispatch
  | .audit b => b.eventType = .cancelledPreDispatch
  | _ => False

def reconciles (effectId : String) : Transition D → Prop
  | .idle => True
  | .advance r r' => r.effectId = effectId ∧ r'.state.reconciled = true
  | .audit b => b.effectId = effectId ∧ b.signed = true
  | _ => False

def repairs : Transition D → Prop
  | .idle => True
  | .audit b => b.payload.restartReconstructedFromEffectFence = true
  | _ => False

/-- A reconstruction of the lifecycle. -/
def restarts : Transition D → Prop
  | .idle => True
  | .journal b => b.eventType = .restartReconciledCommitted
  | _ => False

def permits : Transition D → Prop
  | .world (.permitMinted _) => True
  | t => restarts t

def checkpoints : Transition D → Prop
  | .idle | .checkpoint _ | .publish _ => True
  | .journal b => b.eventType ≠ .restartReconciledCommitted
  | _ => False

end Transition

/-- The transitions of a call. -/
def Call.makes : Call D → Transition D → Prop
  | .dispatch _ args, t => dispatches args.effectId t
  | .invoke args, t => dispatches ("coordination:" ++ args.commandId) t ∨ ∃ j, t = .commands j
  | .cancelReservedEffect _, t => cancels t
  | .cancelReservedCommand _ _, t => cancels t ∨ permits t
  | .reconcile args, t => reconciles args.effectId t
  | .openState, t => repairs t
  | .reconstruct, t | .resumeContext, t => repairs t ∨ restarts t
  | .acceptedActionPermit, t => permits t
  | .validateActionPermit _, t => idles t
  | .checkpoint _, t => checkpoints t
  | .admitRecord _ _, t => t = .idle ∨ ∃ m, t = .memory m
  | .replaceControlSource digest, t => t = .idle ∨ t = .control digest

/-! ## Routines -/

section Routines
variable {T : Transition D → Prop}

omit [DecidableEq D] in
theorem reconstruction_within (hi : T .idle) {status : ReconstructionStatus} {m c : D}
    {current : Option (CurrentnessSnapshot D)}
    {accepted latest pending resume : Option (NativeRecoveryCheckpoint D)} :
    Within R T (reconstruction status m c current accepted latest pending resume) :=
  .readOnly hi reconstruction_readOnly

theorem reconcileJournal_within {reconcile : Bool} {accepted : NativeRecoveryCheckpoint D}
    {current : CurrentnessSnapshot D} (hi : T .idle)
    (hj : reconcile = true → ∀ b, b.eventType = .restartReconciledCommitted → T (.journal b)) :
    Within R T (reconcileJournal R reconcile accepted current) := by
  refine .bind (.readOnly hi (committedInJournal_readOnly _)) fun c => ?_
  split
  · rename_i hc
    exact .bind (.onJournal hi (hj hc.2 _ rfl)) fun _ => .pure _
  · exact .pure _

/-- A reconstruction writes nothing but the commit event that it is asked for. -/
theorem reconstruct_within {reconcile : Bool} (hi : T .idle)
    (hj : reconcile = true → ∀ b, b.eventType = .restartReconciledCommitted → T (.journal b)) :
    Within R T (reconstruct R reconcile) := by
  refine .bind (.readOnly hi assertOutboundEffectIntegrity_readOnly) fun _ =>
    .bind (.readOnly hi verifyJournalChain_readOnly) fun _ => .bind (.read hi _) fun _ =>
    .bind (.read hi _) fun _ => .bind (.readM hi _) fun latest => .bind (.readM hi _) fun current => ?_
  cases current with
  | none =>
    cases latest with
    | none => exact reconstruction_within hi
    | some newest => exact .bind (.read hi _) fun _ => reconstruction_within hi
  | some current =>
    refine .bind (.readM hi _) fun payload => .guard <| .bind (.readM hi _) fun accepted =>
      .guard <| .bind (reconcileJournal_within hi hj) fun reconciled => ?_
    cases latest with
    | none => exact reconstruction_within hi
    | some newest =>
      exact .ite (.bind (.read hi _) fun _ => reconstruction_within hi) (reconstruction_within hi)

theorem validateActionPermit_readOnly (permit : AcceptedLifecyclePermit D) :
    (validateActionPermit R permit).ReadOnly := by
  have hi : idles (.idle : Transition D) := rfl
  refine Within.readOnly_of_idle (R := R) (.guard <| .guard <|
    .bind (.readOnly hi assertOutboundEffectIntegrity_readOnly) fun _ =>
    .bind (reconstruct_within hi (fun h => nomatch h)) fun _ => .guard <|
    .bind (.readM hi _) fun _ => .bind (.readM hi _) fun _ => .bind (.read hi _) fun _ => ?_)
  dsimp only
  split
  · exact .throw _
  · exact .pure _

theorem appendMissing_within {receipt : EffectReceipt D} (hi : T .idle)
    (hb : ∀ b : AuditBody D, b.payload.restartReconstructedFromEffectFence = true → T (.audit b)) :
    ∀ (passes : Nat) (current : OutboundAuditEvent D) (repaired : Bool),
      Within R T (OutboundExecutionAudit.appendMissing R.hash receipt passes current repaired)
  | 0, _, _ => .throw _
  | passes + 1, current, repaired => by
    refine .ite (.pure _) (.bind (.lift _) fun _ => .bind (.onAudit hi (hb _ rfl)) fun _ =>
      .bind (.read hi _) fun current => ?_)
    cases current with
    | none => exact .throw _
    | some current => exact appendMissing_within hi hb passes current true

theorem repairEffects_within (hi : T .idle)
    (hb : ∀ b : AuditBody D, b.payload.restartReconstructedFromEffectFence = true → T (.audit b)) :
    ∀ receipts, Within R T (OutboundExecutionAudit.repairEffects R.hash receipts)
  | [] => .pure _
  | receipt :: rest => by
    refine .bind (.bind (.read hi _) fun current => ?_) fun _ =>
      .bind (repairEffects_within hi hb rest) fun _ => .pure _
    cases current with
    | none => exact .throw _
    | some current => exact appendMissing_within hi hb _ current false

theorem repairFromFence_within (hi : T .idle)
    (hb : ∀ b : AuditBody D, b.payload.restartReconstructedFromEffectFence = true → T (.audit b)) :
    Within R T (OutboundExecutionAudit.repairFromFence R.hash) :=
  .bind (.readOnly hi (OutboundExecutionAudit.verifyChain_readOnly _)) fun _ => .bind (.read hi _) fun _ =>
    .bind (repairEffects_within hi hb _) fun _ =>
    .readOnly hi (OutboundExecutionAudit.verifyFenceConsistency_readOnly _ _)

theorem mintPermit_within (hi : T .idle)
    (hj : ∀ b, b.eventType = .restartReconciledCommitted → T (.journal b))
    (hp : ∀ p, T (.world (.permitMinted p))) : Within R T (mintPermit R) := by
  refine .bind (.readM hi _) fun _ => .bind (.readOnly hi assertOutboundEffectIntegrity_readOnly)
    fun _ => .bind (reconstruct_within hi fun _ => hj) fun state => .guard ?_
  split
  · exact .throw _
  · refine .bind (.readM hi _) fun _ => .bind ?_ fun _ => .bind (.read hi _) fun _ =>
      .bind (.emit hi (hp _)) fun _ => .pure _
    have hstored (accepted : NativeRecoveryCheckpoint D) :
        Within R T (acceptedGeneration.storedGeneration R accepted) :=
      .bind (.readM hi _) fun _ => .pure _
    cases state.latest with
    | none => exact hstored _
    | some newest => exact .ite (.pure _) (hstored _)

theorem auditAppend_within {effectId effectKind : String} {eventType : AuditEventType}
    {payload : AuditPayload D} (hi : T .idle)
    (hb : T (.audit ⟨effectId, effectKind, eventType, payload⟩)) :
    Within R T (auditAppend R effectId effectKind eventType payload) := .onAudit hi hb

omit [DecidableEq D] in
theorem onFence_within {f : EffectFence D → Except Failure (α × EffectFence D)} (hi : T .idle)
    (h : ∀ s : VeraState D, ∀ a t', f s.fence = .ok (a, t') →
      ∃ t, T t ∧ t.Does R s { s with fence := t' }) : Within R T (Op.onFence f) :=
  .mapped _ (fun s t => { s with fence := t }) hi h

theorem reserve_within {effectId : String} {cut : EffectFence.EvidenceCut D} (hi : T .idle)
    (hr : ∀ r, r.effectId = effectId → T (.reserve r)) :
    Within R T (Op.onFence (EffectFence.reserve effectId cut)) := by
  refine onFence_within hi fun s r t' h => ?_
  obtain ⟨-, hid, t, ht, hd⟩ := reserve_does h
  refine ⟨t, ?_, hd⟩
  rcases ht with rfl | rfl
  · exact hi
  · exact hr r hid

theorem claimDispatch_within {effectId : String} {cut : EffectFence.EvidenceCut D} (hi : T .idle)
    (hr : ∀ r, r.effectId = effectId → T (.reserve r))
    (ha : ∀ r r', r'.state = .executing → T (.advance r r')) :
    Within R T (claimDispatch effectId cut) := by
  refine .bind (reserve_within hi hr) fun requested => onFence_within hi fun s r t' h => ?_
  obtain ⟨row, -, -, hd⟩ := claim_does h
  exact ⟨_, ha row _ rfl, hd⟩

omit [DecidableEq D] in
theorem settle_within {effectId : String} {result : Option (DigestText D)} {known : Bool}
    (hi : T .idle) (ha : ∀ r r', r'.state.reconciled = false → T (.advance r r')) :
    Within R T (Op.onFence (EffectFence.settle effectId result known)) := by
  refine onFence_within hi fun s r t' h => ?_
  obtain ⟨row, d, -, -, -, hd⟩ := settle_does h
  exact ⟨_, ha row _ (by cases known <;> rfl), hd⟩

section Dispatch
variable {args : DispatchArgs D}

omit [DecidableEq D] in
theorem records_of_prepares {effectId : String} (t : Transition D) (ht : prepares effectId t) :
    records effectId t := by
  cases t with
  | idle | reserve | audit => exact ht
  | _ => exact ht.elim

theorem stage_prepares {kind : String} {stage : AuditEventType} {payload : AuditPayload D}
    (h : stage.reconciled = false) :
    Within R (prepares args.effectId) (auditAppend R args.effectId kind stage payload) :=
  .onAudit trivial ⟨rfl, h⟩

theorem validate_prepares :
    Within R (prepares args.effectId) (validateActionPermit R args.permit) :=
  .readOnly trivial (validateActionPermit_readOnly _)

variable {requestDigest : D}

theorem reserveEffect_prepares :
    Within R (prepares args.effectId) (reserveEffect R args requestDigest) :=
  .bind (.readM trivial _) fun _ => .bind validate_prepares fun _ => .bind (.lift _) fun _ =>
    .bind (.lift _) fun _ => .bind (.lift _) fun _ => .bind (stage_prepares rfl) fun _ =>
    .bind (reserve_within trivial fun _ h => h) fun _ => .bind (stage_prepares rfl) fun _ => .pure _

theorem stage_within {kind : String} {stage : AuditEventType} {payload : AuditPayload D}
    (h : stage.reconciled = false) :
    Within R (records args.effectId) (auditAppend R args.effectId kind stage payload) :=
  .mono records_of_prepares (stage_prepares h)

theorem validate_within : Within R (records args.effectId) (validateActionPermit R args.permit) :=
  .mono records_of_prepares validate_prepares

theorem reserveEffect_within :
    Within R (records args.effectId) (reserveEffect R args requestDigest) :=
  .mono records_of_prepares reserveEffect_prepares

omit [DecidableEq D] in
theorem settle_records {result : Option (DigestText D)} {known : Bool} :
    Within R (records args.effectId) (Op.onFence (EffectFence.settle args.effectId result known)) :=
  settle_within trivial fun _ _ h => h

omit [DecidableEq D] in
theorem dispatches_of_records (t : Transition D) (ht : records args.effectId t) :
    dispatches args.effectId t := by
  cases t with
  | world => exact ht.elim
  | _ => exact ht

theorem runEffect_within : Within R (dispatches args.effectId) (runEffect R args) := by
  refine .tryCatch (.bind ?_ fun _ => .bind (.lift _) fun _ => .pure _) fun e =>
    .mono dispatches_of_records (.bind settle_records fun _ => .bind (stage_within rfl) fun _ => .throw e)
  refine .bind (.emit trivial (.inl rfl)) fun _ => ?_
  cases args.execute with
  | ok value => exact .bind (.emit trivial (.inr (.inl rfl))) fun _ => .pure _
  | error e => exact .bind (.emit trivial (.inr (.inr rfl))) fun _ => .throw e

theorem dispatchReserved_within {cut : EffectFence.EvidenceCut D} :
    Within R (dispatches args.effectId) (dispatchReserved R args requestDigest cut) := by
  have executing {s : EffectState} (h : s = .executing) : s.reconciled = false := by rw [h]; rfl
  have hr {β : Type} {p : Op D β} (hp : Within R (records args.effectId) p) :
      Within R (dispatches args.effectId) p := hp.mono dispatches_of_records
  exact .bind (hr validate_within) fun _ =>
    .bind (hr (claimDispatch_within trivial (fun _ h => h) fun _ _ h => executing h)) fun _ =>
    .bind (hr (stage_within rfl)) fun _ => .bind runEffect_within fun _ =>
    .bind (hr settle_records) fun _ => .bind (hr (stage_within rfl)) fun _ => .pure _

theorem dispatchLocked_within :
    Within R (dispatches args.effectId) (dispatchLocked R args requestDigest) :=
  .bind (.mono dispatches_of_records reserveEffect_within) fun _ => dispatchReserved_within

end Dispatch

theorem cancelReservation_within {missing : Failure} {effectId : String} (hi : T .idle)
    (ha : ∀ r r', r'.state = .cancelledPreDispatch → T (.advance r r'))
    (hb : ∀ b : AuditBody D, b.eventType = .cancelledPreDispatch → T (.audit b)) :
    Within R T (cancelReservation R missing effectId) := by
  refine .bind (onFence_within hi fun s r t' h => ?_) fun _ => .bind (.read hi _) fun previous => ?_
  · obtain ⟨row, -, -, hd⟩ := cancel_does h
    exact ⟨_, ha row _ rfl, hd⟩
  · cases previous with
    | none => exact .throw _
    | some previous => exact .bind (auditAppend_within hi (hb _ rfl)) fun _ => .pure _

omit [DecidableEq D] in
theorem reconcileEvidence_readOnly (args : ReconcileArgs D) :
    (reconcileEvidence R args).ReadOnly := by
  have hi : idles (.idle : Transition D) := rfl
  exact Within.readOnly_of_idle (R := R) (.bind (.readM hi _) fun _ => .bind (.lift _) fun _ =>
    .guard <| .bind (.lift _) fun _ => .guard <| .pure _)

theorem reconcileLocked_within {args : ReconcileArgs D} :
    Within R (reconciles args.effectId) (reconcileLocked R args) := by
  refine .bind (.readOnly trivial (reconcileEvidence_readOnly args)) fun trust =>
    .bind (onFence_within trivial fun s r t' h => ?_) fun _ =>
    .bind (.read trivial _) fun previous => ?_
  · obtain ⟨row, hrow, -, hs, hd⟩ := reconcile_does h
    exact ⟨.advance row r, ⟨Table.get?_key hrow, by rw [hs]; cases args.effectOccurred <;> rfl⟩, hd⟩
  · cases previous with
    | none => exact .throw _
    | some previous =>
      refine .bind (.onAudit trivial ⟨rfl, ?_⟩) fun _ => .pure _
      change (reconciledStage args.effectOccurred).reconciled && true = true
      cases args.effectOccurred <;> rfl

theorem publishCandidate_within {args : CheckpointArgs D} {recovery : NativeRecoveryCheckpoint D}
    {report : DriftReport D} : Within R checkpoints (publishCandidate R args recovery report) :=
  .bind (.publish trivial trivial) fun _ => .bind (.onJournal trivial (fun h => nomatch h)) fun _ => .pure _

theorem checkpointUnlocked_within {args : CheckpointArgs D} :
    Within R checkpoints (checkpointUnlocked R args) := by
  have hj {b : JournalBody D} (h : b.eventType ≠ .restartReconciledCommitted) :
      Within R checkpoints (Op.onJournal (LifecycleJournal.append R.hash b)) := .onJournal trivial h
  refine .bind ?_ fun _ => .bind (.onCheckpoints trivial trivial) fun _ => .bind (.lift _) fun _ =>
    .bind (hj (fun h => nomatch h)) fun _ => .bind (.lift _) fun report => .ite ?_ ?_
  · exact .bind (.readM trivial _) fun _ =>
      .bind (.readOnly trivial assertOutboundEffectIntegrity_readOnly) fun _ =>
      .bind (.readOnly trivial verifyJournalChain_readOnly) fun _ => .bind (.read trivial _) fun _ =>
      .guard <| .bind (.read trivial _) fun _ => .pure _
  · exact .bind (hj (fun h => nomatch h)) fun _ => .throw _
  · exact .bind (hj (fun h => nomatch h)) fun _ => publishCandidate_within

theorem verifyIntegrity_readOnly : (CommandJournal.verifyIntegrity R).ReadOnly :=
  (Prog.ReadOnly.read _).bind fun _ => (Prog.ReadOnly.read _).bind fun _ =>
    (Prog.ReadOnly.read _).bind fun _ => (Prog.All.ofExcept _).bind fun _ => Prog.All.ofExcept _

theorem bindCommand_within {args : InvokeArgs D} {binding : CommandBinding D} (hi : T .idle)
    (hc : ∀ j, T (.commands j)) : Within R T (bindCommand R args binding) :=
  .bind (.readOnly hi verifyIntegrity_readOnly) fun _ => .bind (.lift _) fun _ =>
    .bind (.lift _) fun _ => .onCommands hi hc

theorem recordResult_within {args : InvokeArgs D} {receipt : CommandReceipt} {digest : D}
    (hi : T .idle) (hc : ∀ j, T (.commands j)) : Within R T (recordResult R args receipt digest) :=
  .bind (.readOnly hi verifyIntegrity_readOnly) fun _ => .bind (.readM hi _) fun _ =>
    .bind (.lift _) fun _ => .guard <| .guard <| .onCommands hi hc

end Routines

/-! ## Calls -/

namespace Transition

/-- Transitions that need no lock but `l`. -/
def Under (T : Transition D → Prop) (l : Lock) : Prop := ∀ t, T t → t.lock = none ∨ t.lock = some l

omit [DecidableEq D]

theorem lock_advance {r r' : EffectReceipt D} (h : r'.state.reconciled = false) :
    (advance r r').lock = some .lifecycle := by simp [lock, h]

theorem lock_audit {b : AuditBody D} (h : b.signed = false) :
    (audit b).lock = some .lifecycle := by simp [lock, h]

theorem signed_of_stage {b : AuditBody D} (h : b.eventType.reconciled = false) : b.signed = false := by
  simp [AuditBody.signed, h]

theorem records_under (effectId : String) : Under (records (D := D) effectId) .lifecycle := by
  intro t ht
  cases t with
  | idle => exact .inl rfl
  | reserve => exact .inr rfl
  | advance => exact .inr (lock_advance ht)
  | audit => exact .inr (lock_audit (signed_of_stage ht.2))
  | _ => exact ht.elim

theorem prepares_under (effectId : String) : Under (prepares (D := D) effectId) .lifecycle :=
  fun t ht => records_under effectId t (records_of_prepares t ht)

theorem dispatches_under (effectId : String) : Under (dispatches (D := D) effectId) .lifecycle := by
  intro t ht
  cases t with
  | world => exact .inr rfl
  | _ => exact records_under effectId _ ht

theorem cancels_under : Under (cancels (D := D)) .lifecycle := by
  intro t ht
  cases t with
  | idle => exact .inl rfl
  | advance => exact .inr (lock_advance (by rw [show _ = _ from ht]; rfl))
  | audit => exact .inr (lock_audit (signed_of_stage (by rw [show _ = _ from ht]; rfl)))
  | _ => exact ht.elim

theorem reconciles_under (effectId : String) : Under (reconciles (D := D) effectId) .trust := by
  intro t ht
  cases t with
  | idle => exact .inl rfl
  | advance => exact .inr (by simp [lock, ht.2])
  | audit => exact .inr (by simp [lock, ht.2])
  | _ => exact ht.elim

theorem repairs_under : Under (repairs (D := D)) .lifecycle := by
  intro t ht
  cases t with
  | idle => exact .inl rfl
  | audit b =>
    have hflag : b.payload.restartReconstructedFromEffectFence = true := ht
    exact .inr (lock_audit (by simp [AuditBody.signed, hflag]))
  | _ => exact ht.elim

theorem restarts_lock {t : Transition D} (ht : restarts t) : t.lock = none := by
  cases t with
  | idle => rfl
  | journal => exact if_pos ht
  | _ => exact ht.elim

theorem permits_under : Under (permits (D := D)) .lifecycle := by
  intro t ht
  cases t with
  | world => exact .inr rfl
  | _ => exact .inl (restarts_lock ht)

theorem checkpoints_under : Under (checkpoints (D := D)) .lifecycle := by
  intro t ht
  cases t with
  | idle => exact .inl rfl
  | checkpoint | publish => exact .inr rfl
  | journal => exact .inr (if_neg ht)
  | _ => exact ht.elim

theorem lock_held {T : Transition D → Prop} {l : Lock} {held : Finset Lock} (hT : Under T l)
    (hl : l ∈ held) {t : Transition D} (ht : T t) : ∀ l', t.lock = some l' → l' ∈ held := by
  intro l' hl'
  rcases hT t ht with h | h <;> rw [h] at hl' <;> cases hl'
  exact hl

end Transition

/-- An atom of a call: one of its transitions, under its lock. -/
def Moves (R : Runtime D) (c : Call D) (held : Finset Lock) (s s' : VeraState D) : Prop :=
  ∃ t, c.makes t ∧ (∀ l, t.lock = some l → l ∈ held) ∧ t.Does R s s'

section Calls
variable {c : Call D} {held : Finset Lock} {T : Transition D → Prop} {p : Op D α}

omit [DecidableEq D] in
theorem Within.locked (hp : Within R T p)
    (hT : ∀ t, T t → c.makes t ∧ ∀ l, t.lock = some l → l ∈ held) :
    p.Locked (Moves R c) held held :=
  Prog.All.locked <| Prog.All.mono
    (fun _ _ ⟨t, ht, hd⟩ => ⟨t, (hT t ht).1, (hT t ht).2, hd⟩) hp

omit [DecidableEq D] in
/-- A routine that needs one lock and holds it. -/
theorem Within.under {l : Lock} (hp : Within R T p) (hT : Under T l) (hc : ∀ t, T t → c.makes t)
    (hl : l ∈ held) : p.Locked (Moves R c) held held := by
  refine hp.locked fun t ht => ⟨hc t ht, fun l' hl' => ?_⟩
  rcases hT t ht with h | h
  · rw [h] at hl'
    cases hl'
  · rw [h] at hl'
    cases hl'
    exact hl

omit [DecidableEq D] in
theorem locked_readOnly (hi : c.makes .idle) (hp : p.ReadOnly) : p.Locked (Moves R c) held held :=
  Within.locked (.readOnly (T := idles) rfl hp) fun t ht => by
    cases (show t = .idle from ht)
    exact ⟨hi, fun l hl => nomatch hl⟩

theorem dispatchVerified_locked {trust : Bool} {args : DispatchArgs D}
    (hc : ∀ t, dispatches args.effectId t → c.makes t) :
    (dispatchVerified R trust args).Locked (Moves R c) ∅ ∅ := by
  have hbody {held : Finset Lock} (d : D) (hl : .lifecycle ∈ held) :
      (dispatchLocked R args d).Locked (Moves R c) held held :=
    dispatchLocked_within.under (dispatches_under _) hc hl
  have hlocks (d : D) : (Op.withLock .lifecycle
      (if trust then Op.withLock .trust (dispatchLocked R args d)
        else dispatchLocked R args d)).Locked (Moves R c) ∅ ∅ := by
    refine Prog.Locked.withLock ?_ (by decide)
    split
    · exact Prog.Locked.withLock (hbody d (by decide)) (by decide)
    · exact hbody d (by decide)
  exact .guard (.guard (.bind (.ofExcept _) hlocks))

theorem openState_locked (hc : ∀ t, repairs t → c.makes t) : (openState R).Locked (Moves R c) ∅ ∅ :=
  .withLock ((repairFromFence_within trivial fun _ h => h).under repairs_under hc (by decide))
    (by decide)

theorem reconstruct_locked (hc : ∀ t, restarts t → c.makes t) :
    (reconstruct R true).Locked (Moves R c) held held := by
  refine (reconstruct_within (T := restarts) trivial fun _ _ h => h).locked fun t ht => ?_
  refine ⟨hc t ht, fun l hl => ?_⟩
  rw [restarts_lock ht] at hl
  cases hl

theorem acceptedActionPermit_locked (hc : ∀ t, permits t → c.makes t) :
    (acceptedActionPermit R).Locked (Moves R c) ∅ ∅ :=
  .withLock ((mintPermit_within trivial (fun _ h => h) fun _ => trivial).under permits_under hc
    (by decide)) (by decide)

theorem cancelReservation_locked {missing : Failure} {effectId : String}
    (hc : ∀ t, cancels t → c.makes t) (hl : .lifecycle ∈ held) :
    (cancelReservation R missing effectId).Locked (Moves R c) held held :=
  (cancelReservation_within trivial (fun _ _ h => h) fun _ h => h).under cancels_under hc hl

theorem cancelReservedEffect_locked {effectId : String} (hc : ∀ t, cancels t → c.makes t) :
    (cancelReservedEffect R effectId).Locked (Moves R c) ∅ ∅ :=
  .withLock (.bind (locked_readOnly (hc _ trivial) (.readM _)) fun _ =>
    .guard (cancelReservation_locked hc (by decide))) (by decide)

theorem assessCommand_locked {commandId : String} {consistent : Bool}
    (hc : ∀ t, permits t → c.makes t) :
    (assessCommand R commandId consistent).Locked (Moves R c) ∅ ∅ := by
  have hr {β : Type} {p : Op D β} (hp : p.ReadOnly) : p.Locked (Moves R c) ∅ ∅ :=
    locked_readOnly (hc _ trivial) hp
  refine .bind (hr verifyIntegrity_readOnly) fun _ => .bind (hr (.readM _)) fun binding =>
    .bind (hr ((Prog.ReadOnly.readM _).bind fun _ => Prog.ReadOnly.readM _)) fun _ =>
    .bind (hr (OutboundExecutionAudit.verifyFenceConsistency_readOnly _ _)) fun _ =>
    .bind (hr (.read _)) fun _ => .bind ?_ fun _ => rfl
  refine .tryCatch (.bind (acceptedActionPermit_locked hc) fun _ => rfl) fun e => ?_
  split <;> rfl

theorem program_locked (c : Call D) : (program R c).Locked (Moves R c) ∅ ∅ := by
  cases c with
  | dispatch trust args =>
    refine Prog.Locked.map ?_ _
    exact dispatchVerified_locked fun t ht => ht
  | invoke args =>
    have hc {β : Type} {p : Op D β}
        (hp : Within R (fun t => t = .idle ∨ ∃ j, t = .commands j) p) :
        p.Locked (Moves R (.invoke args)) ∅ ∅ := by
      refine hp.locked fun t ht => ?_
      rcases ht with rfl | ⟨j, rfl⟩
      · exact ⟨.inl trivial, fun l hl => nomatch hl⟩
      · exact ⟨.inr ⟨j, rfl⟩, fun l hl => nomatch hl⟩
    refine Prog.Locked.map (.guard <| .bind (.ofExcept _) fun _ => .bind (.ofExcept _) fun _ =>
      .bind (.ofExcept _) fun _ => .bind (.ofExcept _) fun _ => .bind (.ofExcept _) fun _ =>
      .bind (hc (bindCommand_within (.inl rfl) fun j => .inr ⟨j, rfl⟩)) fun _ =>
      .bind (dispatchVerified_locked fun t ht => .inl ht) fun _ => ?_) _
    cases args.receipt with
    | none => rfl
    | some receipt =>
      exact .bind (hc (recordResult_within (.inl rfl) fun j => .inr ⟨j, rfl⟩)) fun _ => rfl
  | cancelReservedEffect effectId =>
    refine Prog.Locked.map ?_ _
    exact cancelReservedEffect_locked fun t ht => ht
  | cancelReservedCommand commandId consistent =>
    have ha : (assessCommand R commandId consistent).Locked
        (Moves R (.cancelReservedCommand commandId consistent)) ∅ ∅ :=
      assessCommand_locked fun t ht => .inr ht
    refine Prog.Locked.map (.bind ha fun _ => .guard <| .bind (.withLock
      (cancelReservation_locked ?_ (by decide)) (by decide)) fun _ => ha) _
    exact fun t ht => .inl ht
  | reconcile args =>
    refine Prog.Locked.map (.withLock (reconcileLocked_within.under (reconciles_under _) ?_
      (by decide)) (by decide)) _
    exact fun t ht => ht
  | openState =>
    refine Prog.Locked.map ?_ _
    exact openState_locked fun t ht => ht
  | reconstruct =>
    refine Prog.Locked.map ?_ _
    exact .bind (openState_locked fun t ht => .inl ht) fun _ => reconstruct_locked fun t ht => .inr ht
  | resumeContext =>
    refine Prog.Locked.map ?_ _
    exact .bind (openState_locked fun t ht => .inl ht) fun _ =>
      .bind (reconstruct_locked fun t ht => .inr ht) fun _ =>
      .bind (openState_locked fun t ht => .inl ht) fun _ => rfl
  | acceptedActionPermit =>
    refine Prog.Locked.map ?_ _
    exact acceptedActionPermit_locked fun t ht => ht
  | validateActionPermit permit =>
    refine Prog.Locked.map ?_ _
    exact locked_readOnly rfl (validateActionPermit_readOnly permit)
  | checkpoint args =>
    refine Prog.Locked.map (.withLock (checkpointUnlocked_within.under checkpoints_under ?_
      (by decide)) (by decide)) _
    exact fun t ht => ht
  | admitRecord request expectedHead =>
    refine Prog.Locked.map (Within.locked (T := fun t => t = .idle ∨ ∃ m, t = .memory m)
      (.mapped _ (fun s m => { s with memory := m }) (.inl rfl) fun s _ m h => ?_) fun t ht => ?_) _
    · rcases admit_ok h with rfl | h
      · exact ⟨.idle, .inl rfl, trivial, rfl⟩
      · exact ⟨.memory m, .inr ⟨m, rfl⟩, h, rfl⟩
    · refine ⟨ht, fun l hl => ?_⟩
      rcases ht with rfl | ⟨m, rfl⟩ <;> cases hl
  | replaceControlSource digest =>
    refine Prog.Locked.map (Within.locked (T := fun t => t = .idle ∨ t = .control digest)
      (.txn (.inl rfl) fun s _ _ h => ?_) fun t ht => ?_) _
    · cases h
      exact ⟨.control digest, .inr rfl, trivial, rfl⟩
    · refine ⟨ht, fun l hl => ?_⟩
      rcases ht with rfl | rfl <;> cases hl

end Calls

end VeraMono
