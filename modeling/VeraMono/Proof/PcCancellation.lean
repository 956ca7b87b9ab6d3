import VeraMono.Framework.Crashes
import VeraMono.Model.PcSample
import VeraMono.Proof.QualifiedPc

/-!
# Cancellations that are interrupted

`cancel_reserved_attempt` writes the fence, the audit and the journal one after the other. A crash
before the fence is written leaves everything to be done, and one after the journal is written
leaves nothing; between them the effect is cancelled and its attempt is not abandoned, and neither
`assess` nor a second call takes that for a cancellation. `cancellation_resumes_iff` says exactly
at which crash points a second call still cancels; `cancellation_torn` is a crash between the two.
-/

namespace VeraMono

open Framework QualifiedPCExecutionAdapter

variable {D : Type} [DecidableEq D] {R : PcRuntime D} {args : CancelArgs D} {s s' : PCState D}

/-! ## A cancellation that is not interrupted -/

section Effect
variable {R : Runtime D} {v v' : VeraState D} {effectId : String} {cancelled : EffectReceipt D}

omit [DecidableEq D] in
theorem cancelBeforeDispatch_ok {t t' : EffectFence D}
    (h : EffectFence.cancelBeforeDispatch effectId t = .ok (cancelled, t')) :
    ∃ receipt, t.get? effectId = some receipt ∧ receipt.state = .reserved ∧
      t' = t.update { receipt with state := .cancelledPreDispatch } ∧
      cancelled.state = .cancelledPreDispatch := by
  simp only [EffectFence.cancelBeforeDispatch, bind_eq_ok, requireText_ok] at h
  obtain ⟨_, ⟨-, rfl⟩, h⟩ := h
  split at h
  · cases h
  · rename_i receipt hrow
    split at h
    · cases h
    · cases h
      exact ⟨receipt, hrow, not_not.1 ‹_›, rfl, rfl⟩

def FenceKept (v v' : VeraState D) : Prop := v'.fence = v.fence

omit [DecidableEq D] in
theorem FenceKept.leaves {α : Type} {p : Op D α} (hp : p.All FenceKept) (h : p.Leaves v v') :
    v'.fence = v.fence :=
  hp.leaves (P := FenceKept) (fun _ => rfl) (fun _ _ _ h h' => h'.trans h) h

theorem auditAppend_kept {effectKind : String} {eventType : AuditEventType} {payload : AuditPayload D} :
    (auditAppend R effectId effectKind eventType payload).All FenceKept := by
  refine .txn (fun s a s' hs => ?_) fun _ => rfl
  obtain ⟨_, -, heq⟩ := map_eq_ok.1 hs
  cases heq
  rfl

/-- The stores of a cancellation on the way: the second of its four atoms writes the fence. -/
structure CancelsEffect (R : Runtime D) (effectId : String) (v v' : VeraState D) : Prop where
  length : (cancelReservedEffect R effectId).length v = 4
  before : ∀ n, n ≤ 1 → (cancelReservedEffect R effectId).stopAt n v = v
  after : ∀ n, 2 ≤ n → ∃ receipt,
    ((cancelReservedEffect R effectId).stopAt n v).fence.get? effectId = some receipt ∧
      receipt.state = .cancelledPreDispatch
  done : ∃ receipt, v'.fence.get? effectId = some receipt ∧ receipt.state = .cancelledPreDispatch

def auditCancellation (R : Runtime D) (missing : Failure) (effectId : String) (cancelled : EffectReceipt D) :
    Op D (EffectReceipt D) := do
  let previous ← .read fun s => OutboundExecutionAudit.latest effectId s.audit
  match previous with
  | none => throw missing
  | some previous =>
    let _ ← auditAppend R effectId previous.body.effectKind .cancelledPreDispatch
      (stagePayload cancelled true none)
    return cancelled

theorem auditCancellation_kept {missing : Failure} :
    (auditCancellation R missing effectId cancelled).All FenceKept := by
  refine .bind ((Prog.ReadOnly.read _).all fun s => (rfl : FenceKept s s)) fun previous => ?_
  cases previous with
  | none => trivial
  | some previous => exact .bind auditAppend_kept fun _ => trivial

theorem auditCancellation_length {missing : Failure} {c : EffectReceipt D}
    (h : (auditCancellation R missing effectId c).run v = (.ok cancelled, v')) :
    (auditCancellation R missing effectId c).length v = 2 := by
  have hread : (Prog.read fun s : VeraState D => OutboundExecutionAudit.latest effectId s.audit : Op D _).run v =
      (.ok (OutboundExecutionAudit.latest effectId v.audit), v) := rfl
  rw [auditCancellation, Prog.run_bind_ok hread] at h
  rw [auditCancellation, Prog.length_bind_ok hread, Prog.length_read]
  generalize OutboundExecutionAudit.latest effectId v.audit = previous at h
  cases previous with
  | none => cases h
  | some previous =>
    dsimp only at h ⊢
    rw [Prog.run_bind] at h
    split at h
    · rename_i happend
      rw [Prog.length_bind_ok happend, auditAppend, Op.onAudit, Prog.length_txn]
      rfl
    · cases h

omit [DecidableEq D] in
theorem cancelEffect_run {v₁ : VeraState D}
    (h : (Op.onFence (EffectFence.cancelBeforeDispatch effectId) : Op D _).run v = (.ok cancelled, v₁)) :
    ∃ receipt, v₁.fence.get? effectId = some receipt ∧ receipt.state = .cancelledPreDispatch := by
  rw [Op.onFence, Prog.run_txn] at h
  cases hc : EffectFence.cancelBeforeDispatch effectId v.fence with
  | error e =>
    rw [hc] at h
    cases h
  | ok r =>
    obtain ⟨cancelled, t⟩ := r
    obtain ⟨receipt, hget, -, rfl, -⟩ := cancelBeforeDispatch_ok hc
    rw [hc] at h
    cases h
    obtain rfl := Table.get?_key hget
    exact ⟨_, Table.get?_update_self (v := { receipt with state := .cancelledPreDispatch }) hget, rfl⟩

theorem cancelReservation_run {missing : Failure}
    (h : (cancelReservation R missing effectId).run v = (.ok cancelled, v')) :
    (cancelReservation R missing effectId).length v = 3 ∧
      (∀ n, 1 ≤ n → ∃ receipt,
        ((cancelReservation R missing effectId).stopAt n v).fence.get? effectId = some receipt ∧
          receipt.state = .cancelledPreDispatch) := by
  have heq : cancelReservation R missing effectId =
      (Op.onFence (EffectFence.cancelBeforeDispatch effectId) >>= auditCancellation R missing effectId) := rfl
  have hone : (Op.onFence (EffectFence.cancelBeforeDispatch effectId) : Op D _).length v = 1 :=
    Prog.length_txn _ _
  rw [heq, Prog.run_bind] at h
  split at h
  · rename_i c v₁ htxn
    refine ⟨by rw [heq, Prog.length_bind_ok htxn, hone, auditCancellation_length h], fun n hn => ?_⟩
    rw [heq, Prog.stopAt_bind_ok htxn (hone ▸ hn),
      FenceKept.leaves auditCancellation_kept (Prog.leaves_stopAt _ _ _)]
    exact cancelEffect_run htxn
  · cases h

theorem cancelsEffect (h : (cancelReservedEffect R effectId).run v = (.ok cancelled, v')) :
    CancelsEffect R effectId v v' := by
  have hread : (Prog.readM fun s : VeraState D => EffectFence.read effectId s.fence : Op D _).run v =
      (EffectFence.read effectId v.fence, v) := Prog.run_readM _ _
  have hone : (Prog.readM fun s : VeraState D => EffectFence.read effectId s.fence : Op D _).length v = 1 :=
    Prog.length_readM _ _
  rw [cancelReservedEffect, Op.withLock, Prog.run_withLock, Prog.run_bind, hread] at h
  split at h
  swap
  · cases h
  rename_i receipt v₁ hrow
  obtain ⟨hrow, rfl⟩ := Prod.mk.inj hrow
  rw [hrow] at hread
  split at h
  · cases h
  rename_i hreserved
  obtain ⟨hlength, hafter⟩ := cancelReservation_run h
  have hstop (n : Nat) (hn : 1 ≤ n) : (cancelReservedEffect R effectId).stopAt n v =
      (cancelReservation R ⟨.valueError, "qualified reserved effect is missing outbound audit evidence"⟩
        effectId).stopAt (n - 1) v := by
    rw [cancelReservedEffect, Op.withLock, Prog.stopAt_withLock, Prog.stopAt_bind_ok hread (hone ▸ hn),
      hone, if_neg hreserved]
  have hall : (cancelReservedEffect R effectId).length v = 4 := by
    rw [cancelReservedEffect, Op.withLock, Prog.length_withLock, Prog.length_bind_ok hread, hone,
      if_neg hreserved, hlength]
  refine ⟨hall, fun n hn => ?_, fun n hn => ?_, ?_⟩
  · rcases Nat.le_one_iff_eq_zero_or_eq_one.1 hn with rfl | rfl
    · exact Prog.stopAt_zero _ _
    · rw [hstop 1 le_rfl]
      exact Prog.stopAt_zero _ _
  · rw [hstop n (by omega)]
    exact hafter (n - 1) (by omega)
  · obtain ⟨receipt, hget, hstate⟩ := hafter 3 (by omega)
    rw [Prog.stopAt_end hlength.le, h] at hget
    exact ⟨receipt, hget, hstate⟩

end Effect

variable {id : AttemptIdentity} {row : AttemptProjection} {α : Type}

omit [DecidableEq D] in
theorem identity_ok {prepared : PreparedPCDispatch D} {lease : PCExecutionLease}
    (h : identity R prepared lease = .ok id) : id = attemptIdentity prepared lease := by
  simp only [identity, bind_eq_ok, pure_ok] at h
  obtain ⟨_, -, rfl⟩ := h
  rfl

omit [DecidableEq D] in
theorem length_lift (r : Except Failure α) : (PCProg.lift r : PCProg D α).length s = 0 :=
  Prog.length_ofExcept r s

omit [DecidableEq D] in
theorem lift_bind_ok {α β : Type} {r : Except Failure α} {f : α → PCProg D β} {b : β}
    (h : (PCProg.lift r >>= f).run s = (.ok b, s')) :
    ∃ a, (PCProg.lift r : PCProg D α).run s = (.ok a, s) ∧ r = .ok a ∧ (f a).run s = (.ok b, s') := by
  obtain ⟨a, hr, h⟩ := Prog.run_readOnly_bind (Prog.All.ofExcept r) h
  exact ⟨a, hr, congrArg Prod.fst ((Prog.run_ofExcept r s).symm.trans hr), h⟩

omit [DecidableEq D] in
theorem journalGet_run {row : Option AttemptProjection}
    (h : (journalGet R id).run s = (.ok row, s')) :
    row = s.journal.attempts.get? id.key ∧ (journalGet R id).length s = 1 := by
  obtain ⟨_, hjob, -, h⟩ := lift_bind_ok h
  obtain ⟨_, hattempt, -, h⟩ := lift_bind_ok h
  cases h
  refine ⟨rfl, ?_⟩
  rw [journalGet, Prog.length_bind_ok hjob, Prog.length_bind_ok hattempt, length_lift, length_lift]
  rfl

omit [DecidableEq D] in
/-- What `assess` reads, in two atoms. -/
theorem assess_run {found : PCExecutionRecoveryAssessment}
    (h : (assess R args.prepared args.lease).run s = (.ok (some found), s')) :
    ∃ projection, s.journal.attempts.get? args.attempt = some projection ∧
      found = QualifiedPCExecutionAdapter.assessment projection args.prepared.effectId (s.vera.fence.get? args.prepared.effectId) ∧
      (assess R args.prepared args.lease).length s = 2 := by
  obtain ⟨id, hid, heq, h⟩ := lift_bind_ok h
  obtain ⟨row, hget, h⟩ := Prog.run_readOnly_bind journalGet_readOnly h
  obtain ⟨hrow, hone⟩ := journalGet_run hget
  obtain rfl := identity_ok heq
  cases row with
  | none => cases h
  | some projection =>
    have hlength : (assess R args.prepared args.lease).length s = 2 := by
      rewrite [assess, Prog.length_bind_ok hid, length_lift, Prog.length_bind_ok hget, hone]
      rfl
    cases h
    exact ⟨projection, hrow.symm, rfl, hlength⟩

/-- A cancellation that ends: the stores after the effect is cancelled, and after its attempt
is abandoned. -/
structure Cancels (R : PcRuntime D) (args : CancelArgs D) (s s' : PCState D) : Prop where
  found : ∃ projection receipt, s.journal.attempts.get? args.attempt = some projection ∧
    projection.localState ∉ terminalStates ∧
    s.vera.fence.get? args.prepared.effectId = some receipt ∧ receipt.state = .reserved
  before : ∀ n, n ≤ 3 → (cancelReservedAttempt R args).stopAt n s = s
  between : ∀ n, 4 ≤ n → n < 8 →
    ((cancelReservedAttempt R args).stopAt n s).journal = s.journal ∧
      ∃ receipt, ((cancelReservedAttempt R args).stopAt n s).vera.fence.get? args.prepared.effectId =
        some receipt ∧ receipt.state = .cancelledPreDispatch
  after : ∀ n, 8 ≤ n → (cancelReservedAttempt R args).stopAt n s = s'
  cancelled : ∃ receipt, s'.vera.fence.get? args.prepared.effectId = some receipt ∧
    receipt.state = .cancelledPreDispatch
  abandoned : ∃ row, s'.journal.attempts.get? args.attempt = some row ∧ row.localState = .abandoned

omit [DecidableEq D] in
@[simp] theorem assessment_effectId {projection : AttemptProjection} {effectId : String}
    {effect : Option (EffectReceipt D)} :
    (QualifiedPCExecutionAdapter.assessment projection effectId effect).effectId = effectId := by
  rw [QualifiedPCExecutionAdapter.assessment]
  split_ifs <;> rfl

omit [DecidableEq D] in
theorem assessment_open {projection : AttemptProjection} {effectId : String}
    {effect : Option (EffectReceipt D)}
    (h : (QualifiedPCExecutionAdapter.assessment projection effectId effect).preDispatchCancelAllowed = true) :
    projection.localState ∉ terminalStates := by
  intro hterminal
  rw [QualifiedPCExecutionAdapter.assessment] at h
  dsimp only at h
  rw [if_pos hterminal] at h
  cases h

omit [DecidableEq D] in
theorem abandon_run {event : EventArgs}
    (h : (PCProg.onJournal (JobJournal.abandon R.envelopes.pccc id event) : PCProg D _).run s = (.ok row, s')) :
    s'.vera = s.vera ∧ ∃ row, s'.journal.attempts.get? id.key = some row ∧ row.localState = .abandoned := by
  rw [PCProg.onJournal, Prog.run_txn] at h
  cases ha : JobJournal.abandon R.envelopes.pccc id event s.journal with
  | error e =>
    rw [ha] at h
    cases h
  | ok r =>
    obtain ⟨next, journal⟩ := r
    rw [ha] at h
    cases h
    obtain ⟨old, hm⟩ := JobJournal.transition_ok ha
    exact ⟨rfl, _, hm.get?_self, by rw [hm.next_eq]; rfl⟩

/-- What `cancel_reserved_attempt` does once the effect is cancelled. -/
def abandonCancelled (R : PcRuntime D) (args : CancelArgs D) (id : AttemptIdentity) (effectId : String)
    (cancelled : EffectReceipt D) : PCProg D AttemptProjection := do
  if cancelled.state ≠ .cancelledPreDispatch then
    throw (fenceError "pre-dispatch effect cancellation did not reach terminal state")
  let current ← journalGet R id
  if current.isNone then
    throw (fenceError "PC journal attempt disappeared during pre-dispatch cancellation")
  let event ← PCProg.lift (event R args.eventSource "ATTEMPT_ABANDONED"
    [("reason", textValue "CANCELLED_PRE_DISPATCH"), ("effect_id", textValue effectId),
      ("effect_request_digest", textValue (R.vera.hash.hex cancelled.requestDigest)),
      ("lifecycle_permit_digest", permitText R args.prepared)])
  PCProg.onJournal (JobJournal.abandon R.envelopes.pccc id event)

omit [DecidableEq D] in
theorem abandonCancelled_run {effectId : String} {cancelled : EffectReceipt D}
    (h : (abandonCancelled R args id effectId cancelled).run s = (.ok row, s')) :
    (abandonCancelled R args id effectId cancelled).length s = 2 ∧
      (∀ n, n ≤ 1 → (abandonCancelled R args id effectId cancelled).stopAt n s = s) ∧
      s'.vera = s.vera ∧ ∃ row, s'.journal.attempts.get? id.key = some row ∧ row.localState = .abandoned := by
  rw [abandonCancelled] at h ⊢
  split at h
  · cases h
  rename_i hstate
  rw [if_neg hstate]
  obtain ⟨current, hget, h⟩ := Prog.run_readOnly_bind journalGet_readOnly h
  have hone := (journalGet_run hget).2
  split at h
  · cases h
  rename_i hsome
  obtain ⟨event, hrun, -, h⟩ := lift_bind_ok h
  have htxn : (PCProg.onJournal (JobJournal.abandon R.envelopes.pccc id event) : PCProg D _).length s = 1 :=
    Prog.length_txn _ _
  refine ⟨?_, fun n hn => ?_, abandon_run h⟩
  · rw [Prog.length_bind_ok hget, hone, if_neg hsome, Prog.length_bind_ok hrun, length_lift, htxn]
  · rcases Nat.le_one_iff_eq_zero_or_eq_one.1 hn with rfl | rfl
    · exact Prog.stopAt_zero _ _
    · rw [Prog.stopAt_bind_ok hget hone.le, hone]
      exact Prog.stopAt_zero _ _

omit [DecidableEq D] in
theorem onVera_run (p : Op D α) : (PCProg.onVera p : PCProg D α).run s =
    ((p.run s.vera).1, { s with vera := (p.run s.vera).2 }) :=
  Prog.run_on (V := veraComponent) (fun _ => rfl) (fun _ _ _ => rfl) p s

theorem cancels
    (h : (cancelReservedAttempt R args).run s = (.ok row, s')) : Cancels R args s s' := by
  obtain ⟨id, hid, heq, h⟩ := lift_bind_ok h
  obtain rfl := identity_ok heq
  obtain ⟨found, hassess, h⟩ := Prog.run_readOnly_bind assess_readOnly h
  cases found with
  | none => cases h
  | some found =>
  dsimp only at h
  split at h
  · cases h
  rename_i hallowed
  obtain ⟨projection, hrow, hfound, htwo⟩ := assess_run hassess
  have heffect : found.effectId = args.prepared.effectId := hfound ▸ assessment_effectId
  have hgo (n : Nat) (hn : 2 ≤ n) : (cancelReservedAttempt R args).stopAt n s =
      (PCProg.onVera (cancelReservedEffect R.vera args.prepared.effectId) >>=
        abandonCancelled R args (attemptIdentity args.prepared args.lease) args.prepared.effectId).stopAt
        (n - 2) s := by
    rw [cancelReservedAttempt, Prog.stopAt_bind_ok hid (length_lift _ ▸ Nat.zero_le n), length_lift,
      Prog.stopAt_bind_ok hassess (htwo ▸ hn), htwo]
    dsimp only
    rw [if_neg hallowed, heffect]
    rfl
  rw [not_or, not_not] at hallowed
  rw [heffect] at h
  subst hfound
  obtain ⟨receipt, hreceipt, hreserved⟩ := assessment_cancel hallowed.1
  rw [Prog.run_bind, onVera_run] at h
  split at h
  swap
  · cases h
  rename_i cancelled s₁ hcancel
  obtain ⟨hcancelled, hs₁⟩ := Prod.mk.inj hcancel
  have hstores : CancelsEffect R.vera args.prepared.effectId s.vera s₁.vera :=
    cancelsEffect (Prod.ext hcancelled (congrArg PCState.vera hs₁))
  have hrun := (onVera_run _).trans hcancel
  have hfour : (PCProg.onVera (cancelReservedEffect R.vera args.prepared.effectId) : PCProg D _).length s = 4 :=
    (Prog.length_on _ _).trans hstores.length
  obtain ⟨htail, htailstop, hvera, habandoned⟩ := abandonCancelled_run h
  have hjournal : s₁.journal = s.journal := hs₁ ▸ rfl
  have hfirst (n : Nat) : (PCProg.onVera (cancelReservedEffect R.vera args.prepared.effectId) :
      PCProg D _).stopAt n s = { s with vera := (cancelReservedEffect R.vera args.prepared.effectId).stopAt n s.vera } :=
    Prog.stopAt_on (V := veraComponent) (fun _ => rfl) (fun _ _ _ => rfl) _ n s
  have hlow (n : Nat) (hn : n < 4) := Prog.stopAt_bind_lt
    (f := abandonCancelled R args (attemptIdentity args.prepared args.lease) args.prepared.effectId) (hfour ▸ hn)
  have hhigh (n : Nat) (hn : 4 ≤ n) := Prog.stopAt_bind_ok
    (f := abandonCancelled R args (attemptIdentity args.prepared args.lease) args.prepared.effectId) hrun (hfour ▸ hn)
  refine ⟨⟨projection, receipt, hrow, assessment_open hallowed.1, hreceipt, hreserved⟩, fun n hn => ?_,
    fun n hn hn' => ?_, fun n hn => ?_, ?_, habandoned⟩
  · rcases Nat.lt_or_ge n 2 with hm | hm
    · rw [cancelReservedAttempt, Prog.stopAt_bind_ok hid (length_lift _ ▸ Nat.zero_le n), length_lift,
        Nat.sub_zero, Prog.stopAt_bind_lt (htwo ▸ hm)]
      exact assess_readOnly.stopAt n s
    · rw [hgo n hm, hlow _ (by omega), hfirst, hstores.before _ (by omega)]
  · rw [hgo n (by omega)]
    rcases Nat.lt_or_ge (n - 2) 4 with hm | hm
    · rw [hlow _ hm, hfirst]
      exact ⟨rfl, hstores.after _ (by omega)⟩
    · rw [hhigh _ hm, hfour, htailstop _ (by omega)]
      exact ⟨hjournal, hstores.done⟩
  · rw [hgo n (by omega), hhigh _ (by omega), hfour, Prog.stopAt_end (by omega)]
    exact congrArg Prod.snd h
  · rw [hvera]
    exact hstores.done

/-! ## The next start -/

/-- The repair of a restart writes the audit only. -/
theorem openState_fence {R : Runtime D} (v : VeraState D) : ((openState R).run v).2.fence = v.fence := by
  rw [openState, Op.withLock, Prog.run_withLock]
  have hkept : (OutboundExecutionAudit.repairFromFence R.hash).All FenceKept := by
    refine Prog.All.mono ?_ (repairFromFence_within (R := R) (T := Transition.repairs) trivial fun _ h => h)
    rintro s s' ⟨t, ht, -, rfl⟩
    cases t with
    | idle | audit => rfl
    | _ => exact ht.elim
  exact FenceKept.leaves hkept (Prog.leaves_run _ _)

/-- A cancellation that was stopped can be brought to its end. -/
structure CancelResumes (R : PcRuntime D) (args : CancelArgs D) (s : PCState D) : Prop where
  cancelled : ∃ receipt, ((cancelAfterRestart R args).run s).2.vera.fence.get? args.prepared.effectId =
    some receipt ∧ receipt.state = .cancelledPreDispatch
  abandoned : ∃ row, ((cancelAfterRestart R args).run s).2.journal.attempts.get? args.attempt = some row ∧
    row.localState = .abandoned
  assessed : ∀ found t, (assess R args.prepared args.lease).run s = (.ok (some found), t) →
    found.effectState = some .cancelledPreDispatch → found.recoveryRequired = false

omit [DecidableEq D] in
theorem assessment_effectState {projection : AttemptProjection} {effectId : String}
    {effect : Option (EffectReceipt D)} :
    (QualifiedPCExecutionAdapter.assessment projection effectId effect).effectState =
      effect.map EffectReceipt.state := by
  rw [QualifiedPCExecutionAdapter.assessment]
  split_ifs <;> rfl

theorem cancel_refused {receipt : EffectReceipt D}
    (hrow : s.vera.fence.get? args.prepared.effectId = some receipt)
    (hstate : receipt.state = .cancelledPreDispatch) :
    ((cancelReservedAttempt R args).run s).2 = s := by
  have hread : ((assess R args.prepared args.lease).run s).2 = s := assess_readOnly.run_snd s
  rw [cancelReservedAttempt, Prog.run_bind, PCProg.lift, Prog.run_ofExcept]
  cases hid : identity R args.prepared args.lease with
  | error e => rfl
  | ok id =>
    dsimp only
    rw [Prog.run_bind]
    rcases hassess : (assess R args.prepared args.lease).run s with ⟨_ | found, t⟩
    all_goals
      rw [hassess] at hread
      obtain rfl : s = t := hread.symm
    · rfl
    · cases found with
      | none => rfl
      | some found =>
        obtain ⟨projection, -, rfl, -⟩ := assess_run hassess
        dsimp only
        rw [if_pos]
        · rfl
        · refine .inr ?_
          rw [assessment_effectState, hrow, Option.map_some, hstate]
          decide

/-- A second call does nothing about an effect that is cancelled already. -/
theorem cancelAfterRestart_cancelled {receipt : EffectReceipt D}
    (hrow : s.vera.fence.get? args.prepared.effectId = some receipt)
    (hstate : receipt.state = .cancelledPreDispatch) :
    ((cancelAfterRestart R args).run s).2.vera.fence = s.vera.fence ∧
      ((cancelAfterRestart R args).run s).2.journal = s.journal := by
  have hopen := openState_fence (R := R.vera) s.vera
  rw [cancelAfterRestart, Prog.run_bind, onVera_run]
  rcases hrun : (openState R.vera).run s.vera with ⟨_ | c, v⟩
  all_goals rw [hrun] at hopen
  · exact ⟨hopen, rfl⟩
  · dsimp only
    rw [cancel_refused (s := { s with vera := v }) (show v.fence.get? _ = _ from
      hopen.symm ▸ hrow) hstate]
    exact ⟨hopen, rfl⟩

omit [DecidableEq D] in
theorem exists_of_isOk {o : Except Failure α × PCState D} (h : o.1.isOk = true) :
    ∃ a s, o = (.ok a, s) := by
  obtain ⟨_ | a, s⟩ := o
  · cases h
  · exact ⟨a, s, rfl⟩

/-- A cancellation that ends when nothing stops it, and also after a restart, can be resumed
after a crash exactly when the crash comes before the fence is written, by the fourth of its
atoms, or after the journal is, by the eighth. -/
theorem cancellation_resumes_iff (R : PcRuntime D) (d : D) (es : List (Event (PCCall D)))
    (args : CancelArgs D) (n : Nat)
    (hends : ((cancelReservedAttempt R args).run (PCPool.run R d es).store).1.isOk = true)
    (hrestarted : ((cancelAfterRestart R args).run (PCPool.run R d es).store).1.isOk = true) :
    CancelResumes R args ((cancelReservedAttempt R args).stopAt n (PCPool.run R d es).store) ↔
      n ≤ 3 ∨ 8 ≤ n := by
  generalize (PCPool.run R d es).store = s at *
  obtain ⟨row, s', hrun⟩ := exists_of_isOk hends
  obtain ⟨row', s'', hagain⟩ := exists_of_isOk hrestarted
  have hcancels := cancels hrun
  obtain ⟨projection, receipt, hrow, hopen, hreceipt, hreserved⟩ := hcancels.found
  constructor
  · intro hresumes
    by_contra hn
    rw [not_or, Nat.not_le, Nat.not_le] at hn
    obtain ⟨hjournal, receipt, hget, hstate⟩ := hcancels.between n hn.1 hn.2
    obtain ⟨row, habandoned, hrowstate⟩ := hresumes.abandoned
    rw [(cancelAfterRestart_cancelled hget hstate).2, hjournal, hrow] at habandoned
    cases habandoned
    exact hopen (hrowstate ▸ by decide)
  · rintro (hn | hn)
    · rw [hcancels.before n hn]
      have hlast := hagain
      rw [cancelAfterRestart, Prog.run_bind] at hlast
      split at hlast
      swap
      · cases hlast
      obtain ⟨-, -, -, -, hcancelled, habandoned⟩ := cancels hlast
      refine ⟨by rwa [hagain], by rwa [hagain], fun found t hassess hfound => ?_⟩
      obtain ⟨projection, -, rfl, -⟩ := assess_run hassess
      rw [assessment_effectState, hreceipt, Option.map_some, hreserved] at hfound
      cases hfound
    · rw [hcancels.after n hn]
      obtain ⟨receipt, hget, hstate⟩ := hcancels.cancelled
      obtain ⟨row, habandoned, hrowstate⟩ := hcancels.abandoned
      obtain ⟨hfence, hjournal⟩ := cancelAfterRestart_cancelled hget hstate
      refine ⟨⟨receipt, hfence ▸ hget, hstate⟩, ⟨row, hjournal ▸ habandoned, hrowstate⟩, fun found t hassess _ => ?_⟩
      obtain ⟨projection, hprojection, rfl, -⟩ := assess_run hassess
      cases habandoned.symm.trans hprojection
      rw [QualifiedPCExecutionAdapter.assessment]
      dsimp only
      rw [if_pos (hrowstate ▸ by decide)]

/-! ## A crash after the fence -/

/-- The store of a pool, under a name of its own: the kernel unfolds it together with `reservedSample`
and need not run the thirty-five steps to compare the two. -/
abbrev storeLeft {L S E A C : Type} (p : Pool L S E A C) : S := p.store

theorem storeLeft_eq {L S E A C : Type} (p : Pool L S E A C) : storeLeft p = p.store := rfl

theorem reservedSample_eq : reservedSample = (PCPool.run samplePc 0 (executedRun 35)).store :=
  (show reservedSample = storeLeft (PCPool.run samplePc 0 (executedRun 35)) from rfl).trans
    (storeLeft_eq _)

theorem CancelResumes.sampleAbandoned {s : PCState Nat} (h : CancelResumes samplePc sampleCancel s) :
    VeraMono.sampleAbandoned ((cancelAfterRestart samplePc sampleCancel).run s).2 = true := by
  obtain ⟨row, hrow, hstate⟩ := h.abandoned
  rw [VeraMono.sampleAbandoned, hrow, Option.any_some, hstate]
  rfl

/-- A crash before anything is written. -/
theorem early_cancellation_resumes : CancelResumes samplePc sampleCancel
    ((cancelReservedAttempt samplePc sampleCancel).stopAt 3 reservedSample) := by
  have hfacts := reservedSample_facts
  rw [reservedSample_eq] at hfacts ⊢
  exact (cancellation_resumes_iff samplePc 0 (executedRun 35) sampleCancel 3 hfacts.1
    hfacts.2.1).2 (.inl le_rfl)

/-- A crash right after the fence is written. -/
theorem cancellation_torn : ¬ ∀ n, CancelResumes samplePc sampleCancel
    ((cancelReservedAttempt samplePc sampleCancel).stopAt n reservedSample) :=
  fun h => Bool.false_ne_true (reservedSample_facts.2.2.symm.trans (h 4).sampleAbandoned)

end VeraMono
