import VeraMono.Model.System
import VeraMono.Proof.Fence

/-!
# What a durable step does

`Transition` lists what one atom of any call may do to the state directory, and `Does` says what
each of them is; `Transition.lock` is the lock a transition is made under. Every store transaction
is inverted here into the transitions it makes, and `Within` states of a lock-free routine which
transitions its atoms may make, whatever the others do in between. `Does.row` says that an effect
transition changes one row of the fence and nothing else.
-/

namespace VeraMono

open Framework

variable {D : Type}

inductive Transition (D : Type)
  | idle
  | reserve (receipt : EffectReceipt D)
  | advance (receipt receipt' : EffectReceipt D)
  | audit (event : AuditBody D)
  | checkpoint (body : CheckpointBody D)
  | publish (payload : CandidateValues D)
  | journal (event : JournalBody D)
  | memory (memory : MemoryLedger D)
  | commands (journal : CommandJournal D)
  | control (digest : D)
  | world (event : WorldEvent D)

def AuditEventType.reconciled (t : AuditEventType) : Bool :=
  t = .reconciledCommitted ∨ t = .reconciledNoEffect

/-- An event that a reconciliation recorded itself, not a restart after it. -/
def AuditBody.signed (b : AuditBody D) : Bool :=
  b.eventType.reconciled && !b.payload.restartReconstructedFromEffectFence

namespace Transition

/-- The lock a transition is made under. -/
def lock : Transition D → Option Lock
  | .reserve _ | .checkpoint _ | .publish _ | .world _ => some .lifecycle
  | .advance _ r' => some (if r'.state.reconciled then .trust else .lifecycle)
  | .audit b => some (if b.signed then .trust else .lifecycle)
  | .journal b => if b.eventType = .restartReconciledCommitted then none else some .lifecycle
  | .idle | .memory _ | .commands _ | .control _ => none

/-- The next link of the memory ledger. -/
def admits (H : Hashing D) (m m' : MemoryLedger D) : Prop :=
  m'.generation = m.generation + 1 ∧ ∃ recordId recordDigest supersedes,
    m'.head = H.sha256 (.memoryHead m.head (m.generation + 1) recordId recordDigest supersedes)

def nextCurrentness (R : Runtime D) (p : CandidateValues D) (t : CurrentnessStore D) :
    CurrentnessStore D :=
  t.upsert (CurrentnessStore.nextRow R.hash R.config.currentnessSubjectId p t)

variable (R : Runtime D)

/-- When a transition is possible. -/
def Enabled (s : VeraState D) : Transition D → Prop
  | .reserve r => s.fence.get? r.effectId = none ∧ r.state = .reserved
  | .advance r r' => EffectFence.Advance s.fence r r'
  | .audit b => b.effectId ≠ "" ∧ b.effectKind ≠ "" ∧
      (auditChain R.hash).lookup s.audit (b.effectId, b.eventType) = none
  | .checkpoint b => (checkpointChain R.hash).lookup s.checkpoints b.checkpointId = none
  | .journal b => (journalChain R.hash).lookup s.journal (b.transitionId, b.eventType) = none
  | .memory m => admits R.hash s.memory m
  | .idle | .publish _ | .commands _ | .control _ | .world _ => True

/-- The state it leads to. -/
def apply (s : VeraState D) : Transition D → VeraState D
  | .idle => s
  | .reserve r => { s with fence := s.fence.insert r }
  | .advance _ r' => { s with fence := s.fence.update r' }
  | .audit b => { s with audit := (auditChain R.hash).extend s.audit b }
  | .checkpoint b => { s with checkpoints := (checkpointChain R.hash).extend s.checkpoints b }
  | .publish p => { s with currentness := nextCurrentness R p s.currentness }
  | .journal b => { s with journal := (journalChain R.hash).extend s.journal b }
  | .memory m => { s with memory := m }
  | .commands j => { s with commands := j }
  | .control d => { s with controlSourceDigest := d }
  | .world e => { s with world := e :: s.world }

structure Does (s s' : VeraState D) (t : Transition D) : Prop where
  enabled : t.Enabled R s
  eq : s' = t.apply R s

end Transition

open Transition

/-! ## Store transactions -/

section Append
variable [DecidableEq D] {R : Runtime D}

theorem audit_append_ok {b : AuditBody D} {log log' : OutboundExecutionAudit D}
    {e : OutboundAuditEvent D} (h : OutboundExecutionAudit.append R.hash b log = .ok (e, log')) :
    b.effectId ≠ "" ∧ b.effectKind ≠ "" ∧ (auditChain R.hash).append log b = .ok (e, log') := by
  simp only [OutboundExecutionAudit.append, bind_eq_ok, requireText_ok] at h
  obtain ⟨_, ⟨hi, -⟩, _, ⟨hk, -⟩, h⟩ := h
  split at h
  · rename_i r hr
    cases h
    exact ⟨hi, hk, hr⟩
  · cases h
  · cases h

theorem journal_append_ok {b : JournalBody D} {log log' : LifecycleJournal D}
    {e : LifecycleEvent D} (h : LifecycleJournal.append R.hash b log = .ok (e, log')) :
    b.transitionId ≠ "" ∧ (journalChain R.hash).append log b = .ok (e, log') := by
  simp only [LifecycleJournal.append, bind_eq_ok, requireText_ok] at h
  obtain ⟨_, ⟨hi, -⟩, h⟩ := h
  split at h
  · rename_i r hr
    cases h
    exact ⟨hi, hr⟩
  · cases h
  · cases h

theorem fromRow_ok {e e' : NativeRecoveryCheckpoint D}
    (h : NativeRecoveryCheckpointStore.fromRow R.hash e = .ok e') : e' = e := by
  rw [NativeRecoveryCheckpointStore.fromRow] at h
  split at h
  · cases h
  · cases h
    rfl

theorem checkpoint_append_ok {b : CheckpointBody D} {expectedHead : DigestText D}
    {log log' : NativeRecoveryCheckpointStore D} {e : NativeRecoveryCheckpoint D}
    (h : NativeRecoveryCheckpointStore.append R.hash b expectedHead log = .ok (e, log')) :
    (log' = log ∧ (checkpointChain R.hash).lookup log b.checkpointId = some e ∧
        (checkpointChain R.hash).payload e.body = (checkpointChain R.hash).payload b) ∨
      ((checkpointChain R.hash).lookup log b.checkpointId = none ∧
        requireDigest .nativeCheckpointError "expected_head" expectedHead = .ok log.head ∧
        e = (checkpointChain R.hash).next log b ∧ log' = (checkpointChain R.hash).extend log b) := by
  simp only [NativeRecoveryCheckpointStore.append, bind_eq_ok, requireText_ok] at h
  obtain ⟨_, -, _, -, head, hhead, _, -, _, -, _, -, h⟩ := h
  split at h
  · rename_i old hold
    split at h
    · rename_i e' log'' happ
      obtain ⟨r, hr, heq⟩ : ∃ r, NativeRecoveryCheckpointStore.fromRow R.hash e' = .ok r ∧
          (r, log'') = (e, log') := by
        revert h
        cases NativeRecoveryCheckpointStore.fromRow R.hash e' with
        | error =>
          intro h
          cases h
        | ok r => exact fun h => ⟨r, rfl, Except.ok.inj h⟩
      cases heq
      obtain rfl := fromRow_ok hr
      rcases Chaining.append_cases happ with ⟨rfl, hl, hp⟩ | ⟨hn, -⟩
      · exact .inl ⟨rfl, hl, hp⟩
      · rw [show (checkpointChain R.hash).key b = b.checkpointId from rfl, hold] at hn
        cases hn
    · cases h
  · rename_i hnone
    split at h
    · cases h
    · rename_i hstale
      rw [not_not] at hstale
      split at h
      · rename_i r happ
        cases h
        rcases Chaining.append_cases happ with ⟨-, hl, -⟩ | ⟨-, he, hlog⟩
        · rw [show (checkpointChain R.hash).key b = b.checkpointId from rfl, hnone] at hl
          cases hl
        · exact .inr ⟨hnone, hstale ▸ hhead, he, hlog⟩
      · cases h

omit [DecidableEq D] in
theorem publish_ok {subjectId : String} {payload : CandidateValues D} {expected : Option Int}
    {t t' : CurrentnessStore D} {c : CurrentnessSnapshot D}
    (h : CurrentnessStore.publish R.hash subjectId payload expected t = .ok (c, t')) :
    (t.get? subjectId).map (fun row => (row.generation : Int)) = expected ∧
      c = CurrentnessStore.CurrentnessRow.snapshot
        (CurrentnessStore.nextRow R.hash subjectId payload t) ∧
      t' = t.upsert (CurrentnessStore.nextRow R.hash subjectId payload t) := by
  rw [CurrentnessStore.publish] at h
  split at h
  · cases h
  · split at h
    · cases h
    · rename_i hg
      rw [not_not] at hg
      cases h
      exact ⟨hg, rfl, rfl⟩

theorem admit_ok {config : LifecycleConfig} {request : AdmissionRequest}
    {expectedHead : DigestText D} {m m' : MemoryLedger D} {receipt : AdmissionReceipt D}
    (h : MemoryLedger.admitRecord R.hash config request expectedHead m = .ok (receipt, m')) :
    m' = m ∨ admits R.hash m m' := by
  rw [MemoryLedger.admitRecord] at h
  obtain ⟨_, -, h⟩ := bind_eq_ok.1 h
  dsimp only at h
  split at h
  · cases h
  split at h
  · cases h
  split at h
  · split at h
    · cases h
    · cases h
      exact .inl rfl
  · split at h
    · cases h
    split at h
    · cases h
    obtain ⟨_, -, h⟩ := bind_eq_ok.1 h
    split at h
    · cases h
    · cases h
      exact .inr ⟨rfl, _, _, _, rfl⟩

end Append

/-! ## Fence transactions as transitions -/

section Fence
variable {R : Runtime D} {s : VeraState D} {effectId : String} {r : EffectReceipt D}
  {t : EffectFence D}

theorem reserve_does [DecidableEq D] {cut : EffectFence.EvidenceCut D}
    (h : EffectFence.reserve effectId cut s.fence = .ok (r, t)) :
    t.get? effectId = some r ∧ r.effectId = effectId ∧
      ∃ tr : Transition D, (tr = .idle ∨ tr = .reserve r) ∧ tr.Does R s { s with fence := t } := by
  rcases EffectFence.reserve_ok h with ⟨rfl, hr, -⟩ | ⟨hn, hr, rfl⟩
  · exact ⟨hr, Table.get?_key hr, .idle, .inl rfl, trivial, rfl⟩
  · obtain ⟨rfl, hs, -⟩ := EffectFence.reservation_ok hr
    exact ⟨Table.get?_insert_self hn, rfl, .reserve r, .inr rfl, ⟨hn, hs⟩, rfl⟩

theorem claim_does {requested : EffectReceipt D}
    (h : EffectFence.claim requested s.fence = .ok (r, t)) :
    ∃ row, s.fence.get? requested.effectId = some row ∧ row.state = .reserved ∧
      (Transition.advance row { row with state := .executing }).Does R s { s with fence := t } := by
  obtain ⟨row, hadv, rfl, hid, hs, -⟩ := EffectFence.claim_ok h
  exact ⟨row, hid ▸ hadv.row, hs, hadv, rfl⟩

theorem settle_does {result : Option (DigestText D)} {completionKnown : Bool}
    (h : EffectFence.settle effectId result completionKnown s.fence = .ok (r, t)) :
    ∃ row d, s.fence.get? effectId = some row ∧ row.state = .executing ∧
      result.mapM (requireDigest .effectFenceError "result_digest") = .ok d ∧
      (Transition.advance row (EffectFence.settled row d completionKnown)).Does R s
        { s with fence := t } := by
  obtain ⟨row, d, hadv, rfl, hid, hs, hd, -⟩ := EffectFence.settle_ok h
  exact ⟨row, d, hid ▸ hadv.row, hs, hd, hadv, rfl⟩

theorem cancel_does (h : EffectFence.cancelBeforeDispatch effectId s.fence = .ok (r, t)) :
    ∃ row, s.fence.get? effectId = some row ∧ row.state = .reserved ∧
      (Transition.advance row { row with state := .cancelledPreDispatch }).Does R s
        { s with fence := t } := by
  obtain ⟨row, hadv, rfl, hid, hs, -⟩ := EffectFence.cancelBeforeDispatch_ok h
  exact ⟨row, hid ▸ hadv.row, hs, hadv, rfl⟩

theorem reconcile_does {occurred : Bool} {result : Option (DigestText D)} {evidence : DigestText D}
    (h : EffectFence.reconcileUnknown effectId occurred result evidence s.fence = .ok (r, t)) :
    ∃ row, s.fence.get? effectId = some row ∧ row.state.ambiguous = true ∧
      r.state = (if occurred then .reconciledCommitted else .reconciledNoEffect) ∧
      (Transition.advance row r).Does R s { s with fence := t } := by
  obtain ⟨row, hadv, rfl, hid, hs, hr⟩ := EffectFence.reconcileUnknown_ok h
  exact ⟨row, hid ▸ hadv.row, hs, hr, hadv, rfl⟩

end Fence

/-! ## What a transition changes -/

inductive RowStep : Option (EffectReceipt D) → Option (EffectReceipt D) → Prop
  | same (row : Option (EffectReceipt D)) : RowStep row row
  | reserve {r : EffectReceipt D} : r.state = .reserved → RowStep none (some r)
  | advance {r r' : EffectReceipt D} : r.SameCut r' → EffectState.Next r.state r'.state →
    RowStep (some r) (some r')

namespace Transition

/-- What a transition adds to the log of the world. -/
def emits : Transition D → List (WorldEvent D)
  | .world e => [e]
  | _ => []

variable {R : Runtime D} {t : Transition D} {s s' : VeraState D}

theorem Does.world_eq (h : t.Does R s s') : s'.world = t.emits ++ s.world := by
  rw [h.eq]
  cases t <;> rfl

/-- Only an effect transition changes the fence, and only the row of its effect. -/
theorem Does.row (h : t.Does R s s') (effectId : String) :
    RowStep (s.fence.get? effectId) (s'.fence.get? effectId) := by
  rw [h.eq]
  cases t with
  | reserve r =>
    obtain ⟨hn, hr⟩ := h.enabled
    by_cases hid : effectId = r.effectId
    · subst hid
      rw [hn, show (apply R s (.reserve r)).fence = s.fence.insert r from rfl,
        Table.get?_insert_self hn]
      exact .reserve hr
    · rw [show (apply R s (.reserve r)).fence = s.fence.insert r from rfl,
        Table.get?_insert_other hid]
      exact .same _
  | advance r r' =>
    obtain ⟨hrow, hcut, hnext⟩ := h.enabled
    rw [show (apply R s (.advance r r')).fence = s.fence.update r' from rfl]
    by_cases hid : effectId = r'.effectId
    · subst hid
      rw [← hcut.effectId] at hrow
      rw [hrow, Table.get?_update_self hrow]
      exact .advance hcut hnext
    · rw [Table.get?_update_other hid]
      exact .same _
  | _ => exact .same _

theorem Does.advanced {r r' : EffectReceipt D} (h : (advance r r').Does R s s') {effectId : String}
    (hid : r.effectId = effectId) : s'.fence.get? effectId = some r' := by
  subst hid
  rw [h.eq, show (apply R s (.advance r r')).fence = s.fence.update r' from rfl,
    ← h.enabled.cut.effectId]
  exact Table.get?_update_self (h.enabled.cut.effectId ▸ h.enabled.row)

theorem Does.row_advance (h : t.Does R s s') {effectId : String} {r : EffectReceipt D}
    (hr : s.fence.get? effectId = some r) :
    s'.fence.get? effectId = some r ∨
      ∃ r', t = .advance r r' ∧ r'.effectId = effectId ∧ s'.fence.get? effectId = some r' := by
  rw [h.eq]
  cases t with
  | reserve new =>
    refine .inl ?_
    by_cases hid : effectId = new.effectId
    · rw [hid, h.enabled.1] at hr
      cases hr
    · exact (Table.get?_insert_other hid).trans hr
  | advance old new =>
    obtain ⟨hrow, hcut, hnext⟩ := h.enabled
    by_cases hid : effectId = new.effectId
    · subst hid
      rw [hcut.effectId, hrow] at hr
      cases hr
      exact .inr ⟨new, rfl, rfl, Table.get?_update_self (hcut.effectId ▸ hrow)⟩
    · exact .inl ((Table.get?_update_other hid).trans hr)
  | _ => exact .inl hr

end Transition

end VeraMono
