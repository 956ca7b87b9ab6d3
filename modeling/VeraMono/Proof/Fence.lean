import VeraMono.Model.EffectFence

/-!
# What the effect fence does

The life of an effect: `EffectState.Next` is one step of it, and no life comes
back to a state it left. Each transaction of the fence is inverted once: it
inserts a reservation under a new id, or advances one row by one step and keeps
its digests.
-/

namespace VeraMono

open Framework

namespace EffectState

/-- One step in the life of an effect. -/
inductive Next : EffectState → EffectState → Prop
  | claim : Next .reserved .executing
  | cancel : Next .reserved .cancelledPreDispatch
  | commit : Next .executing .committed
  | unknown : Next .executing .attemptedUnknown
  | reconcile {s s' : EffectState} : s.ambiguous = true →
      s' = .reconciledCommitted ∨ s' = .reconciledNoEffect → Next s s'

/-- How far an effect has come. -/
def rank : EffectState → Nat
  | .reserved => 0
  | .executing => 1
  | .attemptedUnknown => 2
  | .committed | .cancelledPreDispatch | .reconciledCommitted | .reconciledNoEffect => 3

/-- A state that an operator's reconciliation leads to. -/
def reconciled (s : EffectState) : Bool := s = .reconciledCommitted ∨ s = .reconciledNoEffect

variable {s s' : EffectState}

theorem Next.rank_lt (h : Next s s') : s.rank < s'.rank := by
  cases h with
  | claim | cancel | commit | unknown => decide
  | reconcile ha hs =>
    revert ha
    rcases hs with rfl | rfl <;> cases s <;> decide

theorem Next.not_reserved (h : Next s s') : s' ≠ .reserved := by
  rintro rfl
  exact absurd h.rank_lt (by simp [rank])

theorem Next.of_reconciled (h : Next s s') (hs : s'.reconciled = true) : s.ambiguous = true := by
  cases h with
  | claim | cancel | commit | unknown => revert hs; decide
  | reconcile ha _ => exact ha

theorem Next.not_terminal (h : Next s s') : s = .reserved ∨ s.ambiguous = true := by
  cases h with
  | claim | cancel => exact .inl rfl
  | commit | unknown => exact .inr rfl
  | reconcile ha _ => exact .inr ha

theorem unresolved_of_ambiguous {s : EffectState} (h : s.ambiguous = true) : s.unresolved = true := by
  revert h
  cases s <;> decide

end EffectState

variable {D : Type}

/-- Two receipts of one effect, reserved under the same evidence. -/
structure EffectReceipt.SameCut (r r' : EffectReceipt D) : Prop where
  effectId : r'.effectId = r.effectId
  requestDigest : r'.requestDigest = r.requestDigest
  mechanicalPermitDigest : r'.mechanicalPermitDigest = r.mechanicalPermitDigest
  authorityEvidenceDigest : r'.authorityEvidenceDigest = r.authorityEvidenceDigest
  currentnessEvidenceDigest : r'.currentnessEvidenceDigest = r.currentnessEvidenceDigest

theorem EffectReceipt.SameCut.rfl' {r : EffectReceipt D} : r.SameCut r := ⟨rfl, rfl, rfl, rfl, rfl⟩

/-- No effect is unresolved. -/
def EffectFence.Clear (t : EffectFence D) : Prop := ∀ r ∈ t.rows, r.state.unresolved = false

namespace EffectFence

variable {t t' : EffectFence D} {r : EffectReceipt D} {effectId : String}

theorem mem_all {r : EffectReceipt D} : r ∈ t.all ↔ r ∈ t.rows := by
  rw [all, List.mem_insertionSort]

theorem assertClear_ok (h : t.assertClear = .ok ()) : t.Clear := by
  intro r hr
  by_contra hu
  have hmem : r ∈ unresolved t := by
    rw [unresolved, List.mem_filter]
    exact ⟨mem_all.2 hr, by simpa using hu⟩
  rw [assertClear] at h
  split at h
  · rename_i hnil
    rw [hnil] at hmem
    cases hmem
  · cases h

theorem reservation_ok {cut : EvidenceCut D} (h : reservation effectId cut = .ok r) :
    r.effectId = effectId ∧ r.state = .reserved ∧ r.resultDigest = none ∧
      r.reconciliationEvidenceDigest = none := by
  simp only [reservation, bind_eq_ok, requireText_ok] at h
  obtain ⟨_, ⟨-, rfl⟩, _, -, _, -, _, -, _, -, h⟩ := h
  cases h
  exact ⟨rfl, rfl, rfl, rfl⟩

/-- A reservation is new, or there is one under the same evidence. -/
theorem reserve_ok [DecidableEq D] {cut : EvidenceCut D} (h : reserve effectId cut t = .ok (r, t')) :
    (t' = t ∧ t.get? effectId = some r ∧ ∃ new, reservation effectId cut = .ok new ∧ new.SameCut r) ∨
      (t.get? effectId = none ∧ reservation effectId cut = .ok r ∧ t' = t.insert r) := by
  rw [reserve] at h
  split at h
  · cases h
  · rename_i new hnew
    split at h
    · rename_i receipt hr
      split at h
      · rename_i hcut
        cases h
        refine .inl ⟨rfl, hr, new, hnew, ?_⟩
        exact ⟨(Table.get?_key hr).trans (reservation_ok hnew).1.symm, hcut.1, hcut.2.1,
          hcut.2.2.1, hcut.2.2.2⟩
      · cases h
    · rename_i hr
      cases h
      exact .inr ⟨hr, hnew, rfl⟩

/-- The row `r` is there, and `r'` is one step of its life further. -/
structure Advance (t : EffectFence D) (r r' : EffectReceipt D) : Prop where
  row : t.get? r.effectId = some r
  cut : r.SameCut r'
  next : EffectState.Next r.state r'.state

theorem claim_ok {requested : EffectReceipt D} (h : claim requested t = .ok (r, t')) :
    ∃ row, Advance t row { row with state := .executing } ∧
      t' = t.update { row with state := .executing } ∧ row.effectId = requested.effectId ∧
      row.state = .reserved ∧
      r = { requested with state := .executing, resultDigest := none,
                           reconciliationEvidenceDigest := none } := by
  rw [claim] at h
  split at h
  · cases h
  · rename_i row hrow
    split at h
    · cases h
    · rename_i hs
      rw [not_not] at hs
      cases h
      refine ⟨row, ⟨?_, ⟨rfl, rfl, rfl, rfl, rfl⟩, ?_⟩, rfl, Table.get?_key hrow, hs, rfl⟩
      · rw [Table.get?_key hrow, hrow]
      · rw [hs]
        exact .claim

/-- What settling leaves in the row of an effect. -/
def settled (row : EffectReceipt D) (result : Option D) (completionKnown : Bool) : EffectReceipt D :=
  { row with state := if completionKnown then .committed else .attemptedUnknown, resultDigest := result }

variable {result : Option (DigestText D)}

theorem settle_ok {completionKnown : Bool}
    (h : settle effectId result completionKnown t = .ok (r, t')) :
    ∃ row d, Advance t row (settled row d completionKnown) ∧
      t' = t.update (settled row d completionKnown) ∧ row.effectId = effectId ∧
      row.state = .executing ∧
      result.mapM (requireDigest .effectFenceError "result_digest") = .ok d ∧
      r = { settled row d completionKnown with reconciliationEvidenceDigest := none } := by
  simp only [settle, bind_eq_ok, requireText_ok] at h
  obtain ⟨_, ⟨-, rfl⟩, d, hd, h⟩ := h
  split at h
  · cases h
  · rename_i row hrow
    split at h
    · cases h
    · rename_i hs
      rw [not_not] at hs
      split at h
      · cases h
      · cases h
        refine ⟨row, d, ⟨by rw [Table.get?_key hrow, hrow], ⟨rfl, rfl, rfl, rfl, rfl⟩, ?_⟩, rfl,
          Table.get?_key hrow, hs, hd, rfl⟩
        rw [hs]
        cases completionKnown
        · exact .unknown
        · exact .commit

theorem cancelBeforeDispatch_ok (h : cancelBeforeDispatch effectId t = .ok (r, t')) :
    ∃ row, Advance t row { row with state := .cancelledPreDispatch } ∧
      t' = t.update { row with state := .cancelledPreDispatch } ∧ row.effectId = effectId ∧
      row.state = .reserved ∧
      r = { row with state := .cancelledPreDispatch, resultDigest := none,
                     reconciliationEvidenceDigest := none } := by
  simp only [cancelBeforeDispatch, bind_eq_ok, requireText_ok] at h
  obtain ⟨_, ⟨-, rfl⟩, h⟩ := h
  split at h
  · cases h
  · rename_i row hrow
    split at h
    · cases h
    · rename_i hs
      rw [not_not] at hs
      cases h
      refine ⟨row, ⟨by rw [Table.get?_key hrow, hrow], ⟨rfl, rfl, rfl, rfl, rfl⟩, ?_⟩, rfl,
        Table.get?_key hrow, hs, rfl⟩
      rw [hs]
      exact .cancel

theorem reconciliation_ok {occurred : Bool}
    {target : EffectState × Option D} (h : reconciliation occurred result = .ok target) :
    target.1 = if occurred then .reconciledCommitted else .reconciledNoEffect := by
  match occurred, result, h with
  | false, none, h => cases h; rfl
  | true, some (.lower d), h => cases h; rfl
  | true, some (.upper d), h => cases h; rfl

theorem reconcileUnknown_ok {occurred : Bool}
    {evidence : DigestText D}
    (h : reconcileUnknown effectId occurred result evidence t = .ok (r, t')) :
    ∃ row, Advance t row r ∧ t' = t.update r ∧ row.effectId = effectId ∧
      row.state.ambiguous = true ∧
      r.state = (if occurred then .reconciledCommitted else .reconciledNoEffect) := by
  simp only [reconcileUnknown, bind_eq_ok, requireText_ok] at h
  obtain ⟨_, ⟨-, rfl⟩, e, -, target, htarget, h⟩ := h
  split at h
  · cases h
  · rename_i row hrow
    split at h
    · cases h
    · rename_i hs
      rw [not_not] at hs
      cases h
      have ht := reconciliation_ok htarget
      refine ⟨row, ⟨by rw [Table.get?_key hrow, hrow], ⟨rfl, rfl, rfl, rfl, rfl⟩,
        .reconcile hs ?_⟩, rfl, Table.get?_key hrow, hs, ht⟩
      simp only [ht]
      cases occurred
      · exact .inr rfl
      · exact .inl rfl

end EffectFence

end VeraMono
