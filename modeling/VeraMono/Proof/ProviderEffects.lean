import VeraMono.Model.ProviderEffects
import VeraMono.Model.PcSample
import VeraMono.Proof.Footprints

/-!
# Identities of provider effects

The provider id and the effect id are joined with colons, and either may have colons of its own:
two bindings share an identity just when a colon of one id stands in the other. Bindings whose
identities differ are apart: what one reserves, the other neither reports nor runs into.
`append_cons_eq_iff` is the fact about separators, and `provider_effects_apart_iff` what follows
for reservations.
-/

namespace VeraMono

open Framework

variable {D : Type} [DecidableEq D] {R : Runtime D}

/-! ## Joined texts -/

/-- Two pairs of texts that are one text with a separator between them: the separator of one pair
stands in the other. -/
theorem append_cons_eq_iff {α : Type} {sep : α} {p e p' e' : List α} :
    p ++ sep :: e = p' ++ sep :: e' ↔ p = p' ∧ e = e' ∨
      ∃ w, (p = p' ++ sep :: w ∧ e' = w ++ sep :: e) ∨ (p' = p ++ sep :: w ∧ e = w ++ sep :: e') := by
  constructor
  · intro h
    obtain ⟨w, hp, he⟩ | ⟨w, hp, he⟩ := List.append_eq_append_iff.1 h
    · cases w with
      | nil =>
        rw [List.append_nil] at hp
        rw [List.nil_append, List.cons.injEq] at he
        exact .inl ⟨hp.symm, he.2⟩
      | cons c w =>
        rw [List.cons_append, List.cons.injEq] at he
        obtain ⟨rfl, he⟩ := he
        exact .inr ⟨w, .inr ⟨hp, he⟩⟩
    · cases w with
      | nil =>
        rw [List.append_nil] at hp
        rw [List.nil_append, List.cons.injEq] at he
        exact .inl ⟨hp, he.2.symm⟩
      | cons c w =>
        rw [List.cons_append, List.cons.injEq] at he
        obtain ⟨rfl, he⟩ := he
        exact .inr ⟨w, .inl ⟨hp, he⟩⟩
  · rintro (⟨rfl, rfl⟩ | ⟨w, ⟨rfl, rfl⟩ | ⟨rfl, rfl⟩⟩)
    · rfl
    · rw [List.append_assoc, List.cons_append]
    · rw [List.append_assoc, List.cons_append]

/-! ## Identities -/

namespace ProviderExecutionBinding

variable {b b' : ProviderExecutionBinding D}

omit [DecidableEq D] in
theorem mechanicalEffectId_toList : b.mechanicalEffectId.toList =
    "provider:".toList ++ (b.providerId.toList ++ ':' :: b.effectId.toList) := by
  change ("provider:" ++ b.providerId ++ ":" ++ b.effectId).toList = _
  simp only [String.toList_append, List.append_assoc]
  rfl

/-- A colon of one provider id is the separator of the other identity. -/
def Overlap (b b' : ProviderExecutionBinding D) : Prop :=
  ∃ w, (b.providerId = b'.providerId ++ ":" ++ w ∧ b'.effectId = w ++ ":" ++ b.effectId) ∨
    (b'.providerId = b.providerId ++ ":" ++ w ∧ b.effectId = w ++ ":" ++ b'.effectId)

omit [DecidableEq D] in
theorem mechanicalEffectId_eq_iff : b.mechanicalEffectId = b'.mechanicalEffectId ↔
    (b.providerId, b.effectId) = (b'.providerId, b'.effectId) ∨ b.Overlap b' := by
  rw [← String.toList_inj, mechanicalEffectId_toList, mechanicalEffectId_toList,
    List.append_cancel_left_eq, append_cons_eq_iff, String.toList_inj, String.toList_inj, Prod.mk.injEq]
  refine or_congr_right ⟨fun ⟨w, h⟩ => ⟨String.ofList w, ?_⟩, fun ⟨w, h⟩ => ⟨w.toList, ?_⟩⟩
  · simp only [← String.toList_inj, String.toList_append, String.toList_ofList, List.append_assoc]
    exact h
  · simp only [← String.toList_inj, String.toList_append, List.append_assoc] at h
    exact h

/-! ## Effects apart -/

/-- What holds of two effects with identities of their own. -/
structure EffectsApart (R : Runtime D) (b b' : ProviderExecutionBinding D) : Prop where
  identity : b.mechanicalEffectId ≠ b'.mechanicalEffectId
  /-- A reservation of one leaves the other's receipt. -/
  fence : ∀ (cut : EffectFence.EvidenceCut D) (t : EffectFence D) r t',
    EffectFence.reserve b.mechanicalEffectId cut t = .ok (r, t') →
    t'.get? b'.mechanicalEffectId = t.get? b'.mechanicalEffectId
  /-- The other is reserved as if there were no such reservation. -/
  reservation : ∀ (cut cut' : EffectFence.EvidenceCut D) (t : EffectFence D) r t',
    EffectFence.reserve b.mechanicalEffectId cut t = .ok (r, t') →
    (EffectFence.reserve b'.mechanicalEffectId cut' t').map Prod.fst =
      (EffectFence.reserve b'.mechanicalEffectId cut' t).map Prod.fst
  /-- An audit event of one is none of the other's. -/
  audit : ∀ (log log' : OutboundExecutionAudit D) e, e.body.effectId = b.mechanicalEffectId →
    log'.entries = log.entries ++ [e] → OutboundExecutionAudit.events b'.mechanicalEffectId log' =
      OutboundExecutionAudit.events b'.mechanicalEffectId log
  /-- An assessment of the other says the same of the fence before and after. -/
  assessment : ∀ bindings (cut : EffectFence.EvidenceCut D) (s : VeraState D) r t' a a' s₁ s₂,
    bindings.get? b'.effectId = some b' →
    EffectFence.reserve b.mechanicalEffectId cut s.fence = .ok (r, t') →
    (assessProviderEffect R bindings b'.effectId).run s = (.ok a, s₁) →
    (assessProviderEffect R bindings b'.effectId).run { s with fence := t' } = (.ok a', s₂) →
    a'.fenceState = a.fenceState

theorem reserve_get?_other {id other : String} {cut : EffectFence.EvidenceCut D} {t t' : EffectFence D}
    {r : EffectReceipt D} (h : EffectFence.reserve id cut t = .ok (r, t')) (hne : other ≠ id) :
    t'.get? other = t.get? other := by
  obtain ⟨rfl, -, -⟩ | ⟨-, hr, rfl⟩ := EffectFence.reserve_ok h
  · rfl
  · exact Table.get?_insert_other ((EffectFence.reservation_ok hr).1 ▸ hne)

/-- What `reserve` answers depends on the row of its effect only. -/
theorem reserve_fst_congr {id : String} {cut : EffectFence.EvidenceCut D} {t t' : EffectFence D}
    (h : t'.get? id = t.get? id) :
    (EffectFence.reserve id cut t').map Prod.fst = (EffectFence.reserve id cut t).map Prod.fst := by
  rw [EffectFence.reserve, EffectFence.reserve, h]
  cases EffectFence.reservation id cut with
  | error e => rfl
  | ok new =>
    cases t.get? id with
    | none => rfl
    | some receipt =>
      dsimp only
      split_ifs <;> rfl

omit [DecidableEq D] in
theorem providerAssessment_fenceState (b : ProviderExecutionBinding D) (receipt : Option (EffectReceipt D))
    (current : Bool) :
    (providerAssessment b receipt current).fenceState = receipt.map fun r => r.state.value := by
  cases receipt with
  | none => rfl
  | some receipt =>
    rw [providerAssessment]
    cases receipt.state <;> rfl

theorem assess_fenceState {bindings : ProviderExecutionBindingStore D} {s s' : VeraState D}
    {a : ProviderExecutionRecoveryAssessment} (hb : bindings.get? b.effectId = some b)
    (h : (assessProviderEffect R bindings b.effectId).run s = (.ok a, s')) :
    a.fenceState = (s.fence.get? b.mechanicalEffectId).map fun r => r.state.value := by
  rw [assessProviderEffect, hb] at h
  obtain ⟨_, -, h⟩ := Prog.run_readOnly_bind (OutboundExecutionAudit.verifyFenceConsistency_readOnly _ _) h
  obtain ⟨receipt, hreceipt, h⟩ := Prog.run_readOnly_bind (Prog.ReadOnly.read _) h
  cases hreceipt
  rw [Prog.run_bind] at h
  cases hcurrent : (permitCurrent R b.permit).run s with
  | mk current s₀ =>
    rw [hcurrent] at h
    cases current with
    | error e => cases h
    | ok current =>
      cases h
      exact providerAssessment_fenceState b _ current

theorem EffectsApart.of_ne (h : b.mechanicalEffectId ≠ b'.mechanicalEffectId) : EffectsApart R b b' where
  identity := h
  fence _ _ _ _ hr := reserve_get?_other hr h.symm
  reservation _ _ _ _ _ hr := reserve_fst_congr (reserve_get?_other hr h.symm)
  audit log log' e he hlog := by
    have hne : e.body.effectId ≠ b'.mechanicalEffectId := he ▸ h
    rw [OutboundExecutionAudit.events, OutboundExecutionAudit.events, hlog, List.filter_append]
    simp [hne]
  assessment bindings cut s r t' a a' s₁ s₂ hb hr ha ha' := by
    rw [assess_fenceState hb ha, assess_fenceState hb ha', reserve_get?_other hr h.symm]

end ProviderExecutionBinding

open ProviderExecutionBinding in
/-- Two provider effects are apart just when no colon of one of their ids is taken for the
separator. -/
theorem provider_effects_apart_iff (R : Runtime D) (b b' : ProviderExecutionBinding D)
    (hne : (b.providerId, b.effectId) ≠ (b'.providerId, b'.effectId)) : EffectsApart R b b' ↔ ¬ Overlap b b' := by
  constructor
  · intro h hoverlap
    exact h.identity (mechanicalEffectId_eq_iff.2 (.inr hoverlap))
  · intro h
    refine .of_ne fun heq => ?_
    obtain hsame | hoverlap := mechanicalEffectId_eq_iff.1 heq
    · exact hne hsame
    · exact h hoverlap

/-! ## A shared identity -/

def boundEffect (providerId effectId : String) : ProviderExecutionBinding Nat :=
  ⟨effectId, providerId, "write", "request", "subject", samplePermit, none⟩

/-- Effects of one provider without colons in their ids are apart. -/
theorem plain_effects_apart : (boundEffect "a" "b").EffectsApart sample (boundEffect "a" "c") := by
  refine (provider_effects_apart_iff sample _ _ (by decide)).2 ?_
  rintro ⟨w, ⟨-, h⟩ | ⟨-, h⟩⟩
  · have hlength := congrArg (fun t : String => t.toList.length) h
    simp [boundEffect] at hlength
  · have hlength := congrArg (fun t : String => t.toList.length) h
    simp [boundEffect] at hlength

def sampleEvidenceCut (request : Nat) : EffectFence.EvidenceCut Nat := ⟨.lower request, .lower 0, .lower 0, .lower 0⟩

/-- Two providers share an identity: the effect of one that is reserved is in the way of the
other's, and is what the fence says of it. -/
theorem colon_shares_identity :
    ((boundEffect "a" "b:c").providerId, (boundEffect "a" "b:c").effectId) ≠
      ((boundEffect "a:b" "c").providerId, (boundEffect "a:b" "c").effectId) ∧
    (boundEffect "a" "b:c").mechanicalEffectId = (boundEffect "a:b" "c").mechanicalEffectId ∧
    (EffectFence.reserve (boundEffect "a" "b:c").mechanicalEffectId (sampleEvidenceCut 1) .empty).isOk = true ∧
    ((EffectFence.reserve (boundEffect "a" "b:c").mechanicalEffectId (sampleEvidenceCut 1) .empty).bind fun r =>
      EffectFence.reserve (boundEffect "a:b" "c").mechanicalEffectId (sampleEvidenceCut 2) r.2).isOk = false ∧
    ¬ (boundEffect "a" "b:c").EffectsApart sample (boundEffect "a:b" "c") := by
  have hid : (boundEffect "a" "b:c").mechanicalEffectId = (boundEffect "a:b" "c").mechanicalEffectId := by
    decide +kernel
  exact ⟨by decide, hid, by decide +kernel, by decide +kernel, fun h => h.identity hid⟩

end VeraMono
