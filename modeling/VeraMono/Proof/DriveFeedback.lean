import Mathlib.Algebra.Order.Ring.Unbundled.Rat
import VeraMono.Framework.Checks
import VeraMono.Model.DriveFeedback

/-!
# Drive feedback: the accounts of a run

What the tables hold is what a run admitted (`Accounts`): every call keeps it, whatever the
verifier and the clocks answer and wherever an admission is aborted (`accounts_run`).
-/

namespace VeraMono

open Framework

namespace DriveFeedback

variable {R : DriveRuntime}

/-! ## Runs -/

/-- An observation that a run admitted, with the state that its transaction met. -/
structure Admitted where
  before : DriveState
  observation : DriveObservation
  witness : DriveWitness
  admission : DriveAdmission

def admitted? (R : DriveRuntime) (c : DriveCall) (s : DriveState) : Option Admitted :=
  match perform R c s with
  | .ok (.admission a o w, _) => if a.status = .admitted then some ⟨s, o, w, a⟩ else none
  | _ => none

def admittedIn (R : DriveRuntime) : DriveState → List DriveCall → List Admitted
  | _, [] => []
  | s, c :: cs => (admitted? R c s).toList ++ admittedIn R (commit (perform R) s c) cs

namespace Admitted

def receipt (e : Admitted) : OutcomeReceipt :=
  receiptOf e.observation e.admission.claimSha256 e.witness (e.admission.needRevision.getD 0) e.admission.goalCredit
    e.admission.goalCreditReason

/-- Two admissions share no event, attempt, effect, evidence or witness. -/
def Apart (e e' : Admitted) : Prop :=
  e.observation.eventId ≠ e'.observation.eventId ∧ e.observation.attemptId ≠ e'.observation.attemptId ∧
    e.observation.physicalEffectId ≠ e'.observation.physicalEffectId ∧
    e.observation.evidenceDigest ≠ e'.observation.evidenceDigest ∧
    e.witness.attestationId ≠ e'.witness.attestationId

/-- The later of two admissions from one observer has the higher sequence and is observed no earlier. -/
def InOrder (e e' : Admitted) : Prop :=
  e.observation.observerId = e'.observation.observerId →
    e.observation.sourceSequence < e'.observation.sourceSequence ∧
      e.observation.observedAtMs ≤ e'.observation.observedAtMs

/-- A witnessed effect raised the need to the target of a goal, or above it, while the goal was active at
the revision and with the choice that the observation names. -/
structure Earned (e : Admitted) (b : GoalBinding) (g : GoalProjection) : Prop where
  binding : e.observation.goal = some b
  goal : e.before.goals.get? b.goalId = some g
  active : g.status = .active
  choiceId : g.choiceId = b.choiceId
  revision : g.revision = b.revision
  needId : g.needId = e.observation.needId
  effect : e.observation.effectStatus = .effect
  raised : ∃ n, e.before.needs.get? e.observation.needId = some n ∧ n.level < e.observation.absolutePostLevel
  target : g.targetLevel ≤ e.observation.absolutePostLevel
  witnessed : e.witness.claimSha256 = e.admission.claimSha256 ∧ e.witness.observerId = e.observation.observerId

end Admitted

def ofNeed (past : List Admitted) (needId : String) : List Admitted :=
  past.filter fun e => e.observation.needId = needId

/-- The tables hold what was admitted. -/
structure Accounts (past : List Admitted) (s : DriveState) : Prop where
  receipts : s.receipts.rows = past.map Admitted.receipt
  outbox : s.outbox.rows.map DriveOutboxRow.item = s.receipts.rows.map OutcomeReceipt.item
  apart : past.Pairwise Admitted.Apart
  inOrder : past.Pairwise Admitted.InOrder
  needs : ∀ k n, s.needs.get? k = some n → n.revision = (ofNeed past k).length ∧
    ∀ e ∈ (ofNeed past k).getLast?, n.level = e.observation.absolutePostLevel
  known : ∀ e ∈ past, (s.needs.get? e.observation.needId).isSome
  active : ∀ k k' g g', s.goals.get? k = some g → s.goals.get? k' = some g' → g.status = .active →
    g'.status = .active → g.needId = g'.needId → k = k'
  credits : ∀ e ∈ past, e.admission.goalCredit = true → ∃ b g, e.Earned b g ∧
    ∃ g', s.goals.get? b.goalId = some g' ∧ g'.status = .satisfied ∧
      g'.creditedEventId = some e.observation.eventId
  credited : ∀ k g eventId, s.goals.get? k = some g → g.creditedEventId = some eventId →
    ∃ e ∈ past, e.observation.eventId = eventId ∧ e.admission.goalCredit = true ∧
      e.observation.goal.map GoalBinding.goalId = some k

theorem accounts_empty : Accounts [] .empty where
  receipts := rfl
  outbox := rfl
  apart := .nil
  inOrder := .nil
  needs _ _ h := by cases h
  known _ h := by cases h
  active _ _ _ _ h := by cases h
  credits _ h := by cases h
  credited _ _ _ h := by cases h

variable {past : List Admitted} {s s' : DriveState}

/-! ## Goals -/

/-- What a change of the goals must keep. -/
structure GoalsKept (s : DriveState) (t : Table GoalProjection.goalId) : Prop where
  active : ∀ k k' g g', t.get? k = some g → t.get? k' = some g' → g.status = .active →
    g'.status = .active → g.needId = g'.needId → k = k'
  satisfied : ∀ k g, s.goals.get? k = some g → g.status = .satisfied → t.get? k = some g
  credited : ∀ k g eventId, t.get? k = some g → g.creditedEventId = some eventId →
    ∃ g', s.goals.get? k = some g' ∧ g'.creditedEventId = some eventId

theorem Accounts.setGoals (h : Accounts past s) {t : Table GoalProjection.goalId} (ht : GoalsKept s t) :
    Accounts past { s with goals := t } where
  receipts := h.receipts
  outbox := h.outbox
  apart := h.apart
  inOrder := h.inOrder
  needs := h.needs
  known := h.known
  active := ht.active
  credits e he hc := by
    obtain ⟨b, g, hearned, g', hg', hsat, hev⟩ := h.credits e he hc
    exact ⟨b, g, hearned, g', ht.satisfied _ _ hg' hsat, hsat, hev⟩
  credited k g eventId hg hev := by
    obtain ⟨g', hg', hev'⟩ := ht.credited k g eventId hg hev
    exact h.credited k g' eventId hg' hev'

variable {o : DriveObservation} {env : AdmitEnv} {g : GoalProjection}

theorem goalsKept_retire (h : Accounts past s) {k : String} (hg : s.goals.get? k = some g)
    (hactive : g.status = .active) (status : GoalStatus) (hstatus : status ≠ .active) (r : Nat) :
    GoalsKept s (s.goals.update { g with status := status, revision := r }) := by
  obtain rfl : g.goalId = k := Table.get?_key hg
  have hself : (s.goals.update { g with status := status, revision := r }).get? g.goalId =
      some { g with status := status, revision := r } :=
    Table.get?_update_self (v := { g with status := status, revision := r }) hg
  have hother : ∀ k, k ≠ g.goalId →
      (s.goals.update { g with status := status, revision := r }).get? k = s.goals.get? k :=
    fun k hk => Table.get?_update_other (v := { g with status := status, revision := r }) hk
  have hkeep : ∀ k x, (s.goals.update { g with status := status, revision := r }).get? k = some x →
      x.status = .active → s.goals.get? k = some x := by
    intro k x hx hxa
    by_cases hk : k = g.goalId
    · subst hk
      rw [hself, Option.some.injEq] at hx
      subst hx
      exact absurd hxa hstatus
    · exact hother k hk ▸ hx
  constructor
  · intro k k' x x' hx hx' hxa hxa' hneed
    exact h.active k k' x x' (hkeep k x hx hxa) (hkeep k' x' hx' hxa') hxa hxa' hneed
  · intro k x hx hsat
    by_cases hk : k = g.goalId
    · subst hk
      rw [hg, Option.some.injEq] at hx
      rw [← hx, hactive] at hsat
      cases hsat
    · rw [hother k hk, hx]
  · intro k x eventId hx hev
    by_cases hk : k = g.goalId
    · subst hk
      rw [hself, Option.some.injEq] at hx
      subst hx
      exact ⟨g, hg, hev⟩
    · exact ⟨x, hother k hk ▸ hx, hev⟩

theorem hasActive_false {needId : String} (h : s.hasActive needId = false) {k : String}
    (hg : s.goals.get? k = some g) (hactive : g.status = .active) : g.needId ≠ needId := by
  rintro rfl
  refine Bool.false_ne_true (h.symm.trans (List.any_eq_true.2 ⟨g, Table.mem_of_get? hg, ?_⟩))
  exact decide_eq_true ⟨rfl, hactive⟩

theorem insertGoal_accounts (h : Accounts past s) (hg : s.insertGoal g = some s')
    (hcredit : g.creditedEventId = none) : Accounts past s' := by
  rw [DriveState.insertGoal] at hg
  split at hg
  · cases hg
  · rename_i hok
    obtain rfl := Option.some.inj hg
    simp only [not_or, Bool.not_eq_true, Option.isSome_eq_false_iff, Option.isNone_iff_eq_none] at hok
    obtain ⟨hfresh, -, hnone⟩ := hok
    have hself := Table.get?_insert_self hfresh
    have hkeep : ∀ k x, (s.goals.insert g).get? k = some x → k ≠ g.goalId → s.goals.get? k = some x :=
      fun k x hx hk => Table.get?_insert_other (t := s.goals) (v := g) hk ▸ hx
    refine h.setGoals ⟨?_, ?_, ?_⟩
    · intro k k' x x' hx hx' hxa hxa' hneed
      by_cases hk : k = g.goalId <;> by_cases hk' : k' = g.goalId
      · rw [hk, hk']
      · subst hk
        rw [hself, Option.some.injEq] at hx
        subst hx
        exact absurd hneed.symm (hasActive_false hnone (hkeep k' x' hx' hk') hxa')
      · subst hk'
        rw [hself, Option.some.injEq] at hx'
        subst hx'
        exact absurd hneed (hasActive_false hnone (hkeep k x hx hk) hxa)
      · exact h.active k k' x x' (hkeep k x hx hk) (hkeep k' x' hx' hk') hxa hxa' hneed
    · intro k x hx _
      have hk : k ≠ g.goalId := by
        rintro rfl
        rw [hfresh] at hx
        cases hx
      rw [Table.get?_insert_other hk, hx]
    · intro k x eventId hx hev
      by_cases hk : k = g.goalId
      · subst hk
        rw [hself, Option.some.injEq] at hx
        rw [← hx, hcredit] at hev
        cases hev
      · exact ⟨x, hkeep k x hx hk, hev⟩

/-! ## Calls that admit nothing -/

theorem orRaise_ok {α : Type} {failure : Failure} {o : Option α} {a : α} :
    orRaise failure o = .ok a ↔ o = some a := by
  cases o <;> simp [orRaise]

theorem registerNeed_accounts {needId initialLevel measure : PyValue} (h : Accounts past s)
    (hr : registerNeed needId initialLevel measure s = .ok s') : Accounts past s' := by
  obtain ⟨k, -, hr⟩ := bind_eq_ok.1 hr
  obtain ⟨normalized, -, hr⟩ := bind_eq_ok.1 hr
  obtain ⟨measure, -, hr⟩ := bind_eq_ok.1 hr
  cases hold : s.needs.get? k with
  | some old =>
    simp only [hold, ite_error_ok, ↓throw_bind, pure_ok] at hr
    exact hr.2 ▸ h
  | none =>
    simp only [hold, pure_ok] at hr
    subst hr
    have hnone : ofNeed past k = [] := by
      refine List.filter_eq_nil_iff.2 fun e he hk => ?_
      have hknown := h.known e he
      rw [of_decide_eq_true hk, hold] at hknown
      cases hknown
    refine { h with needs := fun k' n hn => ?_, known := fun e he => ?_ }
    · by_cases hk : k' = k
      · subst hk
        rw [Table.get?_insert_self (v := (⟨k', 0, normalized, measure⟩ : NeedProjection)) hold,
          Option.some.injEq] at hn
        subst hn
        rw [hnone]
        exact ⟨rfl, fun e he => by cases he⟩
      · rw [Table.get?_insert_other (v := (⟨k, 0, normalized, measure⟩ : NeedProjection)) hk] at hn
        exact h.needs k' n hn
    · have hk : e.observation.needId ≠ k := by
        intro hk
        have hknown := h.known e he
        rw [hk, hold] at hknown
        cases hknown
      rw [Table.get?_insert_other (v := (⟨k, 0, normalized, measure⟩ : NeedProjection)) hk]
      exact h.known e he

theorem registerGoal_accounts {goalId needId choiceId target : PyValue} (h : Accounts past s)
    (hr : registerGoal goalId needId choiceId target s = .ok s') : Accounts past s' := by
  obtain ⟨goalId, -, hr⟩ := bind_eq_ok.1 hr
  obtain ⟨needId, -, hr⟩ := bind_eq_ok.1 hr
  obtain ⟨choiceId, -, hr⟩ := bind_eq_ok.1 hr
  obtain ⟨target, -, hr⟩ := bind_eq_ok.1 hr
  exact insertGoal_accounts h (orRaise_ok.1 hr) rfl

theorem replaceGoal_accounts {oldGoalId newGoalId newChoiceId target : PyValue} (h : Accounts past s)
    (hr : replaceGoal oldGoalId newGoalId newChoiceId target s = .ok s') : Accounts past s' := by
  obtain ⟨oldGoalId, -, hr⟩ := bind_eq_ok.1 hr
  obtain ⟨newGoalId, -, hr⟩ := bind_eq_ok.1 hr
  obtain ⟨newChoiceId, -, hr⟩ := bind_eq_ok.1 hr
  obtain ⟨target, -, hr⟩ := bind_eq_ok.1 hr
  obtain ⟨-, hr⟩ := ite_error_ok.1 hr
  cases hold : (s.goals.get? oldGoalId).filter (fun g => g.status = .active) with
  | none => simp only [hold, throw_ok] at hr
  | some old =>
    simp only [hold] at hr
    obtain ⟨hget, hactive⟩ := Option.filter_eq_some_iff.1 hold
    have hretired := h.setGoals (goalsKept_retire h hget (of_decide_eq_true hactive) .replaced
      (by decide) (old.revision + 1))
    exact insertGoal_accounts hretired (orRaise_ok.1 hr) rfl

theorem vetoGoal_accounts {goalId : PyValue} (h : Accounts past s) (hr : vetoGoal goalId s = .ok s') :
    Accounts past s' := by
  obtain ⟨goalId, -, hr⟩ := bind_eq_ok.1 hr
  cases hold : (s.goals.get? goalId).filter (fun g => g.status = .active) with
  | none => simp only [hold, throw_ok] at hr
  | some g =>
    simp only [hold, pure_ok] at hr
    obtain ⟨hget, hactive⟩ := Option.filter_eq_some_iff.1 hold
    subst hr
    exact h.setGoals (goalsKept_retire h hget (of_decide_eq_true hactive) _ (by decide) _)

theorem ackOutbox_accounts {eventId : PyValue} {first : Bool} (h : Accounts past s)
    (hr : ackOutbox eventId s = .ok (first, s')) : Accounts past s' := by
  obtain ⟨eventId, -, hr⟩ := bind_eq_ok.1 hr
  cases hold : s.outbox.get? eventId with
  | none => simp only [hold, throw_ok] at hr
  | some r =>
    simp only [hold] at hr
    split at hr
    · obtain ⟨-, rfl⟩ := Prod.mk.inj (pure_ok.1 hr)
      exact h
    · obtain ⟨-, rfl⟩ := Prod.mk.inj (pure_ok.1 hr)
      refine { h with outbox := ?_ }
      rw [← h.outbox, Table.update, List.map_map]
      refine List.map_congr_left fun x hx => ?_
      simp only [Function.comp_apply]
      split
      · rename_i hkey
        have hxr : x = r := List.inj_on_of_nodup_map s.outbox.nodup hx (Table.mem_of_get? hold) hkey
        rw [hxr]
      · rfl

/-! ## Admissions -/

theorem insertReceipt_ok {r : OutcomeReceipt} (h : s.insertReceipt r = some s') :
    (∀ old ∈ s.receipts.rows, DriveState.sameReceipt r old = false) ∧
      s' = { s with receipts := s.receipts.insert r } ∧ (s.receipts.insert r).rows = s.receipts.rows ++ [r] := by
  rw [DriveState.insertReceipt] at h
  split at h
  · cases h
  · rename_i hany
    rw [Bool.not_eq_true, List.any_eq_false] at hany
    refine ⟨fun old hold => by simpa using hany old hold, (Option.some.inj h).symm, Table.rows_insert ?_⟩
    rw [Table.get?_eq_none, List.mem_map]
    rintro ⟨old, hold, hkey⟩
    exact hany old hold (by simp [DriveState.sameReceipt, hkey])

theorem moveNeed_ok {needId : String} {r : Nat} {l : Rat} (h : s.moveNeed needId r l = some s') :
    ∃ n, s.needs.get? needId = some n ∧
      s' = { s with needs := s.needs.update { n with revision := n.revision + 1, level := l } } := by
  rw [DriveState.moveNeed] at h
  split at h
  · cases h
  · rename_i n hn
    split at h
    · exact ⟨n, hn, (Option.some.inj h).symm⟩
    · cases h

theorem insertOutbox_ok {item : DriveOutboxItem} (h : s.insertOutbox item = some s') :
    s' = { s with outbox := s.outbox.insert ⟨item, false⟩ } ∧
      (s.outbox.insert ⟨item, false⟩).rows = s.outbox.rows ++ [⟨item, false⟩] := by
  rw [DriveState.insertOutbox] at h
  split at h
  · cases h
  · rename_i hok
    rw [not_or, Bool.not_eq_true, Option.isSome_eq_false_iff, Option.isNone_iff_eq_none] at hok
    exact ⟨(Option.some.inj h).symm, Table.rows_insert (v := (⟨item, false⟩ : DriveOutboxRow)) hok.1⟩

/-- The goals after an admission: the credited goal is satisfied, the others are as they were. -/
def GoalsAfter (s : DriveState) (o : DriveObservation) (credit : Bool) (t : Table GoalProjection.goalId) : Prop :=
  (credit = false ∧ t = s.goals) ∨ (credit = true ∧ ∃ b g, o.goal = some b ∧ s.boundGoal b = some g ∧
    t = s.goals.update
      { g with status := .satisfied, revision := g.revision + 1, creditedEventId := some o.eventId })

theorem creditGoal_ok {credit : Bool} (h : creditGoal s o credit = .ok s') :
    ∃ t, GoalsAfter s o credit t ∧ s' = { s with goals := t } := by
  rw [creditGoal] at h
  split at h
  · rename_i hcredit
    split at h
    · rename_i b hb
      obtain ⟨g, hg, h⟩ := bind_eq_ok.1 h
      obtain ⟨-, h⟩ := ite_error_ok.1 h
      exact ⟨_, .inr ⟨hcredit, b, g, hb, orRaise_ok.1 hg, rfl⟩, pure_ok.1 h⟩
    · cases h
  · rename_i hcredit
    obtain rfl := Except.ok.inj h
    exact ⟨_, .inl ⟨Bool.not_eq_true _ ▸ hcredit, rfl⟩, rfl⟩

theorem record_ok {r : OutcomeReceipt} (h : record o r env s = .ok s') :
    (∀ old ∈ s.receipts.rows, DriveState.sameReceipt r old = false) ∧
      s'.receipts.rows = s.receipts.rows ++ [r] ∧ s'.outbox.rows = s.outbox.rows ++ [⟨r.item, false⟩] ∧
      GoalsAfter s o r.goalCredit s'.goals ∧ ∃ n, s.needs.get? o.needId = some n ∧
        s'.needs = s.needs.update { n with revision := n.revision + 1, level := o.absolutePostLevel } := by
  obtain ⟨s₁, h₁, h⟩ := bind_eq_ok.1 h
  obtain ⟨⟨⟩, -, h⟩ := bind_eq_ok.1 h
  obtain ⟨s₂, h₂, h⟩ := bind_eq_ok.1 h
  obtain ⟨⟨⟩, -, h⟩ := bind_eq_ok.1 h
  obtain ⟨s₃, h₃, h⟩ := bind_eq_ok.1 h
  obtain ⟨⟨⟩, -, h⟩ := bind_eq_ok.1 h
  obtain ⟨s₄, h₄, h⟩ := bind_eq_ok.1 h
  obtain ⟨⟨⟩, -, h⟩ := bind_eq_ok.1 h
  obtain rfl := pure_ok.1 h
  obtain ⟨hfresh, rfl, hreceipts⟩ := insertReceipt_ok (orRaise_ok.1 h₁)
  obtain ⟨n, hn, rfl⟩ := moveNeed_ok (orRaise_ok.1 h₂)
  obtain ⟨t, ht, rfl⟩ := creditGoal_ok h₃
  obtain ⟨rfl, houtbox⟩ := insertOutbox_ok (orRaise_ok.1 h₄)
  exact ⟨hfresh, hreceipts, houtbox, ht, n, hn, rfl⟩

theorem goalCredit_ok {previous : Rat} {reason : String}
    (h : goalCredit s o previous = .ok (true, reason)) :
    ∃ b g, o.goal = some b ∧ s.goals.get? b.goalId = some g ∧
      g.needId = o.needId ∧ g.status = .active ∧ g.choiceId = b.choiceId ∧ g.revision = b.revision ∧
      o.effectStatus = .effect ∧ previous < o.absolutePostLevel ∧ g.targetLevel ≤ o.absolutePostLevel := by
  rw [goalCredit] at h
  split at h
  · cases h
  · split at h
    · cases h
    · rename_i b hb
      split at h
      · cases h
      · rename_i g hg
        split_ifs at h with h₁ h₂ h₃ h₄ h₅ h₆
        · cases h
        · cases h
        · cases h
        · cases h
        · cases h
        · rw [not_or, not_not, not_not] at h₃
          exact ⟨b, g, hb, hg, not_not.1 h₁, not_not.1 h₂, h₃.1, h₃.2, not_not.1 h₄, not_le.1 h₅,
            not_lt.1 h₆⟩

theorem witnessed_ok {claim : String} {w : DriveWitness}
    (h : witnessed R o claim env = .ok w) : w.claimSha256 = claim ∧ w.observerId = o.observerId := by
  rw [witnessed] at h
  split at h
  · cases h
  · split at h
    · cases h
    · split at h
      · cases h
      · split at h
        · cases h
        · split at h
          · cases h
          · cases h
          · split at h
            · cases h
            · split at h
              · rename_i hbound
                obtain rfl := Except.ok.inj h
                exact ⟨hbound.1, hbound.2.1⟩
              · cases h

/-- A transaction of `admit` that commits replays a receipt and writes nothing, or admits. -/
theorem admitLocked_ok {claim : String} {w : DriveWitness}
    {a : DriveAdmission} (h : admitLocked R o claim w env s = .ok (a, s')) :
    (a.status ≠ .admitted ∧ s' = s) ∨ ∃ need credit reason,
      a = ⟨o.eventId, .admitted, claim, some (need.revision + 1), credit, reason, false⟩ ∧
      s.needs.get? o.needId = some need ∧ outOfOrder s o = false ∧
      goalCredit s o need.level = .ok (credit, reason) ∧
      record o (receiptOf o claim w (need.revision + 1) credit reason) env s = .ok s' := by
  obtain ⟨⟨⟩, -, h⟩ := bind_eq_ok.1 h
  cases hold : s.receipts.get? o.eventId with
  | some old =>
    simp only [hold, ite_error_ok, ↓throw_bind, pure_ok, Prod.mk.injEq] at h
    obtain ⟨-, rfl, rfl⟩ := h
    exact .inl ⟨by simp, rfl⟩
  | none =>
    simp only [hold] at h
    obtain ⟨need, hneed, h⟩ := bind_eq_ok.1 h
    obtain ⟨⟨⟩, hcheck, h⟩ := bind_eq_ok.1 h
    obtain ⟨⟨credit, reason⟩, hcredit, h⟩ := bind_eq_ok.1 h
    obtain ⟨s'', hrecord, h⟩ := bind_eq_ok.1 h
    obtain ⟨⟨⟩, -, h⟩ := bind_eq_ok.1 h
    obtain ⟨rfl, rfl⟩ := Prod.mk.inj (pure_ok.1 h)
    simp only [checkNeed, ite_error_ok, ite_throw_ok, ↓throw_bind, pure_ok] at hcheck
    exact .inr ⟨need, credit, reason, rfl, orRaise_ok.1 hneed, by simpa using hcheck.2.2.2, hcredit, hrecord⟩

theorem pairwise_or {α : Type} {r : α → α → Prop} {l : List α} (h : l.Pairwise r) {a b : α}
    (ha : a ∈ l) (hb : b ∈ l) (hne : a ≠ b) : r a b ∨ r b a := by
  induction h with
  | nil => cases ha
  | @cons x l hx _ ih =>
    rcases List.mem_cons.1 ha with rfl | ha' <;> rcases List.mem_cons.1 hb with rfl | hb'
    · exact absurd rfl hne
    · exact .inl (hx b hb')
    · exact .inr (hx a ha')
    · exact ih ha' hb'

/-- An admission is ahead of what its observer sent before. -/
theorem inOrder_of_outOfOrder (h : Accounts past s) {e : Admitted} (hout : outOfOrder s e.observation = false) :
    ∀ e' ∈ past, e'.InOrder e := by
  intro e' he' hobserver
  have hmem : e'.receipt ∈ s.receipts.rows.filter fun r => r.observerId = e.observation.observerId := by
    rw [List.mem_filter, h.receipts]
    exact ⟨List.mem_map_of_mem he', decide_eq_true hobserver⟩
  cases hlast : lastSource s e.observation.observerId with
  | none =>
    rw [lastSource, List.argmax_eq_none] at hlast
    rw [hlast] at hmem
    cases hmem
  | some last =>
    simp only [outOfOrder, hlast, Option.any_some, decide_eq_false_iff_not, not_or, not_le, not_lt] at hout
    have hle : e'.observation.sourceSequence ≤ last.sourceSequence := List.le_of_mem_argmax hmem hlast
    obtain ⟨hlastMem, hlastObserver⟩ := List.mem_filter.1 (List.argmax_mem hlast)
    rw [h.receipts] at hlastMem
    obtain ⟨e₀, he₀, rfl⟩ := List.mem_map.1 hlastMem
    have hsame : e'.observation.observerId = e₀.observation.observerId :=
      hobserver.trans (of_decide_eq_true hlastObserver).symm
    refine ⟨lt_of_le_of_lt hle hout.1, le_trans ?_ hout.2⟩
    -- the last of the observer's receipts is this one, or was admitted after it
    rcases eq_or_ne e' e₀ with rfl | hne
    · exact le_rfl
    · rcases pairwise_or h.inOrder he' he₀ hne with hord | hord
      · exact (hord hsame).2
      · exact absurd (hord hsame.symm).1 (not_lt.2 hle)

def Satisfied (o : DriveObservation) (k : String) (g : GoalProjection) : Prop :=
  o.goal.map GoalBinding.goalId = some k ∧ g.status = .satisfied ∧ g.creditedEventId = some o.eventId

/-- The goals after an admission are those before it and the one that it satisfied, which was active. -/
theorem goalsAfter_cases {credit : Bool} {t : Table GoalProjection.goalId}
    (ht : GoalsAfter s o credit t) :
    (∀ k g, t.get? k = some g → s.goals.get? k = some g ∨ (credit = true ∧ Satisfied o k g)) ∧
      (∀ k g, s.goals.get? k = some g → g.status = .satisfied → t.get? k = some g) ∧
      (credit = true → ∃ k g, t.get? k = some g ∧ Satisfied o k g) := by
  rcases ht with ⟨hcredit, rfl⟩ | ⟨hcredit, b, g, hb, hg, rfl⟩
  · exact ⟨fun k g hg => .inl hg, fun k g hg _ => hg, fun h => absurd h (by simp [hcredit])⟩
  · obtain ⟨hget, hbound⟩ := Option.filter_eq_some_iff.1 hg
    obtain ⟨-, -, hactive⟩ := of_decide_eq_true hbound
    have hkey : g.goalId = b.goalId := Table.get?_key hget
    rw [← hkey] at hget
    let g' : GoalProjection :=
      { g with status := .satisfied, revision := g.revision + 1, creditedEventId := some o.eventId }
    have hself : (s.goals.update g').get? g.goalId = some g' := Table.get?_update_self (v := g') hget
    have hother : ∀ k, k ≠ g.goalId → (s.goals.update g').get? k = s.goals.get? k :=
      fun k hk => Table.get?_update_other (v := g') hk
    have hsatisfied : Satisfied o g.goalId g' := ⟨by rw [hb, Option.map_some, hkey], rfl, rfl⟩
    refine ⟨fun k x hx => ?_, fun k x hx hsat => ?_, fun _ => ⟨g.goalId, g', hself, hsatisfied⟩⟩
    · by_cases hk : k = g.goalId
      · subst hk
        obtain rfl : g' = x := Option.some.inj (hself.symm.trans hx)
        exact .inr ⟨hcredit, hsatisfied⟩
      · exact .inl (hother k hk ▸ hx)
    · have hk : k ≠ g.goalId := by
        rintro rfl
        rw [hget, Option.some.injEq] at hx
        rw [← hx, hactive] at hsat
        cases hsat
      exact (hother k hk).trans hx

theorem ofNeed_append (past : List Admitted) (e : Admitted) (k : String) :
    ofNeed (past ++ [e]) k = if e.observation.needId = k then ofNeed past k ++ [e] else ofNeed past k := by
  rw [ofNeed, List.filter_append]
  split_ifs with hk
  · rw [List.filter_singleton, decide_eq_true hk]
    rfl
  · rw [List.filter_singleton, decide_eq_false hk]
    exact List.append_nil _

theorem admitted_accounts (h : Accounts past s) {e : Admitted} {n : NeedProjection}
    (hbefore : e.before = s) (hneed : s.needs.get? e.observation.needId = some n)
    (hout : outOfOrder s e.observation = false) (hclaim : e.witness.claimSha256 = e.admission.claimSha256)
    (hobserver : e.witness.observerId = e.observation.observerId)
    (hcredit : goalCredit s e.observation n.level = .ok (e.admission.goalCredit, e.admission.goalCreditReason))
    (hrecord : record e.observation e.receipt env s = .ok s') : Accounts (past ++ [e]) s' := by
  obtain ⟨hfresh, hreceipts, houtbox, hgoals, n', hn', hneeds⟩ := record_ok hrecord
  obtain rfl : n = n' := Option.some.inj (hneed.symm.trans hn')
  obtain ⟨hcases, hkept, hnew⟩ := goalsAfter_cases hgoals
  have hkey : n.needId = e.observation.needId := Table.get?_key hneed
  have hself : s'.needs.get? e.observation.needId =
      some { n with revision := n.revision + 1, level := e.observation.absolutePostLevel } := by
    rw [hneeds, ← hkey]
    exact Table.get?_update_self (v := ({ n with
      revision := n.revision + 1, level := e.observation.absolutePostLevel } : NeedProjection)) (hkey ▸ hneed)
  have hother : ∀ k, k ≠ e.observation.needId → s'.needs.get? k = s.needs.get? k := by
    intro k hk
    rw [hneeds]
    exact Table.get?_update_other (v := ({ n with
      revision := n.revision + 1, level := e.observation.absolutePostLevel } : NeedProjection)) (hkey ▸ hk)
  have hlast : ∀ x ∈ past, x.Apart e ∧ x.InOrder e := by
    intro x hx
    refine ⟨?_, inOrder_of_outOfOrder h hout x hx⟩
    have hdiff := hfresh x.receipt (h.receipts ▸ List.mem_map_of_mem hx)
    simp only [DriveState.sameReceipt, Bool.or_eq_false_iff, decide_eq_false_iff_not] at hdiff
    obtain ⟨⟨⟨⟨⟨h₁, h₂⟩, h₃⟩, h₄⟩, h₅⟩, -⟩ := hdiff
    exact ⟨Ne.symm h₁, Ne.symm h₂, Ne.symm h₃, Ne.symm h₄, Ne.symm h₅⟩
  have happend : ∀ {r : Admitted → Admitted → Prop}, past.Pairwise r → (∀ x ∈ past, r x e) →
      (past ++ [e]).Pairwise r := fun hp hr =>
    List.pairwise_append.2 ⟨hp, List.pairwise_singleton _ _, fun x hx y hy => by
      rw [List.mem_singleton.1 hy]
      exact hr x hx⟩
  constructor
  · rw [hreceipts, h.receipts, List.map_append, List.map_singleton]
  · rw [houtbox, hreceipts, List.map_append, List.map_append, h.outbox, List.map_singleton, List.map_singleton]
  · exact happend h.apart fun x hx => (hlast x hx).1
  · exact happend h.inOrder fun x hx => (hlast x hx).2
  · intro k m hm
    by_cases hk : k = e.observation.needId
    · subst hk
      rw [hself, Option.some.injEq] at hm
      subst hm
      rw [ofNeed_append, if_pos rfl, List.length_append, List.length_singleton, List.getLast?_concat]
      refine ⟨by rw [(h.needs _ n hneed).1], fun x hx => ?_⟩
      rw [Option.mem_some.1 hx]
    · rw [ofNeed_append, if_neg (Ne.symm hk)]
      exact h.needs k m (hother k hk ▸ hm)
  · intro x hx
    by_cases hk : x.observation.needId = e.observation.needId
    · rw [hk, hself]
      rfl
    · rcases List.mem_append.1 hx with hx | hx
      · rw [hother _ hk]
        exact h.known x hx
      · exact absurd (congrArg _ (congrArg _ (List.mem_singleton.1 hx))) hk
  · intro k k' g g' hg hg' hactive hactive' hsame
    rcases hcases k g hg with hg | ⟨-, -, hsat, -⟩
    · rcases hcases k' g' hg' with hg' | ⟨-, -, hsat, -⟩
      · exact h.active k k' g g' hg hg' hactive hactive' hsame
      · rw [hactive'] at hsat
        cases hsat
    · rw [hactive] at hsat
      cases hsat
  · intro x hx hc
    rcases List.mem_append.1 hx with hx | hx
    · obtain ⟨b, g, hearned, g', hg', hsat, hev⟩ := h.credits x hx hc
      exact ⟨b, g, hearned, g', hkept _ _ hg' hsat, hsat, hev⟩
    · obtain rfl := List.mem_singleton.1 hx
      rw [hc] at hcredit
      obtain ⟨b, g, hb, hg, hgneed, hactive, hchoice, hrevision, heffect, hraised, htarget⟩ :=
        goalCredit_ok hcredit
      obtain ⟨k, g', hg', hk, hsat, hev⟩ := hnew hc
      obtain rfl : b.goalId = k := by simpa [hb] using hk
      subst hbefore
      have hearned : x.Earned b g :=
        ⟨hb, hg, hactive, hchoice, hrevision, hgneed, heffect, ⟨n, hneed, hraised⟩, htarget, hclaim, hobserver⟩
      exact ⟨b, g, hearned, g', hg', hsat, hev⟩
  · intro k g eventId hg hev
    rcases hcases k g hg with hg | ⟨hc, hk, -, hev'⟩
    · obtain ⟨x, hx, hxe, hxc, hxk⟩ := h.credited k g eventId hg hev
      exact ⟨x, List.mem_append_left _ hx, hxe, hxc, hxk⟩
    · exact ⟨e, by simp, Option.some.inj (hev'.symm.trans hev), hc, hk⟩

/-! ## Runs -/

theorem admitObservation_ok {observation : Option RawObservation} {r : DriveResult}
    (h : admitObservation R observation env s = .ok (r, s')) : ∃ a o w, r = .admission a o w ∧
      ((a.status ≠ .admitted ∧ s' = s) ∨
        (a.status = .admitted ∧ ∀ past, Accounts past s → Accounts (past ++ [⟨s, o, w, a⟩]) s')) := by
  obtain ⟨⟨o, claim⟩, -, h⟩ := bind_eq_ok.1 h
  obtain ⟨w, hw, h⟩ := bind_eq_ok.1 h
  obtain ⟨⟨a, s''⟩, hlocked, h⟩ := bind_eq_ok.1 h
  obtain ⟨rfl, rfl⟩ := Prod.mk.inj (pure_ok.1 h)
  refine ⟨a, o, w, rfl, ?_⟩
  rcases admitLocked_ok hlocked with hquiet | ⟨need, credit, reason, rfl, hneed, hout, hcredit, hrecord⟩
  · exact .inl hquiet
  · obtain ⟨hclaim, hobserver⟩ := witnessed_ok hw
    refine .inr ⟨rfl, fun past hacc => ?_⟩
    exact admitted_accounts hacc rfl hneed hout hclaim hobserver hcredit hrecord

/-- A call that commits keeps the accounts, with what it admits. -/
theorem perform_ok (hacc : Accounts past s) {c : DriveCall} {r : DriveResult} (h : perform R c s = .ok (r, s')) :
    Accounts (past ++ (admitted? R c s).toList) s' := by
  have hquiet : (∀ a o w, r ≠ .admission a o w) → Accounts past s' →
      Accounts (past ++ (admitted? R c s).toList) s' := by
    intro hr hacc
    have hnone : admitted? R c s = none := by
      rw [admitted?, h]
      cases r with
      | admission a o w => exact absurd rfl (hr a o w)
      | _ => rfl
    rw [hnone, Option.toList_none, List.append_nil]
    exact hacc
  cases c with
  | registerNeed needId initialLevel measure =>
    obtain ⟨s', hs, heq⟩ := map_eq_ok.1 h
    cases heq
    exact hquiet (fun _ _ _ hr => by cases hr) (registerNeed_accounts hacc hs)
  | registerGoal goalId needId choiceId target =>
    obtain ⟨s', hs, heq⟩ := map_eq_ok.1 h
    cases heq
    exact hquiet (fun _ _ _ hr => by cases hr) (registerGoal_accounts hacc hs)
  | replaceGoal oldGoalId newGoalId newChoiceId target =>
    obtain ⟨s', hs, heq⟩ := map_eq_ok.1 h
    cases heq
    exact hquiet (fun _ _ _ hr => by cases hr) (replaceGoal_accounts hacc hs)
  | vetoGoal goalId =>
    obtain ⟨s', hs, heq⟩ := map_eq_ok.1 h
    cases heq
    exact hquiet (fun _ _ _ hr => by cases hr) (vetoGoal_accounts hacc hs)
  | ackOutbox eventId =>
    obtain ⟨⟨first, s'⟩, hs, heq⟩ := map_eq_ok.1 h
    cases heq
    exact hquiet (fun _ _ _ hr => by cases hr) (ackOutbox_accounts hacc hs)
  | admitObservation observation env =>
    obtain ⟨a, o, w, rfl, ⟨hstatus, rfl⟩ | ⟨hstatus, hadd⟩⟩ := admitObservation_ok h
    · have hnone : admitted? R (.admitObservation observation env) s' = none := by
        rw [admitted?, h]
        exact if_neg hstatus
      rw [hnone, Option.toList_none, List.append_nil]
      exact hacc
    · have hsome : admitted? R (.admitObservation observation env) s = some ⟨s, o, w, a⟩ := by
        rw [admitted?, h]
        exact if_pos hstatus
      rw [hsome]
      exact hadd past hacc

theorem accounts_run (h : Accounts past s) (cs : List DriveCall) :
    Accounts (past ++ admittedIn R s cs) (runCalls (perform R) s cs) := by
  induction cs generalizing past s with
  | nil => exact (List.append_nil past).symm ▸ h
  | cons c cs ih =>
    rw [admittedIn, ← List.append_assoc]
    refine ih ?_
    cases hp : perform R c s with
    | ok r =>
      rw [commit_ok (a := r.1) hp]
      exact perform_ok h hp
    | error e =>
      have hnone : admitted? R c s = none := by rw [admitted?, hp]
      rw [commit_error hp, hnone, Option.toList_none, List.append_nil]
      exact h

def ChangesNothing (R : DriveRuntime) (s : DriveState) (c : DriveCall) : Prop :=
  (∀ e, perform R c s = .error e → commit (perform R) s c = s) ∧
    ∀ a o w s', perform R c s = .ok (.admission a o w, s') → a.status ≠ .admitted → s' = s

/-- The accounting of drive feedback, after any run of calls. -/
theorem drive_accounting (R : DriveRuntime) (cs : List DriveCall) :
    Accounts (admittedIn R .empty cs) (runCalls (perform R) .empty cs) ∧
      (∀ e ∈ admittedIn R .empty cs, ∀ e' ∈ admittedIn R .empty cs, e.admission.goalCredit = true →
        e'.admission.goalCredit = true → e.observation.goal.map GoalBinding.goalId =
          e'.observation.goal.map GoalBinding.goalId → e.observation.eventId = e'.observation.eventId) ∧
      ∀ c, ChangesNothing R (runCalls (perform R) .empty cs) c := by
  have hacc : Accounts (admittedIn R .empty cs) (runCalls (perform R) .empty cs) := accounts_run accounts_empty cs
  refine ⟨hacc, fun e he e' he' hc hc' hgoal => ?_, fun c => ⟨fun e he => commit_error he, ?_⟩⟩
  · obtain ⟨b, _, hearned, g, hg, -, hev⟩ := hacc.credits e he hc
    obtain ⟨b', _, hearned', g', hg', -, hev'⟩ := hacc.credits e' he' hc'
    have hsame : b.goalId = b'.goalId := by simpa [hearned.binding, hearned'.binding] using hgoal
    rw [← hsame, hg, Option.some.injEq] at hg'
    subst hg'
    exact Option.some.inj (hev.symm.trans hev')
  · intro a o w s' h hstatus
    cases c with
    | admitObservation observation env =>
      obtain ⟨a', o', w', heq, ⟨-, hs⟩ | ⟨hadmitted, -⟩⟩ := admitObservation_ok h
      · exact hs
      · obtain ⟨rfl, -, -⟩ := DriveResult.admission.inj heq
        exact absurd hadmitted hstatus
    | _ =>
      obtain ⟨x, -, heq⟩ := map_eq_ok.1 h
      cases heq

end DriveFeedback

end VeraMono
