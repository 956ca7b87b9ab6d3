import Mathlib.Algebra.Order.Ring.Rat
import Mathlib.Algebra.Order.BigOperators.Group.List
import Mathlib.Data.List.Induction
import Mathlib.Tactic.Linarith
import Mathlib.Tactic.Ring
import VeraMono.Proof.VeraWorks

/-!
# The Vera Fund

`financial_ledger` adds up the events of a history: a net for every RECEIVED event, less
every amount spent or refunded. Only spending is checked against the balance, and nothing
ties a refund, or a second RECEIVED event, to what was received before; what the ledger then
promises is exactly what the history keeps by itself (`fund_balance`).
-/

namespace VeraMono

open Framework

namespace VeraWorks

variable {rt : WorksRuntime} {s s' : HistoryState} {e : WorksEvent} {ws : List WorksEvent}

/-! ## Payments -/

namespace WorksEvent

/-- The event pays into the fund. -/
def receives (e : WorksEvent) : Bool := e.isFinancial && e.toState = .valid "RECEIVED"

def spends (e : WorksEvent) : Bool := e.isFinancial && e.toState = .valid "SPENT"

def refunds (e : WorksEvent) : Bool := e.isFinancial && e.toState = .valid "REFUNDED"

def net (rt : WorksRuntime) (e : WorksEvent) : Rat := money rt (e.payload.get "net")

def amount (rt : WorksRuntime) (e : WorksEvent) : Rat := money rt (e.payload.get "amount")

def reverses (e : WorksEvent) : Option Text := e.payload.text? "reverses_event_id"

def paysIn (rt : WorksRuntime) (e : WorksEvent) : Rat := if e.receives then e.net rt else 0

def paysOut (rt : WorksRuntime) (e : WorksEvent) : Rat := if e.spends ∨ e.refunds then e.amount rt else 0

end WorksEvent

/-- What the payload checks of `validate_event` leave of an event. -/
structure WellPaid (rt : WorksRuntime) (e : WorksEvent) : Prop where
  net : e.receives = true → 0 ≤ e.net rt
  amount : e.spends = true ∨ e.refunds = true → 0 < e.amount rt

theorem nonnegative_money {payload : PyDict} {field : String}
    (h : (nonnegative? rt payload field).isSome = true) : 0 ≤ money rt (payload.get field) := by
  rw [nonnegative?, Option.isSome_iff_exists] at h
  obtain ⟨r, hr⟩ := h
  rw [Option.filter_eq_some_iff] at hr
  rw [money, hr.1]
  simpa using hr.2

theorem positive_money {payload : PyDict} {field : String}
    (h : ((decimal? rt (payload.get field)).any fun amount => 0 < amount) = true) :
    0 < money rt (payload.get field) := by
  rw [Option.any_eq_true] at h
  obtain ⟨r, hr, hpos⟩ := h
  rw [money, hr]
  simpa using hpos

variable {balance : Rat} {eventId : Text} {pre post : List WorksEvent} {event : PyDict}

theorem text?_of_isFinancial (h : (WorksEvent.of event).isFinancial = true) :
    event.text? "subject_type" = some (.valid "financial") := by
  rw [WorksEvent.isFinancial, decide_eq_true_eq] at h
  change (event.text? "subject_type").getD (.valid "") = _ at h
  cases ht : event.text? "subject_type" with
  | none =>
    rw [ht] at h
    exact absurd h (by decide)
  | some t =>
    rw [ht] at h
    exact congrArg some h

theorem validateState_ok (h : validateState rt event = .ok []) :
    ∃ subjectType states state, event.text? "subject_type" = some subjectType ∧
      statesOf subjectType = some states ∧ event.text? "to_state" = some state ∧ states.Lists state := by
  simp only [validateState, bind_eq_ok] at h
  obtain ⟨_, -, h⟩ := h
  split at h
  · simp [pure_ok] at h
  · rename_i states hstates
    simp only [pure_ok, List.nil_eq, demand_eq_nil, Option.any_eq_true, decide_eq_true_eq] at h
    obtain ⟨state, hstate, hlists⟩ := h
    obtain ⟨subjectType, htype, hof⟩ := Option.bind_eq_some_iff.1 hstates
    exact ⟨subjectType, states, state, htype, hof, hstate, hlists⟩

theorem validateEvent_financial (h : validateEvent rt event = .ok [])
    (hf : (WorksEvent.of event).isFinancial = true) :
    ∃ state, (WorksEvent.of event).toState = .valid state ∧
      validateFinancialPayload rt state (WorksEvent.of event).payload = [] := by
  rw [validateEvent] at h
  split at h
  · rename_i hmissing
    rw [pure_ok, List.nil_eq, List.map_eq_nil_iff] at h
    exact absurd h hmissing
  · simp only [bind_eq_ok, pure_ok, List.nil_eq, List.append_eq_nil_iff, demand_eq_nil] at h
    obtain ⟨_, hstates, _, hpayload, h⟩ := h
    obtain ⟨⟨⟨⟨⟨⟨⟨⟨-, rfl⟩, -⟩, -⟩, hdict⟩, -⟩, -⟩, -⟩, rfl⟩ := h
    obtain ⟨subjectType, states, state, htype, hof, hstate, t, ht, rfl⟩ := validateState_ok hstates
    rw [text?_of_isFinancial hf, Option.some.injEq] at htype
    subst htype
    obtain ⟨payload, hpay⟩ := Option.isSome_iff_exists.1 hdict
    have hlists : ((statesOf (.valid "financial")).any fun s => s.Lists (.valid t.1)) = true := by
      rw [hof, Option.any_some, decide_eq_true_eq]
      exact ⟨t, ht, rfl⟩
    simp only [validatePayload, hpay, text?_of_isFinancial hf, hstate, if_pos hlists, Except.ok.injEq] at hpayload
    refine ⟨t.1, ?_, ?_⟩
    · change (event.text? "to_state").getD _ = _
      rw [hstate]
      rfl
    · change validateFinancialPayload rt t.1 ((payload? event).getD []) = []
      rw [hpay]
      exact hpayload

theorem wellPaid_of_valid (h : validateEvent rt event = .ok []) : WellPaid rt (.of event) := by
  have hstate {name : String} (hs : ((WorksEvent.of event).isFinancial &&
      (WorksEvent.of event).toState = .valid name) = true) :
      validateFinancialPayload rt name (WorksEvent.of event).payload = [] := by
    rw [Bool.and_eq_true, decide_eq_true_eq] at hs
    obtain ⟨state, hto, hpay⟩ := validateEvent_financial h hs.1
    rw [hs.2, Text.valid.injEq] at hto
    exact hto ▸ hpay
  constructor
  · intro hr
    have hpay := hstate hr
    simp only [validateFinancialPayload, List.append_eq_nil_iff, demand_eq_nil, nonnegativeMoney] at hpay
    exact nonnegative_money hpay.2.1.2
  · rintro (hs | hs)
    · have hpay := hstate hs
      simp only [validateFinancialPayload, List.append_eq_nil_iff, demand_eq_nil, positiveMoney] at hpay
      exact positive_money hpay.2.1
    · have hpay := hstate hs
      simp only [validateFinancialPayload, List.append_eq_nil_iff, demand_eq_nil, positiveMoney] at hpay
      exact positive_money hpay.2.1

theorem Accepted.wellPaid (h : Accepted rt ws s) : ∀ e ∈ ws, WellPaid rt e := by
  induction h with
  | nil => exact fun _ he => absurd he List.not_mem_nil
  | snoc _ hvalid _ ih =>
    intro e he
    rcases List.mem_append.1 he with he | he
    · exact ih e he
    · rw [List.mem_singleton.1 he]
      exact wellPaid_of_valid hvalid

/-! ## The rows of the ledger -/

/-- The row of an event of the fund, on top of a balance. -/
def ledgerRow (rt : WorksRuntime) (balance : Rat) (e : WorksEvent) : LedgerRow :=
  ⟨e.eventId, e.subjectId, e.toState, e.payload.text? "currency", e.paysIn rt - e.paysOut rt,
    balance + (e.paysIn rt - e.paysOut rt), if e.refunds then e.reverses else none⟩

/-- The rows of the events of the fund, on top of a balance. -/
def rowsFrom (rt : WorksRuntime) : Rat → List WorksEvent → List LedgerRow
  | _, [] => []
  | balance, e :: ws =>
    if e.isFinancial then ledgerRow rt balance e :: rowsFrom rt (balance + (e.paysIn rt - e.paysOut rt)) ws
    else rowsFrom rt balance ws

def Covered (rt : WorksRuntime) : Rat → List WorksEvent → Prop
  | _, [] => True
  | balance, e :: ws => (e.spends = true → e.amount rt ≤ balance) ∧
      Covered rt (balance + (e.paysIn rt - e.paysOut rt)) ws

theorem paysIn_of_not_financial (h : ¬ e.isFinancial = true) : e.paysIn rt = 0 := by
  simp [WorksEvent.paysIn, WorksEvent.receives, h]

theorem paysOut_of_not_financial (h : ¬ e.isFinancial = true) : e.paysOut rt = 0 := by
  simp [WorksEvent.paysOut, WorksEvent.spends, WorksEvent.refunds, h]

theorem ledgerDelta_ok {L : LedgerState} {delta : Rat} {reference : Option Text} (hf : e.isFinancial = true)
    (h : ledgerDelta rt L e = .ok (delta, reference)) :
    delta = e.paysIn rt - e.paysOut rt ∧ reference = (if e.refunds then e.reverses else none) ∧
      (e.spends = true → e.amount rt ≤ L.balance) := by
  have hreceives : e.receives = decide (e.toState = .valid "RECEIVED") := by rw [WorksEvent.receives, hf, Bool.true_and]
  have hspends : e.spends = decide (e.toState = .valid "SPENT") := by rw [WorksEvent.spends, hf, Bool.true_and]
  have hrefunds : e.refunds = decide (e.toState = .valid "REFUNDED") := by rw [WorksEvent.refunds, hf, Bool.true_and]
  rw [WorksEvent.paysIn, WorksEvent.paysOut, hreceives, hspends, hrefunds]
  simp only [ledgerDelta] at h
  split at h
  · rename_i hstate
    cases h
    simp [hstate, WorksEvent.net]
  split at h
  · rename_i hstate
    rw [ite_error_ok, Except.ok.injEq, Prod.mk.injEq] at h
    obtain ⟨hcovered, rfl, rfl⟩ := h
    simpa [hstate, WorksEvent.amount] using hcovered
  split at h
  · rename_i hstate
    rw [ite_error_ok, Except.ok.injEq, Prod.mk.injEq] at h
    obtain ⟨-, rfl, rfl⟩ := h
    simp [hstate, WorksEvent.amount, WorksEvent.reverses]
  · rename_i hreceived hspent hrefunded
    cases h
    simp [hreceived, hspent, hrefunded]

theorem stepLedger_ok {L L' : LedgerState} (h : stepLedger rt L e = .ok L') :
    L'.balance = L.balance + (e.paysIn rt - e.paysOut rt) ∧
      L'.rows = L.rows ++ (if e.isFinancial then [ledgerRow rt L.balance e] else []) ∧
      (e.spends = true → e.amount rt ≤ L.balance) := by
  rw [stepLedger] at h
  split at h
  · rename_i hf
    rw [pure_ok] at h
    subst h
    have hspends : ¬ e.spends = true := by simp [WorksEvent.spends, hf]
    refine ⟨?_, ?_, fun hs => absurd hs hspends⟩
    · rw [paysIn_of_not_financial hf, paysOut_of_not_financial hf, sub_zero, add_zero]
    · rw [if_neg hf, List.append_nil]
  · rename_i hf
    have hf : e.isFinancial = true := not_not.1 hf
    simp only [ite_error_ok, ↓throw_bind, bind_eq_ok, pure_ok, Prod.exists] at h
    obtain ⟨-, delta, reference, hdelta, rfl⟩ := h
    obtain ⟨rfl, rfl, hcovered⟩ := ledgerDelta_ok hf hdelta
    exact ⟨rfl, by rw [if_pos hf]; rfl, hcovered⟩

theorem foldlM_ledger {L L' : LedgerState} (h : ws.foldlM (stepLedger rt) L = .ok L') :
    L'.rows = L.rows ++ rowsFrom rt L.balance ws ∧ Covered rt L.balance ws := by
  induction ws generalizing L with
  | nil =>
    cases h
    exact ⟨(List.append_nil _).symm, trivial⟩
  | cons e ws ih =>
    rw [List.foldlM_cons, bind_eq_ok] at h
    obtain ⟨L₁, hstep, h⟩ := h
    obtain ⟨hbalance, hrows, hcovered⟩ := stepLedger_ok hstep
    obtain ⟨ihrows, ihcovered⟩ := ih h
    rw [hbalance] at ihrows ihcovered
    refine ⟨?_, hcovered, ihcovered⟩
    rw [ihrows, hrows, rowsFrom]
    by_cases hf : e.isFinancial = true
    · rw [if_pos hf, if_pos hf, List.append_assoc, List.singleton_append]
    · rw [if_neg hf, if_neg hf, List.append_nil, paysIn_of_not_financial hf, paysOut_of_not_financial hf, sub_zero,
        add_zero]

theorem financialLedger_ok {rows : List LedgerRow} (h : financialLedger rt ws = .ok rows) :
    rows = rowsFrom rt 0 ws ∧ Covered rt 0 ws := by
  obtain ⟨L, hL, rfl⟩ := map_eq_ok.1 h
  obtain ⟨hrows, hcovered⟩ := foldlM_ledger hL
  exact ⟨hrows, hcovered⟩

/-! ## Balances -/

/-- What the events of a prefix pay in, less what they pay out. -/
def fund (rt : WorksRuntime) (ws : List WorksEvent) : Rat :=
  (ws.map (WorksEvent.paysIn rt)).sum - (ws.map (WorksEvent.paysOut rt)).sum

theorem fund_cons : fund rt (e :: ws) = e.paysIn rt - e.paysOut rt + fund rt ws := by
  simp only [fund, List.map_cons, List.sum_cons]
  ring

/-- An event leaves the fund with a balance, unless it is a refund that the fund does not cover. -/
theorem balance_nonneg (hb : 0 ≤ balance) (hp : WellPaid rt e)
    (hs : e.spends = true → e.amount rt ≤ balance) (hr : e.refunds = true → e.amount rt ≤ balance) :
    0 ≤ balance + (e.paysIn rt - e.paysOut rt) := by
  have hin : 0 ≤ e.paysIn rt := by
    rw [WorksEvent.paysIn]
    split
    · exact hp.net ‹_›
    · exact le_refl 0
  have hout : e.paysOut rt ≤ balance := by
    rw [WorksEvent.paysOut]
    split
    · rename_i hpays
      exact hpays.elim hs hr
    · exact hb
  linarith

theorem rowsFrom_nonneg (hb : 0 ≤ balance) (hp : ∀ e ∈ ws, WellPaid rt e)
    (hc : Covered rt balance ws) :
    (∀ row ∈ rowsFrom rt balance ws, 0 ≤ row.balance) ↔
      ∀ pre e post, ws = pre ++ e :: post → e.refunds = true → e.amount rt ≤ balance + fund rt pre := by
  induction ws generalizing balance with
  | nil => simp [rowsFrom]
  | cons w ws ih =>
    have hpw : WellPaid rt w := hp w List.mem_cons_self
    have hrefunds : w.refunds = true → (0 ≤ balance + (w.paysIn rt - w.paysOut rt) ↔ w.amount rt ≤ balance) := by
      intro hr
      have hstate : w.toState = .valid "REFUNDED" := by
        rw [WorksEvent.refunds, Bool.and_eq_true, decide_eq_true_eq] at hr
        exact hr.2
      have hin : w.paysIn rt = 0 := by simp [WorksEvent.paysIn, WorksEvent.receives, hstate]
      have hout : w.paysOut rt = w.amount rt := by rw [WorksEvent.paysOut, if_pos (.inr hr)]
      rw [hin, hout]
      constructor <;> intro h <;> linarith
    have hsplit : (∀ pre e post, w :: ws = pre ++ e :: post → e.refunds = true → e.amount rt ≤ balance + fund rt pre) ↔
        (w.refunds = true → w.amount rt ≤ balance) ∧ ∀ pre e post, ws = pre ++ e :: post → e.refunds = true →
          e.amount rt ≤ balance + (w.paysIn rt - w.paysOut rt) + fund rt pre := by
      constructor
      · intro h
        refine ⟨fun hr => ?_, fun pre e post hws hr => ?_⟩
        · simpa [fund] using h [] w ws rfl hr
        · have := h (w :: pre) e post (by rw [hws]; rfl) hr
          rw [fund_cons] at this
          linarith
      · rintro ⟨hw, h⟩ pre e post hws hr
        cases pre with
        | nil =>
          obtain ⟨rfl, rfl⟩ := List.cons.inj hws
          simpa [fund] using hw hr
        | cons w' pre =>
          obtain ⟨rfl, rfl⟩ := List.cons.inj hws
          have := h pre e post rfl hr
          rw [fund_cons]
          linarith
    have htail (hb' : 0 ≤ balance + (w.paysIn rt - w.paysOut rt)) :=
      ih hb' (fun e he => hp e (List.mem_cons_of_mem _ he)) hc.2
    rw [hsplit, rowsFrom]
    by_cases hf : w.isFinancial = true
    · rw [if_pos hf, List.forall_mem_cons]
      change 0 ≤ balance + (w.paysIn rt - w.paysOut rt) ∧ _ ↔ _
      constructor
      · rintro ⟨hrow, hrows⟩
        exact ⟨fun hr => (hrefunds hr).1 hrow, (htail hrow).1 hrows⟩
      · rintro ⟨hw, h⟩
        have hrow := balance_nonneg hb hpw hc.1 hw
        exact ⟨hrow, (htail hrow).2 h⟩
    · have hsame : balance + (w.paysIn rt - w.paysOut rt) = balance := by
        rw [paysIn_of_not_financial hf, paysOut_of_not_financial hf, sub_zero, add_zero]
      have hr : ¬ w.refunds = true := by simp [WorksEvent.refunds, hf]
      rw [hsame] at htail ⊢
      rw [if_neg hf, htail hb]
      exact ⟨fun h => ⟨fun h' => absurd h' hr, h⟩, fun h => h.2⟩

/-! ## Payments of one subject -/

theorem filter_length_le_one_iff {α : Type} {p : α → Bool} {l : List α} :
    (l.filter p).length ≤ 1 ↔ ∀ pre a post, l = pre ++ a :: post → p a = true → ∀ b ∈ pre, ¬ p b = true := by
  constructor
  · rintro h pre a post rfl ha b hb hp
    have hpre : 0 < (pre.filter p).length := List.length_pos_of_mem (List.mem_filter.2 ⟨hb, hp⟩)
    rw [List.filter_append, List.filter_cons_of_pos ha, List.length_append, List.length_cons] at h
    omega
  · intro h
    induction l with
    | nil => exact Nat.zero_le 1
    | cons a l ih =>
      by_cases ha : p a = true
      · have hrest : l.filter p = [] := List.filter_eq_nil_iff.2 fun b hb hp => by
          obtain ⟨pre, post, rfl⟩ := List.append_of_mem hb
          exact h (a :: pre) b post rfl hp a List.mem_cons_self ha
        rw [List.filter_cons_of_pos ha, hrest]
        exact le_refl 1
      · rw [List.filter_cons_of_neg ha]
        refine ih fun pre b post hl hb c hc => ?_
        exact h (a :: pre) b post (by rw [hl]; rfl) hb c (List.mem_cons_of_mem a hc)

/-- The event pays for the subject. -/
def WorksEvent.receivesFor (subjectId : Text) (e : WorksEvent) : Bool := e.receives && e.subjectId = subjectId

/-- The row pays for the subject. -/
def LedgerRow.receivesFor (subjectId : Text) (row : LedgerRow) : Bool :=
  row.state = .valid "RECEIVED" && row.subjectId = subjectId

theorem rowsFrom_receivesFor {subjectId : Text} :
    ((rowsFrom rt balance ws).filter (LedgerRow.receivesFor subjectId)).length =
      (ws.filter (WorksEvent.receivesFor subjectId)).length := by
  induction ws generalizing balance with
  | nil => rfl
  | cons e ws ih =>
    rw [rowsFrom]
    by_cases hf : e.isFinancial = true
    · have hsame : (ledgerRow rt balance e).receivesFor subjectId = e.receivesFor subjectId := by
        rw [WorksEvent.receivesFor, WorksEvent.receives, hf, Bool.true_and]
        rfl
      rw [if_pos hf, List.filter_cons, List.filter_cons, hsame]
      split
      · rw [List.length_cons, List.length_cons, ih]
      · exact ih
    · have hnot : ¬ e.receivesFor subjectId = true := by
        simp [WorksEvent.receivesFor, WorksEvent.receives, hf]
      rw [if_neg hf, List.filter_cons_of_neg hnot, ih]

theorem Accepted.split (h : Accepted rt ws s) (hws : ws = pre ++ e :: post) :
    ∃ s₀ s₁, Accepted rt pre s₀ ∧ Accepts rt s₀ e s₁ := by
  induction h generalizing post with
  | nil => exact absurd hws (by simp)
  | @snoc ws s s' event h _ ha ih =>
    rcases List.eq_nil_or_concat post with rfl | ⟨post, last, rfl⟩
    · obtain ⟨rfl, hlast⟩ := List.append_inj' hws rfl
      exact ⟨s, s', h, (List.cons.inj hlast).1 ▸ ha⟩
    · rw [List.concat_eq_append, ← List.cons_append, ← List.append_assoc] at hws
      exact ih (List.append_inj' hws rfl).1

theorem states_financial : statesOf (.valid "financial") =
    some ⟨"financial", ["EARNED", "SPENT"], [("EARNED", ["RECEIVABLE"]), ("RECEIVABLE", ["RECEIVED", "DISPUTED"]),
      ("RECEIVED", ["REFUNDED", "DISPUTED", "SPENT"]), ("REFUNDED", []), ("DISPUTED", ["RECEIVED", "REFUNDED"]),
      ("SPENT", [])]⟩ := by
  simp [statesOf, loadStates]

def paidStates : List Text := [.valid "RECEIVED", .valid "REFUNDED", .valid "DISPUTED", .valid "SPENT"]

/-- A subject that was paid stays so, and only a dispute leads to another payment. -/
theorem Accepts.paid (h : Accepts rt s e s') (hf : e.isFinancial = true) {state : Text}
    (hfrom : s.states e.subjectKey = some state) (hpaid : state ∈ paidStates) :
    e.toState ∈ paidStates ∧ (e.receives = true → state = .valid "DISPUTED") := by
  have htype : e.subjectType = .valid "financial" := by simpa [WorksEvent.isFinancial] using hf
  obtain ⟨states, hstates, t, ht, rfl, n, hn, hto⟩ := h.leads state (h.supplied ▸ hfrom)
  rw [htype, states_financial, Option.some.injEq] at hstates
  subst hstates
  rw [WorksEvent.receives, hf, hto]
  simp only [paidStates, List.mem_cons, Text.valid.injEq, List.not_mem_nil, or_false] at ht hpaid
  rcases ht with rfl | rfl | rfl | rfl | rfl | rfl
  · simp at hpaid
  · simp at hpaid
  · simp only [List.mem_cons, List.not_mem_nil, or_false] at hn
    rcases hn with rfl | rfl | rfl <;> decide
  · cases hn
  · simp only [List.mem_cons, List.not_mem_nil, or_false] at hn
    rcases hn with rfl | rfl <;> decide
  · cases hn

theorem Accepted.paid (h : Accepted rt ws s) :
    ∀ e ∈ ws, e.receives = true → ∃ state ∈ paidStates, s.states e.subjectKey = some state := by
  induction h with
  | nil => exact fun _ he => absurd he List.not_mem_nil
  | @snoc ws s s' event _ _ ha ih =>
    generalize WorksEvent.of event = w at ha
    intro e he hr
    rw [ha.states, Function.update_apply]
    have hstate (hw : w.receives = true) : w.toState = .valid "RECEIVED" := by
      rw [WorksEvent.receives, Bool.and_eq_true, decide_eq_true_eq] at hw
      exact hw.2
    split
    · rename_i hkey
      refine ⟨w.toState, ?_, rfl⟩
      rcases List.mem_append.1 he with he | he
      · obtain ⟨state, hpaid, hs⟩ := ih e he hr
        have hf : w.isFinancial = true := by
          have hfin : e.isFinancial = true := by
            rw [WorksEvent.receives, Bool.and_eq_true] at hr
            exact hr.1
          rw [WorksEvent.subjectKey, WorksEvent.subjectKey, Prod.mk.injEq] at hkey
          rwa [WorksEvent.isFinancial, ← hkey.1]
        exact (ha.paid hf (hkey ▸ hs) hpaid).1
      · rw [List.mem_singleton.1 he] at hr
        rw [hstate hr]
        exact List.mem_cons_self
    · rename_i hkey
      rcases List.mem_append.1 he with he | he
      · exact ih e he hr
      · exact absurd (List.mem_singleton.1 he ▸ rfl) hkey

theorem Accepted.paid_again (h : Accepted rt ws s) (hws : ws = pre ++ e :: post)
    (he : e.receives = true) {e' : WorksEvent} (he' : e' ∈ pre) (hr : e'.receives = true)
    (hid : e'.subjectId = e.subjectId) : e.fromState = some (.valid "DISPUTED") := by
  obtain ⟨s₀, s₁, hpre, ha⟩ := h.split hws
  obtain ⟨state, hpaid, hs⟩ := hpre.paid e' he' hr
  have hkey : e'.subjectKey = e.subjectKey := by
    rw [WorksEvent.receives, Bool.and_eq_true, WorksEvent.isFinancial, decide_eq_true_eq] at he hr
    rw [WorksEvent.subjectKey, WorksEvent.subjectKey, hid, he.1, hr.1]
  have hf : e.isFinancial = true := by
    rw [WorksEvent.receives, Bool.and_eq_true] at he
    exact he.1
  rw [← ha.supplied, ← hkey, hs, (ha.paid hf (hkey ▸ hs) hpaid).2 he]

/-! ## Refunds -/

def WorksEvent.refundsOf (eventId : Text) (e : WorksEvent) : Bool := e.refunds && e.reverses = some eventId

def refunded (rt : WorksRuntime) (ws : List WorksEvent) (eventId : Text) : Rat :=
  ((ws.filter (WorksEvent.refundsOf eventId)).map (WorksEvent.amount rt)).sum

def refundedRows (rows : List LedgerRow) (eventId : Text) : Rat :=
  ((rows.filter fun row => row.reference = some eventId).map fun row => -row.delta).sum

theorem paysIn_of_refunds (h : e.refunds = true) : e.paysIn rt = 0 := by
  rw [WorksEvent.refunds, Bool.and_eq_true, decide_eq_true_eq] at h
  simp [WorksEvent.paysIn, WorksEvent.receives, h.2]

theorem rowsFrom_refunded :
    refundedRows (rowsFrom rt balance ws) eventId = refunded rt ws eventId := by
  induction ws generalizing balance with
  | nil => rfl
  | cons e ws ih =>
    rw [rowsFrom]
    by_cases hf : e.isFinancial = true
    · have hsame : (ledgerRow rt balance e).reference = some eventId ↔ e.refundsOf eventId = true := by
        rw [WorksEvent.refundsOf, ledgerRow]
        by_cases hr : e.refunds = true <;> simp [hr]
      rw [if_pos hf, refundedRows, refunded]
      by_cases hr : e.refundsOf eventId = true
      · have hrefunds : e.refunds = true := by
          rw [WorksEvent.refundsOf, Bool.and_eq_true] at hr
          exact hr.1
        have hdelta : -(ledgerRow rt balance e).delta = e.amount rt := by
          change -(e.paysIn rt - e.paysOut rt) = _
          rw [paysIn_of_refunds hrefunds, WorksEvent.paysOut, if_pos (.inr hrefunds)]
          ring
        rw [List.filter_cons_of_pos (by simpa using hsame.2 hr), List.filter_cons_of_pos hr, List.map_cons,
          List.map_cons, List.sum_cons, List.sum_cons, hdelta]
        exact congrArg _ ih
      · rw [List.filter_cons_of_neg (by simpa using fun h => hr (hsame.1 h)), List.filter_cons_of_neg hr]
        exact ih
    · have hnot : ¬ e.refundsOf eventId = true := by
        simp [WorksEvent.refundsOf, WorksEvent.refunds, hf]
      rw [if_neg hf, refunded, List.filter_cons_of_neg hnot]
      exact ih

theorem mem_rowsFrom {row : LedgerRow} (h : row ∈ rowsFrom rt balance ws) :
    ∃ e ∈ ws, ∃ balance', e.isFinancial = true ∧ row = ledgerRow rt balance' e := by
  induction ws generalizing balance with
  | nil => exact absurd h List.not_mem_nil
  | cons e ws ih =>
    rw [rowsFrom] at h
    split at h
    · rename_i hf
      rcases List.mem_cons.1 h with rfl | h
      · exact ⟨e, List.mem_cons_self, balance, hf, rfl⟩
      · obtain ⟨e', he', hrow⟩ := ih h
        exact ⟨e', List.mem_cons_of_mem _ he', hrow⟩
    · obtain ⟨e', he', hrow⟩ := ih h
      exact ⟨e', List.mem_cons_of_mem _ he', hrow⟩

theorem row_mem (he : e ∈ ws) (hf : e.isFinancial = true) :
    ∃ balance', ledgerRow rt balance' e ∈ rowsFrom rt balance ws := by
  induction ws generalizing balance with
  | nil => exact absurd he List.not_mem_nil
  | cons w ws ih =>
    rw [rowsFrom]
    rcases List.mem_cons.1 he with rfl | he
    · exact ⟨balance, by rw [if_pos hf]; exact List.mem_cons_self⟩
    · split
      · obtain ⟨balance', h⟩ := ih he
        exact ⟨balance', List.mem_cons_of_mem _ h⟩
      · exact ih he

theorem refunded_append :
    refunded rt (pre ++ post) eventId = refunded rt pre eventId + refunded rt post eventId := by
  simp only [refunded, List.filter_append, List.map_append, List.sum_append]

theorem refunded_nonneg (hp : ∀ e ∈ ws, WellPaid rt e) : 0 ≤ refunded rt ws eventId := by
  refine List.sum_nonneg fun amount hamount => ?_
  obtain ⟨e, he, rfl⟩ := List.mem_map.1 hamount
  obtain ⟨he, hr⟩ := List.mem_filter.1 he
  rw [WorksEvent.refundsOf, Bool.and_eq_true] at hr
  exact ((hp e he).amount (.inr hr.1)).le

theorem refunded_cons (h : e.refundsOf eventId = true) :
    refunded rt (e :: ws) eventId = e.amount rt + refunded rt ws eventId := by
  rw [refunded, List.filter_cons_of_pos h, List.map_cons, List.sum_cons]
  rfl

/-- The refunds of a payment stay below a bound just when each of them stays below what the
ones before it left. -/
theorem refunded_le_iff {bound : Rat} (hb : 0 ≤ bound) (hp : ∀ e ∈ ws, WellPaid rt e) :
    refunded rt ws eventId ≤ bound ↔ ∀ pre e post, ws = pre ++ e :: post → e.refundsOf eventId = true →
      e.amount rt ≤ bound - refunded rt pre eventId := by
  constructor
  · rintro h pre e post rfl hr
    have hpost : 0 ≤ refunded rt post eventId :=
      refunded_nonneg fun w hw => hp w (List.mem_append_right _ (List.mem_cons_of_mem _ hw))
    rw [refunded_append, refunded_cons hr] at h
    linarith
  · intro h
    -- the last refund of the payment decides
    induction ws using List.reverseRecOn with
    | nil => exact hb
    | append_singleton ws e ih =>
      by_cases hr : e.refundsOf eventId = true
      · have hlast := h ws e [] rfl hr
        rw [refunded_append, refunded_cons hr]
        have hnil : refunded rt [] eventId = 0 := rfl
        linarith
      · have hsame : refunded rt (ws ++ [e]) eventId = refunded rt ws eventId := by
          rw [refunded_append, refunded, refunded, List.filter_cons_of_neg hr]
          exact add_zero _
        rw [hsame]
        refine ih (fun w hw => hp w (List.mem_append_left _ hw)) fun pre w post hws hw => ?_
        exact h pre w (post ++ [e]) (by rw [hws]; simp) hw

/-! ## The fund -/

/-- What the ledger promises: no balance is negative, a subject is paid at most once, and no
payment is refunded beyond its net. -/
structure FundSound (rows : List LedgerRow) : Prop where
  balance : ∀ row ∈ rows, 0 ≤ row.balance
  once : ∀ subjectId, (rows.filter (LedgerRow.receivesFor subjectId)).length ≤ 1
  refunds : ∀ row ∈ rows, row.state = .valid "RECEIVED" → refundedRows rows row.eventId ≤ row.delta

/-- What the code does not check: the fund covers every refund, a dispute does not lead back
to a payment, and a refund stays within what earlier ones left of the payment. -/
structure FundKept (rt : WorksRuntime) (ws : List WorksEvent) : Prop where
  covered : ∀ pre e post, ws = pre ++ e :: post → e.refunds = true → e.amount rt ≤ fund rt pre
  disputes : ∀ pre e post, ws = pre ++ e :: post → e.receives = true → e.fromState = some (.valid "DISPUTED") →
    ∀ e' ∈ pre, e'.receives = true → e'.subjectId ≠ e.subjectId
  left : ∀ r ∈ ws, r.receives = true → ∀ pre e post, ws = pre ++ e :: post → e.refundsOf r.eventId = true →
    e.amount rt ≤ r.net rt - refunded rt pre r.eventId

theorem Accepted.once_iff (h : Accepted rt ws s) :
    (∀ subjectId, ((rowsFrom rt balance ws).filter (LedgerRow.receivesFor subjectId)).length ≤ 1) ↔
      ∀ pre e post, ws = pre ++ e :: post → e.receives = true → e.fromState = some (.valid "DISPUTED") →
        ∀ e' ∈ pre, e'.receives = true → e'.subjectId ≠ e.subjectId := by
  simp only [rowsFrom_receivesFor, filter_length_le_one_iff]
  constructor
  · intro hone pre e post hws he _ e' he' hr hid
    exact hone e.subjectId pre e post hws (by simp [WorksEvent.receivesFor, he]) e' he'
      (by simp [WorksEvent.receivesFor, hr, hid])
  · intro hdisputes subjectId pre e post hws he e' he' hr
    simp only [WorksEvent.receivesFor, Bool.and_eq_true, decide_eq_true_eq] at he hr
    have hid : e'.subjectId = e.subjectId := hr.2.trans he.2.symm
    exact hdisputes pre e post hws he.1 (h.paid_again hws he.1 he' hr.1 hid) e' he' hr.1 hid

theorem Accepted.refunds_iff (h : Accepted rt ws s) :
    (∀ row ∈ rowsFrom rt balance ws, row.state = .valid "RECEIVED" →
      refundedRows (rowsFrom rt balance ws) row.eventId ≤ row.delta) ↔
      ∀ r ∈ ws, r.receives = true → ∀ pre e post, ws = pre ++ e :: post → e.refundsOf r.eventId = true →
        e.amount rt ≤ r.net rt - refunded rt pre r.eventId := by
  have hdelta {balance' : Rat} {r : WorksEvent} (hr : r.receives = true) :
      (ledgerRow rt balance' r).delta = r.net rt := by
    have hstate : r.toState = .valid "RECEIVED" := by
      rw [WorksEvent.receives, Bool.and_eq_true, decide_eq_true_eq] at hr
      exact hr.2
    change r.paysIn rt - r.paysOut rt = _
    simp [WorksEvent.paysIn, WorksEvent.paysOut, hr, WorksEvent.spends, WorksEvent.refunds, hstate]
  have hleft {r : WorksEvent} (hmem : r ∈ ws) (hr : r.receives = true) : refunded rt ws r.eventId ≤ r.net rt ↔
      ∀ pre e post, ws = pre ++ e :: post → e.refundsOf r.eventId = true →
        e.amount rt ≤ r.net rt - refunded rt pre r.eventId :=
    refunded_le_iff ((h.wellPaid r hmem).net hr) h.wellPaid
  simp only [rowsFrom_refunded]
  constructor
  · intro hrows r hmem hr
    have hf : r.isFinancial = true ∧ r.toState = .valid "RECEIVED" := by
      simpa [WorksEvent.receives] using hr
    obtain ⟨balance', hrow⟩ : ∃ balance', ledgerRow rt balance' r ∈ rowsFrom rt balance ws := row_mem hmem hf.1
    exact (hleft hmem hr).1 (hdelta hr ▸ hrows _ hrow hf.2)
  · intro hevents row hrow hstate
    obtain ⟨r, hmem, balance', hf, rfl⟩ := mem_rowsFrom hrow
    have hr : r.receives = true := by
      change r.toState = _ at hstate
      simp [WorksEvent.receives, hf, hstate]
    rw [hdelta hr]
    exact (hleft hmem hr).2 (hevents r hmem hr)

theorem fund_balance (rt : WorksRuntime) (events : List PyDict) (rows : List LedgerRow)
    (h : validateHistory rt events = .ok []) (hl : financialLedger rt (events.map .of) = .ok rows) :
    FundSound rows ↔ FundKept rt (events.map .of) := by
  obtain ⟨⟨errors, s⟩, hrun, rfl⟩ := map_eq_ok.1 h
  have hws := accepted_of_valid hrun
  obtain ⟨rfl, hcovered⟩ := financialLedger_ok hl
  have hbalance := rowsFrom_nonneg (le_refl 0) hws.wellPaid hcovered
  simp only [zero_add] at hbalance
  constructor
  · intro hsound
    exact ⟨hbalance.1 hsound.balance, hws.once_iff.1 hsound.once, hws.refunds_iff.1 hsound.refunds⟩
  · intro hkept
    exact ⟨hbalance.2 hkept.covered, hws.once_iff.2 hkept.disputes, hws.refunds_iff.2 hkept.left⟩

/-! ## A payment that was disputed -/

def saleEvent (eventId : String) (fromState : PyValue) (toState : String) (amounts : PyDict) : PyDict :=
  [(key "schema_version", key "event-v1"), (key "event_id", key eventId), (key "event_type", key "sale"),
    (key "subject_type", key "financial"), (key "subject_id", key "s"), (key "actor", key "vera"),
    (key "recorded_at", key "2026-01-01T00:00:00Z"), (key "correlation_id", key "c"),
    (key "causation_id", .none), (key "idempotency_key", key eventId), (key "from_state", fromState),
    (key "to_state", key toState), (key "payload", .dict ((key "currency", key "USD") :: amounts)),
    (key "external_effect", .bool false)]

/-- The customer pays 100. -/
def paidAmounts : PyDict :=
  [(key "gross", key "100"), (key "fees", key "0"), (key "tax_reserve", key "0"), (key "net", key "100")]

def disputedSale : List PyDict :=
  [saleEvent "e1" .none "EARNED" [(key "gross", key "100")],
    saleEvent "e2" (key "EARNED") "RECEIVABLE" [(key "gross", key "100")],
    saleEvent "e3" (key "RECEIVABLE") "RECEIVED" paidAmounts,
    saleEvent "e4" (key "RECEIVED") "DISPUTED" [],
    saleEvent "e5" (key "DISPUTED") "RECEIVED" paidAmounts]

theorem disputedSale_valid : validateHistory sampleWorks disputedSale = .ok [] := by
  decide +kernel

def disputedRows : List LedgerRow :=
  let row (eventId state : String) (delta balance : Rat) : LedgerRow :=
    ⟨.valid eventId, .valid "s", .valid state, some (.valid "USD"), delta, balance, none⟩
  [row "e1" "EARNED" 0 0, row "e2" "RECEIVABLE" 0 0, row "e3" "RECEIVED" 100 100, row "e4" "DISPUTED" 0 100,
    row "e5" "RECEIVED" 100 200]

theorem disputedSale_ledger : financialLedger sampleWorks (disputedSale.map .of) = .ok disputedRows := by
  decide +kernel

/-- The sale until it is paid. -/
def paidSale : List PyDict := disputedSale.take 3

theorem paidSale_facts : validateHistory sampleWorks paidSale = .ok [] ∧
    financialLedger sampleWorks (paidSale.map .of) = .ok (disputedRows.take 3) ∧
    (∀ e ∈ paidSale.map WorksEvent.of, e.refunds = false) ∧
    (∀ e ∈ paidSale.map WorksEvent.of, e.fromState ≠ some (.valid "DISPUTED")) ∧
    ∀ r ∈ paidSale.map WorksEvent.of, ∀ e ∈ paidSale.map WorksEvent.of,
      e.refundsOf r.eventId = false := by
  decide +kernel

theorem paidSale_kept : FundKept sampleWorks (paidSale.map .of) := by
  obtain ⟨-, -, hrefunds, hstates, hof⟩ := paidSale_facts
  have hmem {pre post : List WorksEvent} {e : WorksEvent}
      (hws : paidSale.map WorksEvent.of = pre ++ e :: post) : e ∈ paidSale.map WorksEvent.of :=
    hws ▸ List.mem_append_right _ List.mem_cons_self
  refine ⟨fun pre e post hws he => ?_, fun pre e post hws _ he => ?_, fun r hr _ pre e post hws he => ?_⟩
  · exact absurd (he.symm.trans (hrefunds e (hmem hws))) (by decide)
  · exact absurd he (hstates e (hmem hws))
  · exact absurd (he.symm.trans (hof r hr e (hmem hws))) (by decide)

/-- The fund is sound until the sale is paid; afterwards it is if what the code does not check
holds. -/
theorem fund_balance_disputed : FundSound (disputedRows.take 3) ∧
    (FundSound disputedRows ↔ FundKept sampleWorks (disputedSale.map .of)) :=
  ⟨(fund_balance sampleWorks paidSale _ paidSale_facts.1 paidSale_facts.2.1).2 paidSale_kept,
    fund_balance sampleWorks disputedSale disputedRows disputedSale_valid disputedSale_ledger⟩

/-- The payment is counted twice. -/
theorem disputed_payment_counted_twice :
    ¬ ∀ rt events rows, validateHistory rt events = .ok [] →
      financialLedger rt (events.map .of) = .ok rows → FundSound rows := by
  intro h
  have honce := (h sampleWorks disputedSale disputedRows disputedSale_valid disputedSale_ledger).once (.valid "s")
  have htwo : (disputedRows.filter (LedgerRow.receivesFor (.valid "s"))).length = 2 := rfl
  omega

end VeraWorks

end VeraMono
