import Mathlib.Tactic.Common
import VeraMono.Framework.Checks
import VeraMono.Model.VeraWorks

/-!
# The holds and leases of Vera Works

`validate_history`, `current_state`, `open_holds` and `active_lease` fold the same events. What one
accepted event does (`Accepts`) gives what they agree on after every accepted history (`Tracks`):
the leases always, the states of the holds up to the closing events that name another subject's
hold. `Accepts.hold` is the step for holds and `Accepted.leases` the run for leases;
`crossed_holds_disagree` is a history in which the readers differ.
-/

namespace VeraMono

open Framework

namespace VeraWorks

variable {rt : WorksRuntime} {s s' : HistoryState} {e : WorksEvent} {ws : List WorksEvent}

theorem demand_eq_nil {holds : Bool} {message : String} : demand holds message = [] ↔ holds = true := by
  cases holds <;> simp [demand]

/-! ## One event -/

/-- The leases after an event that the validator accepted. -/
def leasesAfter (rt : WorksRuntime) (s : HistoryState) (e : WorksEvent) : Text → Option Lease :=
  if e.isAssignment then
    Function.update s.leases e.subjectId (if e.ends then none else (nextLease rt (s.leases e.subjectId) e).2)
  else s.leases

/-- What an event that leaves no error has, and what it does. -/
structure Accepts (rt : WorksRuntime) (s : HistoryState) (e : WorksEvent) (s' : HistoryState) : Prop where
  fresh : e.eventId ∉ s.seenEventIds
  ids : s'.seenEventIds = s.seenEventIds ++ [e.eventId]
  supplied : s.states e.subjectKey = e.fromState
  initial : e.fromState = none →
    ∃ states, statesOf e.subjectType = some states ∧ ∃ i ∈ states.initialStates, e.toState = .valid i
  leads : ∀ state, e.fromState = some state →
    ∃ states, statesOf e.subjectType = some states ∧ states.Leads state e.toState
  states : s'.states = Function.update s.states e.subjectKey (some e.toState)
  leaseErrors : e.isAssignment → (nextLease rt (s.leases e.subjectId) e).1 = []
  leases : s'.leases = leasesAfter rt s e
  holds : stepHolds rt s e = .ok ([], s'.openHoldEvents)

theorem stepLeases_eq : stepLeases rt s e =
    (if e.isAssignment then (nextLease rt (s.leases e.subjectId) e).1 else [], leasesAfter rt s e) := by
  rw [stepLeases, leasesAfter]
  split <;> rfl

theorem checkTransition_ok (h : checkTransition rt s e = []) :
    s.states e.subjectKey = e.fromState ∧
      (e.fromState = none →
        ∃ states, statesOf e.subjectType = some states ∧ ∃ i ∈ states.initialStates, e.toState = .valid i) ∧
      ∀ state, e.fromState = some state →
        ∃ states, statesOf e.subjectType = some states ∧ states.Leads state e.toState := by
  simp only [checkTransition] at h
  split at h
  · cases h
  · rename_i hsame
    have hsupplied : s.states e.subjectKey = e.fromState := not_not.1 hsame
    rw [hsupplied] at h
    refine ⟨hsupplied, fun hnone => ?_, fun state hsome => ?_⟩
    · simpa [hnone, demand_eq_nil, Option.any_eq_true] using h
    · simpa [hsome, demand_eq_nil, Option.any_eq_true] using h

theorem stepEvent_ok (h : stepEvent rt s e = .ok ([], s')) : Accepts rt s e s' := by
  rw [stepEvent, stepLeases_eq] at h
  simp only [bind_eq_ok, pure_ok, Prod.mk.injEq, Prod.exists] at h
  obtain ⟨errors, openHoldEvents, hholds, herrors, rfl⟩ := h
  simp only [List.nil_eq, List.append_eq_nil_iff] at herrors
  obtain ⟨⟨⟨hkeys, htransition⟩, hlease⟩, rfl⟩ := herrors
  simp only [checkKeys, List.append_eq_nil_iff, demand_eq_nil, decide_eq_true_eq] at hkeys
  obtain ⟨hsupplied, hinitial, hleads⟩ := checkTransition_ok htransition
  exact
    { fresh := hkeys.1
      ids := if_neg hkeys.1
      supplied := hsupplied
      initial := hinitial
      leads := hleads
      states := rfl
      leaseErrors := fun ha => by simpa [ha] using hlease
      leases := rfl
      holds := hholds }

theorem Accepts.opens (h : Accepts rt s e s') (he : e.opens = true) :
    s'.openHoldEvents = Function.update s.openHoldEvents e.eventId (some e) ∧
      (e.payload.get "hold_kind" = .none ∨ ∃ k ∈ holdKinds, (e.payload.get "hold_kind").isString k = true) := by
  have hh := h.holds
  simp only [stepHolds, if_pos he, bind_eq_ok, pure_ok, Prod.mk.injEq] at hh
  obtain ⟨errors, herrors, rfl, hopen⟩ := hh
  rw [if_pos rfl] at hopen
  refine ⟨hopen, ?_⟩
  rw [holdErrors] at herrors
  by_cases hk : e.payload.get "hold_kind" = .none
  · exact .inl hk
  · refine .inr ?_
    cases hkind : e.payload.get "hold_kind" with
    | none => exact absurd hkind hk
    | _ =>
      simp only [hkind, bind_eq_ok, pure_ok, List.nil_eq, List.append_eq_nil_iff, demand_eq_nil] at herrors
      obtain ⟨_, -, -, hany⟩ := herrors
      simpa using hany

theorem Accepts.closes (h : Accepts rt s e s') (ho : e.opens = false) (he : e.closes = true) :
    ∃ name opening, e.resolutionOf.keyText = some name ∧ truthy e.resolutionOf = true ∧
      s.openHoldEvents name = some opening ∧ s'.openHoldEvents = Function.update s.openHoldEvents name none := by
  have hh := h.holds
  rw [stepHolds] at hh
  simp only [ho, he, Bool.false_eq_true, if_false, if_true, Bool.not_eq_true] at hh
  split at hh
  · simp [pure_ok] at hh
  · rename_i htruthy
    simp only [bind_eq_ok] at hh
    obtain ⟨_, -, hh⟩ := hh
    split at hh
    · simp [pure_ok] at hh
    · rename_i name hname
      split at hh
      · simp [pure_ok] at hh
      · rename_i opening hopening
        simp only [pure_ok, Prod.mk.injEq] at hh
        rw [← hh.1, if_pos rfl] at hh
        exact ⟨name, opening, hname, by simpa using htruthy, hopening, hh.2⟩

theorem Accepts.other (h : Accepts rt s e s') (ho : e.opens = false) (he : e.closes = false) :
    s'.openHoldEvents = s.openHoldEvents := by
  have hh := h.holds
  rw [stepHolds] at hh
  simp only [ho, he, Bool.false_eq_true, if_false, pure_ok, Prod.mk.injEq] at hh
  exact hh.2

theorem states_hold : statesOf (.valid "hold") =
    some ⟨"hold", ["OPEN"], [("OPEN", ["RESOLVED", "CANCELLED"]), ("RESOLVED", []), ("CANCELLED", [])]⟩ := by
  simp [statesOf, loadStates]

/-- What an accepted event of a hold does: it opens a hold that has no events, or closes one
that is open. -/
theorem Accepts.hold (h : Accepts rt s e s') (he : e.isHold = true) :
    (e.opens = true ∧ e.closes = false ∧ s.states e.subjectKey = none) ∨
      (e.opens = false ∧ e.closes = true ∧ s.states e.subjectKey = some (.valid "OPEN")) := by
  have htype : e.subjectType = .valid "hold" := by simpa [WorksEvent.isHold] using he
  rw [h.supplied]
  cases hfrom : e.fromState with
  | none =>
    obtain ⟨states, hstates, i, hi, hto⟩ := h.initial hfrom
    rw [htype, states_hold, Option.some.injEq] at hstates
    subst hstates
    simp only [List.mem_singleton] at hi
    subst hi
    exact .inl ⟨by simp [WorksEvent.opens, he, hto], by simp [WorksEvent.closes, he, hto], rfl⟩
  | some state =>
    obtain ⟨states, hstates, t, ht, hstate, n, hn, hto⟩ := h.leads state hfrom
    rw [htype, states_hold, Option.some.injEq] at hstates
    subst hstates
    simp only [List.mem_cons, List.not_mem_nil, or_false] at ht
    rcases ht with rfl | rfl | rfl
    · simp only [List.mem_cons, List.not_mem_nil, or_false] at hn
      rcases hn with rfl | rfl <;>
        exact .inr ⟨by simp [WorksEvent.opens, hto], by simp [WorksEvent.closes, he, hto], by rw [hstate]⟩
    · cases hn
    · cases hn

/-! ## A history -/

/-- Events that the validator accepts one after another. -/
inductive Accepted (rt : WorksRuntime) : List WorksEvent → HistoryState → Prop
  | nil : Accepted rt [] .initial
  | snoc {ws : List WorksEvent} {s s' : HistoryState} {event : PyDict} : Accepted rt ws s →
      validateEvent rt event = .ok [] → Accepts rt s (.of event) s' → Accepted rt (ws ++ [.of event]) s'

theorem stepHistory_ok {event : PyDict} {errors : List String}
    (h : stepHistory rt ([], s) event = .ok (errors, s')) :
    errors = [] → validateEvent rt event = .ok [] ∧ Accepts rt s (.of event) s' := by
  rintro rfl
  simp only [stepHistory, bind_eq_ok] at h
  obtain ⟨eventErrors, hevent, h⟩ := h
  split at h
  · rename_i hne
    simp [pure_ok] at h
    exact absurd h.1 hne
  · rename_i hnil
    rw [not_not] at hnil
    simp only [bind_eq_ok, pure_ok, Prod.exists, Prod.mk.injEq, List.nil_append] at h
    obtain ⟨errors, s'', hstep, rfl, rfl⟩ := h
    exact ⟨hnil ▸ hevent, stepEvent_ok hstep⟩

theorem stepHistory_errors {event : PyDict} {errors : List String} {r : List String × HistoryState}
    (h : stepHistory rt (errors, s) event = .ok r) : errors <+: r.1 := by
  simp only [stepHistory, bind_eq_ok] at h
  obtain ⟨eventErrors, -, h⟩ := h
  split at h
  · rw [pure_ok] at h
    exact h ▸ List.prefix_append _ _
  · simp only [bind_eq_ok, pure_ok, Prod.exists] at h
    obtain ⟨errors', s'', -, rfl⟩ := h
    exact List.prefix_append _ _

theorem foldlM_errors {events : List PyDict} {r r' : List String × HistoryState}
    (h : events.foldlM (stepHistory rt) r = .ok r') : r.1 <+: r'.1 := by
  induction events generalizing r with
  | nil =>
    cases h
    exact List.prefix_rfl
  | cons event events ih =>
    rw [List.foldlM_cons, bind_eq_ok] at h
    obtain ⟨r₁, hstep, h⟩ := h
    exact (stepHistory_errors hstep).trans (ih h)

theorem Accepted.append {events : List PyDict} (hws : Accepted rt ws s)
    (h : events.foldlM (stepHistory rt) ([], s) = .ok ([], s')) : Accepted rt (ws ++ events.map .of) s' := by
  induction events generalizing ws s with
  | nil =>
    cases h
    simpa using hws
  | cons event events ih =>
    rw [List.foldlM_cons, bind_eq_ok] at h
    obtain ⟨⟨errors, s₁⟩, hstep, h⟩ := h
    have hnil : errors = [] := List.prefix_nil.1 (foldlM_errors h)
    subst hnil
    obtain ⟨hvalid, haccepts⟩ := stepHistory_ok hstep rfl
    rw [List.map_cons, List.append_cons]
    exact ih (hws.snoc hvalid haccepts) h

theorem accepted_of_valid {events : List PyDict} (h : runHistory rt events = .ok ([], s)) :
    Accepted rt (events.map .of) s := Accepted.append .nil h

/-! ## What the folds agree on -/

theorem currentState_snoc {subjectType subjectId : Text} :
    currentState (ws ++ [e]) subjectType subjectId =
      if e.subjectKey = (subjectType, subjectId) then some e.toState
      else currentState ws subjectType subjectId := by
  rw [currentState, List.foldl_append]
  rfl

theorem activeLease_snoc {assignmentId : Text} :
    activeLease rt (ws ++ [e]) assignmentId = stepActive rt assignmentId (activeLease rt ws assignmentId) e := by
  rw [activeLease, List.foldl_append]
  rfl

theorem openHolds_snoc : openHolds (ws ++ [e]) = stepOpens (openHolds ws) e := by
  rw [openHolds, List.foldl_append]
  rfl

/-- A lease that the validator accepts is the one that the projection computes. -/
theorem nextLease_active {lease : Option Lease} (ha : e.isAssignment = true)
    (h : (nextLease rt lease e).1 = []) :
    stepActive rt e.subjectId lease e = if e.ends then none else (nextLease rt lease e).2 := by
  have hguard : ¬ (¬ e.isAssignment = true ∨ e.subjectId ≠ e.subjectId) := by simp [ha]
  rw [stepActive, if_neg hguard]
  refine congrArg (fun l => if e.ends = true then none else l) ?_
  by_cases hclaim : (e.payload.get "lease_action").isString "CLAIM" = true
  · have htransfer : (e.payload.get "lease_action").isString "TRANSFER" = false := by
      rw [PyValue.isString, decide_eq_true_eq] at hclaim
      simp [PyValue.isString, hclaim]
    unfold nextLease at h ⊢
    rw [if_pos hclaim] at h ⊢
    cases lease with
    | some lease => cases h
    | none =>
      simp only at h ⊢
      split_ifs at h ⊢ <;> simp_all
  · unfold nextLease at h ⊢
    rw [if_neg hclaim] at h ⊢
    by_cases htransfer : (e.payload.get "lease_action").isString "TRANSFER" = true
    · rw [if_pos htransfer] at h ⊢
      cases lease with
      | none => cases h
      | some lease =>
        simp only at h ⊢
        split_ifs at h ⊢ <;> simp_all
    · rw [if_neg htransfer] at h ⊢
      cases lease with
      | none => simp [hclaim]
      | some lease =>
        simp only [htransfer, false_and, Bool.false_eq_true, if_false]
        split <;> simp_all

/-- The leases that the validator keeps are those that `active_lease` computes. -/
theorem Accepted.leases (h : Accepted rt ws s) (assignmentId : Text) :
    s.leases assignmentId = activeLease rt ws assignmentId := by
  induction h with
  | nil => rfl
  | @snoc ws s s' event _ _ ha ih =>
    rw [activeLease_snoc, ha.leases, leasesAfter, ← ih]
    by_cases hassign : (WorksEvent.of event).isAssignment = true
    · rw [if_pos hassign]
      by_cases hid : assignmentId = (WorksEvent.of event).subjectId
      · subst hid
        rw [Function.update_self, nextLease_active hassign (ha.leaseErrors hassign)]
      · rw [Function.update_of_ne hid, stepActive, if_pos (.inr (Ne.symm hid))]
    · rw [if_neg hassign, stepActive, if_pos (.inl hassign)]

/-- An event names the hold event that it closes. -/
def Names (c e : WorksEvent) : Prop := c.closes = true ∧ c.resolutionOf.keyText = some e.eventId

theorem not_opens_of_closes (h : e.closes = true) : e.opens = false := by
  simp only [WorksEvent.closes, Bool.and_eq_true, Bool.or_eq_true, decide_eq_true_eq] at h
  rcases h with ⟨-, h | h⟩ <;> simp [WorksEvent.opens, h]

/-- What the validator and `open_holds` keep of an accepted history. -/
structure Holds (ws : List WorksEvent) (s : HistoryState) : Prop where
  ids : s.seenEventIds = ws.map WorksEvent.eventId
  nodup : (ws.map WorksEvent.eventId).Nodup
  states : ∀ key, s.states key = currentState ws key.1 key.2
  listed : ∀ e, e ∈ openHolds ws ↔ e ∈ ws ∧ e.opens = true ∧ ∀ c ∈ ws, ¬ Names c e
  kept : ∀ name e, s.openHoldEvents name = some e ↔ e ∈ openHolds ws ∧ e.eventId = name
  named : ∀ c ∈ ws, c.closes = true → ∃ o ∈ ws, Names c o
  kinds : ∀ e ∈ ws, e.opens = true → e.payload.get "hold_kind" = .none ∨
    ∃ k ∈ holdKinds, (e.payload.get "hold_kind").isString k = true

theorem Holds.initial : Holds [] .initial where
  ids := rfl
  nodup := List.nodup_nil
  states _ := rfl
  listed e := ⟨fun h => absurd h List.not_mem_nil, fun h => absurd h.1 List.not_mem_nil⟩
  kept _ e := ⟨fun h => (by cases h), fun h => absurd h.1 List.not_mem_nil⟩
  named c hc := absurd hc List.not_mem_nil
  kinds e he := absurd he List.not_mem_nil

theorem Holds.new (h : Holds ws s) (ha : Accepts rt s e s') {o : WorksEvent} (ho : o ∈ ws) :
    o.eventId ≠ e.eventId := fun heq =>
  ha.fresh (h.ids ▸ heq ▸ List.mem_map_of_mem ho)

theorem Holds.mem_openHolds_snoc (h : Holds ws s) (ha : Accepts rt s e s') (o : WorksEvent) :
    o ∈ openHolds (ws ++ [e]) ↔ (o ∈ openHolds ws ∧ ¬ Names e o) ∨ (o = e ∧ e.opens = true) := by
  rw [openHolds_snoc, stepOpens]
  by_cases hopens : e.opens = true
  · have hclosed : ¬ e.closes = true := fun hc => by rw [not_opens_of_closes hc] at hopens; cases hopens
    have hfresh : ¬ ∃ o ∈ openHolds ws, o.eventId = e.eventId := by
      rintro ⟨o, ho, hid⟩
      exact h.new ha ((h.listed o).1 ho).1 hid
    rw [if_pos hopens, assign, if_neg hfresh, List.mem_append, List.mem_singleton]
    simp [Names, hclosed, hopens]
  · rw [if_neg hopens]
    by_cases hcloses : e.closes = true
    · obtain ⟨name, opening, hname, htruthy, -, -⟩ := ha.closes (by simpa using hopens) hcloses
      rw [if_pos ⟨hcloses, htruthy⟩, List.mem_filter]
      simp [Names, hcloses, hopens]
    · rw [if_neg fun hc => hcloses hc.1]
      simp [Names, hcloses, hopens]

theorem Holds.snoc (h : Holds ws s) (ha : Accepts rt s e s') : Holds (ws ++ [e]) s' := by
  have hname (hc : e.closes = true) : ∃ o ∈ ws, o ∈ openHolds ws ∧ Names e o ∧
      s'.openHoldEvents = Function.update s.openHoldEvents o.eventId none := by
    obtain ⟨name, opening, hname, -, hopening, hopen⟩ := ha.closes (not_opens_of_closes hc) hc
    obtain ⟨hlisted, rfl⟩ := (h.kept name opening).1 hopening
    exact ⟨opening, ((h.listed opening).1 hlisted).1, hlisted, ⟨hc, hname⟩, hopen⟩
  constructor
  · rw [ha.ids, h.ids, List.map_append]
    rfl
  · rw [List.map_append, List.map_cons, List.map_nil, ← List.concat_eq_append]
    exact h.nodup.concat (h.ids ▸ ha.fresh)
  · intro key
    rw [ha.states, currentState_snoc, Function.update_apply, h.states key]
    by_cases hkey : key = e.subjectKey
    · rw [if_pos hkey, if_pos hkey.symm]
    · rw [if_neg hkey, if_neg (Ne.symm hkey)]
  · intro o
    rw [h.mem_openHolds_snoc ha, h.listed]
    constructor
    · rintro (⟨⟨ho, hopens, hnot⟩, hlast⟩ | ⟨rfl, hopens⟩)
      · refine ⟨List.mem_append_left _ ho, hopens, fun c hc => ?_⟩
        rcases List.mem_append.1 hc with hc | hc
        · exact hnot c hc
        · rwa [List.mem_singleton.1 hc]
      · refine ⟨by simp, hopens, fun c hc hnames => ?_⟩
        rcases List.mem_append.1 hc with hc | hc
        · obtain ⟨o', ho', -, hid⟩ := h.named c hc hnames.1
          exact h.new ha ho' (Option.some.inj (hid.symm.trans hnames.2))
        · rw [List.mem_singleton.1 hc] at hnames
          rw [not_opens_of_closes hnames.1] at hopens
          cases hopens
    · rintro ⟨ho, hopens, hnot⟩
      rcases List.mem_append.1 ho with ho | ho
      · exact .inl ⟨⟨ho, hopens, fun c hc => hnot c (List.mem_append_left _ hc)⟩, hnot e (by simp)⟩
      · rw [List.mem_singleton.1 ho] at hopens ⊢
        exact .inr ⟨rfl, hopens⟩
  · intro name o
    rw [h.mem_openHolds_snoc ha]
    by_cases hopens : e.opens = true
    · have hclosed : ¬ e.closes = true := fun hc => by rw [not_opens_of_closes hc] at hopens; cases hopens
      rw [(ha.opens hopens).1]
      by_cases hid : name = e.eventId
      · subst hid
        rw [Function.update_self, Option.some.injEq]
        constructor
        · rintro rfl
          exact ⟨.inr ⟨rfl, hopens⟩, rfl⟩
        · rintro ⟨⟨ho, -⟩ | ⟨rfl, -⟩, hoid⟩
          · exact absurd hoid (h.new ha ((h.listed o).1 ho).1)
          · rfl
      · rw [Function.update_of_ne hid, h.kept]
        constructor
        · rintro ⟨ho, rfl⟩
          exact ⟨.inl ⟨ho, fun hn => hclosed hn.1⟩, rfl⟩
        · rintro ⟨⟨ho, -⟩ | ⟨rfl, -⟩, hoid⟩
          · exact ⟨ho, hoid⟩
          · exact absurd hoid.symm hid
    · by_cases hcloses : e.closes = true
      · obtain ⟨opening, hopening, hlisted, ⟨-, hkey⟩, hopen⟩ := hname hcloses
        rw [hopen]
        by_cases hid : name = opening.eventId
        · subst hid
          rw [Function.update_self]
          refine ⟨fun hn => (by cases hn), ?_⟩
          rintro ⟨⟨ho, hnot⟩ | ⟨-, ho⟩, hoid⟩
          · exact absurd ⟨hcloses, by rw [hkey, hoid]⟩ hnot
          · exact absurd ho hopens
        · rw [Function.update_of_ne hid, h.kept]
          constructor
          · rintro ⟨ho, rfl⟩
            refine ⟨.inl ⟨ho, fun hn => hid ?_⟩, rfl⟩
            exact Option.some.inj (hn.2.symm.trans hkey)
          · rintro ⟨⟨ho, -⟩ | ⟨-, ho⟩, hoid⟩
            · exact ⟨ho, hoid⟩
            · exact absurd ho hopens
      · rw [ha.other (by simpa using hopens) (by simpa using hcloses), h.kept]
        simp [Names, hcloses, hopens]
  · intro c hc hcloses
    rcases List.mem_append.1 hc with hc | hc
    · obtain ⟨o, ho, hn⟩ := h.named c hc hcloses
      exact ⟨o, List.mem_append_left _ ho, hn⟩
    · rw [List.mem_singleton.1 hc] at hcloses ⊢
      obtain ⟨o, ho, -, hn, -⟩ := hname hcloses
      exact ⟨o, List.mem_append_left _ ho, hn⟩
  · intro o ho hopens
    rcases List.mem_append.1 ho with ho | ho
    · exact h.kinds o ho hopens
    · rw [List.mem_singleton.1 ho] at hopens ⊢
      exact (ha.opens hopens).2

theorem Accepted.holds (h : Accepted rt ws s) : Holds ws s := by
  induction h with
  | nil => exact .initial
  | snoc _ _ ha ih => exact ih.snoc ha

/-! ## The states of holds -/

abbrev holdState (ws : List WorksEvent) (subjectId : Text) : Option Text :=
  currentState ws (.valid "hold") subjectId

theorem subjectKey_hold {subjectId : Text} (h : e.subjectKey = (.valid "hold", subjectId)) :
    e.isHold = true ∧ e.subjectId = subjectId := by
  rw [WorksEvent.subjectKey, Prod.mk.injEq] at h
  exact ⟨by simp [WorksEvent.isHold, h.1], h.2⟩

theorem subjectKey_of_isHold (h : e.isHold = true) : e.subjectKey = (.valid "hold", e.subjectId) := by
  rw [WorksEvent.isHold, decide_eq_true_eq] at h
  rw [WorksEvent.subjectKey, h]

theorem isHold_of_closes (h : e.closes = true) : e.isHold = true := by
  rw [WorksEvent.closes, Bool.and_eq_true] at h
  exact h.1

theorem isHold_of_opens (h : e.opens = true) : e.isHold = true := by
  rw [WorksEvent.opens, Bool.and_eq_true] at h
  exact h.1

/-- A hold with a closing event stays closed; one that was opened is open until then. -/
structure HoldStates (ws : List WorksEvent) : Prop where
  closed : ∀ c ∈ ws, c.closes = true →
    holdState ws c.subjectId ≠ none ∧ holdState ws c.subjectId ≠ some (.valid "OPEN")
  opened : ∀ e ∈ ws, e.opens = true → holdState ws e.subjectId = some (.valid "OPEN") ∨
    ∃ c ∈ ws, c.closes = true ∧ c.subjectId = e.subjectId

theorem Accepted.holdStates (h : Accepted rt ws s) : HoldStates ws := by
  induction h with
  | nil => exact ⟨fun _ hc => absurd hc List.not_mem_nil, fun _ he => absurd he List.not_mem_nil⟩
  | @snoc ws s s' event hws _ ha ih =>
    generalize WorksEvent.of event = e at ha
    have hstate (subjectId : Text) : holdState (ws ++ [e]) subjectId =
        if e.subjectKey = (.valid "hold", subjectId) then some e.toState else holdState ws subjectId :=
      currentState_snoc
    have hbefore {subjectId : Text} (hkey : e.subjectKey = (.valid "hold", subjectId)) :
        s.states e.subjectKey = holdState ws subjectId := by rw [hws.holds.states, hkey]
    constructor
    · intro c hc hcloses
      rw [hstate]
      split
      · rename_i hkey
        refine ⟨nofun, fun hopen => ?_⟩
        rcases List.mem_append.1 hc with hc | hc
        · obtain ⟨hsome, hnot⟩ := ih.closed c hc hcloses
          rcases ha.hold (subjectKey_hold hkey).1 with ⟨-, -, hnone⟩ | ⟨-, -, hopened⟩
          · exact hsome (hbefore hkey ▸ hnone)
          · exact hnot (hbefore hkey ▸ hopened)
        · have hnot : e.opens = false := not_opens_of_closes (List.mem_singleton.1 hc ▸ hcloses)
          simp [WorksEvent.opens, (subjectKey_hold hkey).1, Option.some.inj hopen] at hnot
      · rename_i hkey
        rcases List.mem_append.1 hc with hc | hc
        · exact ih.closed c hc hcloses
        · rw [List.mem_singleton.1 hc] at hkey hcloses
          exact absurd (subjectKey_of_isHold (isHold_of_closes hcloses)) hkey
    · intro o ho hopens
      rw [hstate]
      split
      · rename_i hkey
        obtain ⟨hhold, hid⟩ := subjectKey_hold hkey
        rcases ha.hold hhold with ⟨hopen, -, hnone⟩ | ⟨-, hcloses, -⟩
        · refine .inl ?_
          rw [WorksEvent.opens, Bool.and_eq_true, decide_eq_true_eq] at hopen
          rw [hopen.2]
        · exact .inr ⟨e, by simp, hcloses, hid⟩
      · rename_i hkey
        rcases List.mem_append.1 ho with ho | ho
        · exact (ih.opened o ho hopens).imp_right fun ⟨c, hc, h⟩ => ⟨c, List.mem_append_left _ hc, h⟩
        · rw [List.mem_singleton.1 ho] at hkey hopens
          exact absurd (subjectKey_of_isHold (isHold_of_opens hopens)) hkey

theorem HoldStates.open_iff (h : HoldStates ws) (he : e ∈ ws) (hopens : e.opens = true) :
    holdState ws e.subjectId = some (.valid "OPEN") ↔ ¬ ∃ c ∈ ws, c.closes = true ∧ c.subjectId = e.subjectId := by
  constructor
  · rintro hopen ⟨c, hc, hcloses, hid⟩
    exact (h.closed c hc hcloses).2 (hid ▸ hopen)
  · exact fun hnot => (h.opened e he hopens).resolve_right hnot

/-- A listed hold is in exactly one queue, unless its kind is null. -/
theorem Holds.queued_iff (h : Holds ws s) (he : e ∈ ws) (hopens : e.opens = true) :
    (∃! queue, e ∈ decisionQueues ws queue) ↔ e ∈ openHolds ws ∧ e.payload.get "hold_kind" ≠ .none := by
  have hmem (queue : DecisionQueue) : e ∈ decisionQueues ws queue ↔
      e ∈ openHolds ws ∧ (e.payload.get "hold_kind").isString queue.kind = true := List.mem_filter
  simp only [hmem]
  constructor
  · rintro ⟨queue, ⟨hlisted, hkind⟩, -⟩
    refine ⟨hlisted, fun hnone => ?_⟩
    rw [hnone] at hkind
    cases hkind
  · rintro ⟨hlisted, hkind⟩
    obtain ⟨k, hk, hstring⟩ := (h.kinds e he hopens).resolve_left hkind
    obtain ⟨queue, rfl⟩ : ∃ queue : DecisionQueue, queue.kind = k := by
      simp only [holdKinds, List.mem_cons, List.not_mem_nil, or_false] at hk
      rcases hk with rfl | rfl | rfl | rfl
      · exact ⟨.veraDecisions, rfl⟩
      · exact ⟨.patrickActions, rfl⟩
      · exact ⟨.patrickDecisions, rfl⟩
      · exact ⟨.automationExceptions, rfl⟩
    refine ⟨queue, ⟨hlisted, hstring⟩, fun queue' h' => ?_⟩
    rw [PyValue.isString, decide_eq_true_eq] at hstring
    have hsame : queue'.kind = queue.kind := by
      have := h'.2
      rw [PyValue.isString, decide_eq_true_eq, hstring, Option.some.injEq, Text.valid.injEq] at this
      exact this.symm
    revert hsame
    cases queue' <;> cases queue <;> decide

/-! ## The agreement -/

/-- The projections agree with the validator: an OPEN event is listed, and in exactly one
queue, just when its hold is open, and every lease is the one the validator tracked. -/
structure ProjectionsAgree (rt : WorksRuntime) (events : List PyDict) : Prop where
  listed : ∀ e ∈ events.map WorksEvent.of, e.opens = true →
    (e ∈ openHolds (events.map .of) ↔ holdState (events.map .of) e.subjectId = some (.valid "OPEN"))
  queued : ∀ e ∈ events.map WorksEvent.of, e.opens = true →
    ((∃! queue, e ∈ decisionQueues (events.map .of) queue) ↔
      holdState (events.map .of) e.subjectId = some (.valid "OPEN"))
  leased : ∀ assignmentId, activeLease rt (events.map .of) assignmentId = trackedLease rt events assignmentId

/-- The closing events name the holds of the subjects they close, and no hold that is not
closed has a null kind. -/
structure ClosedByName (ws : List WorksEvent) : Prop where
  named : ∀ e ∈ ws, e.opens = true →
    ((∃ c ∈ ws, Names c e) ↔ ∃ c ∈ ws, c.closes = true ∧ c.subjectId = e.subjectId)
  kind : ∀ e ∈ ws, e.opens = true → (¬ ∃ c ∈ ws, c.closes = true ∧ c.subjectId = e.subjectId) →
    e.payload.get "hold_kind" ≠ .none

theorem hold_projections (rt : WorksRuntime) (events : List PyDict) (h : validateHistory rt events = .ok []) :
    ProjectionsAgree rt events ↔ ClosedByName (events.map .of) := by
  obtain ⟨⟨errors, s⟩, hrun, rfl⟩ := map_eq_ok.1 h
  have hws := accepted_of_valid hrun
  have hholds := hws.holds
  have hstates := hws.holdStates
  have hlisted {e : WorksEvent} (he : e ∈ events.map .of) (hopens : e.opens = true) :
      e ∈ openHolds (events.map .of) ↔ ¬ ∃ c ∈ events.map .of, Names c e := by
    rw [hholds.listed]
    simp [he, hopens]
  constructor
  · intro ha
    refine ⟨fun e he hopens => ?_, fun e he hopens hnot => ?_⟩
    · exact not_iff_not.1 (((hlisted he hopens).symm.trans (ha.listed e he hopens)).trans
        (hstates.open_iff he hopens))
    · have hopen := (hstates.open_iff he hopens).2 hnot
      exact ((hholds.queued_iff he hopens).1 ((ha.queued e he hopens).2 hopen)).2
  · intro hc
    have hiff {e : WorksEvent} (he : e ∈ events.map .of) (hopens : e.opens = true) :
        e ∈ openHolds (events.map .of) ↔ holdState (events.map .of) e.subjectId = some (.valid "OPEN") := by
      rw [hlisted he hopens, hstates.open_iff he hopens, hc.named e he hopens]
    refine ⟨fun e he hopens => hiff he hopens, fun e he hopens => ?_, fun assignmentId => ?_⟩
    · rw [hholds.queued_iff he hopens, hiff he hopens]
      exact ⟨fun hq => hq.1, fun hopen => ⟨hopen, hc.kind e he hopens ((hstates.open_iff he hopens).1 hopen)⟩⟩
    · rw [trackedLease, hrun]
      exact (hws.leases assignmentId).symm

/-! ## A closing event that names another hold -/

/-- The standard library on the texts of the histories below. -/
def sampleWorks : WorksRuntime where
  str
    | .str (.valid s) => s
    | _ => "None"
  eq a b := a.keyText = b.keyText
  fromisoformat _ := true
  decimal t :=
    if t = .valid "100" then .finite 100
    else if t = .valid "0" then .finite 0
    else .invalid
  isalpha _ := true
  upper t := t
  strip t := t

def key (field : String) : PyValue := .str (.valid field)

def holdEvent (eventId eventType subjectId causationId : String) (fromState : PyValue) (toState : String)
    (payload : PyDict) : PyDict :=
  [(key "schema_version", key "event-v1"), (key "event_id", key eventId), (key "event_type", key eventType),
    (key "subject_type", key "hold"), (key "subject_id", key subjectId), (key "actor", key "vera"),
    (key "recorded_at", key "2026-01-01T00:00:00Z"), (key "correlation_id", key "c"),
    (key "causation_id", key causationId), (key "idempotency_key", key eventId),
    (key "from_state", fromState), (key "to_state", key toState), (key "payload", .dict payload),
    (key "external_effect", .bool false)]

/-- Opens a hold that waits for a decision. -/
def openingEvent (eventId subjectId : String) : PyDict :=
  holdEvent eventId "hold.opened" subjectId "c" .none "OPEN"
    [(key "hold_kind", key "VERA_DECISION_REQUIRED"), (key "problem", key "p"),
      (key "held_subject_type", key "assignment"), (key "held_subject_id", key "a"),
      (key "held_state", key "HELD"), (key "required_from", key "vera"), (key "recommendation", key "r"),
      (key "alternatives", .list []), (key "consequences", .list []), (key "inaction_effect", key "i"),
      (key "resume_event_type", key "hold.resolved")]

/-- The first hold is resolved by an event that names the second one's OPEN event. -/
def crossedHolds : List PyDict :=
  [openingEvent "e1" "h1", openingEvent "e2" "h2",
    holdEvent "e3" "hold.resolved" "h1" "e2" (key "OPEN") "RESOLVED" [(key "resolution_of", key "e2")]]

theorem crossedHolds_valid : validateHistory sampleWorks crossedHolds = .ok [] := by
  rfl

/-- A hold is opened and resolved by an event that names its OPEN event. -/
def resolvedHold : List PyDict :=
  [openingEvent "e1" "h1",
    holdEvent "e2" "hold.resolved" "h1" "e1" (key "OPEN") "RESOLVED" [(key "resolution_of", key "e1")]]

theorem resolvedHold_valid : validateHistory sampleWorks resolvedHold = .ok [] := by
  rfl

theorem resolvedHold_closed : ClosedByName (resolvedHold.map .of) := by
  have hnames : Names (.of (resolvedHold.getD 1 [])) (.of (openingEvent "e1" "h1")) := ⟨rfl, rfl⟩
  have hcloses : ∃ c ∈ resolvedHold.map WorksEvent.of,
      c.closes = true ∧ c.subjectId = (WorksEvent.of (openingEvent "e1" "h1")).subjectId :=
    ⟨_, List.mem_cons_of_mem _ List.mem_cons_self, rfl, rfl⟩
  have hopened : ∀ e ∈ resolvedHold.map WorksEvent.of, e.opens = true →
      e = .of (openingEvent "e1" "h1") := by
    intro e he hopens
    rcases List.mem_cons.1 he with rfl | he
    · rfl
    · obtain rfl := List.mem_singleton.1 he
      exact absurd hopens (by decide)
  refine ⟨fun e he hopens => ?_, fun e he hopens hnot => ?_⟩
  · obtain rfl := hopened e he hopens
    exact iff_of_true ⟨_, List.mem_cons_of_mem _ List.mem_cons_self, hnames⟩ hcloses
  · obtain rfl := hopened e he hopens
    exact absurd hcloses hnot

/-- The projections agree on the one history, and would on the other if its closing events named
the holds that they close. -/
theorem hold_projections_crossed : ProjectionsAgree sampleWorks resolvedHold ∧
    (ProjectionsAgree sampleWorks crossedHolds ↔ ClosedByName (crossedHolds.map .of)) :=
  ⟨(hold_projections sampleWorks resolvedHold resolvedHold_valid).2 resolvedHold_closed,
    hold_projections sampleWorks crossedHolds crossedHolds_valid⟩

/-- The resolved hold stays listed. -/
theorem crossed_holds_disagree :
    ¬ ∀ rt events, validateHistory rt events = .ok [] → ProjectionsAgree rt events := by
  intro h
  have hlisted : openHolds (crossedHolds.map .of) = [.of (openingEvent "e1" "h1")] := rfl
  have hstate : holdState (crossedHolds.map .of) (.valid "h1") = some (.valid "RESOLVED") := rfl
  have hagree := (h sampleWorks crossedHolds crossedHolds_valid).listed (.of (openingEvent "e1" "h1"))
    List.mem_cons_self rfl
  have hopen := hagree.1 (hlisted ▸ List.mem_singleton_self _)
  exact absurd (hstate.symm.trans hopen) (by decide)

end VeraWorks

end VeraMono
