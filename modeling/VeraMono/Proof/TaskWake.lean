import Mathlib.Tactic.Linarith
import VeraMono.Model.TaskWake

/-!
# Which wakes are emitted

`Ledger` relates the ledger of wakes to how far each schedule has come: every occurrence before
`next_at` has a row under its wake id, and every row is such an occurrence. One round of the loop
of `tick` keeps it. `drainRows_spec` says what the loop does unless it is cut off, and
`WakeInv.emittedOnce_iff` which due occurrences a tick has emitted; `dropped_wake` is one that it
passes over.
-/

namespace VeraMono

open Framework TaskWakeScheduler

variable {py : Stdlib}

/-! ## Occurrences -/

def IntervalArgs.due (args : IntervalArgs) (k : Nat) : Rat := args.firstAt + k * args.everySeconds

theorem IntervalArgs.due_succ {args : IntervalArgs} {k : Nat} :
    args.due (k + 1) = args.due k + args.everySeconds := by
  rw [IntervalArgs.due, IntervalArgs.due]
  push_cast
  ring

theorem IntervalArgs.due_lt {args : IntervalArgs} (hpos : 0 < args.everySeconds) {k l : Nat} :
    args.due k < args.due l ↔ k < l := by
  simp only [IntervalArgs.due, add_lt_add_iff_left, mul_lt_mul_iff_left₀ hpos, Nat.cast_lt]

variable (py) in
def IntervalArgs.wakeId (args : IntervalArgs) (k : Nat) : String :=
  TaskWakeScheduler.wakeId py args.scheduleId args.taskId (args.due k)

variable (py) in
def IntervalArgs.wake (args : IntervalArgs) (k : Nat) : TaskWake :=
  ⟨args.wakeId py k, args.scheduleId, args.taskId, args.due k⟩

/-! ## The ledger -/

variable (py) in
/-- The ledger when the schedules have come to `next` and every time that was reached
satisfies `reached`. -/
structure Ledger (added : List IntervalArgs) (next : String → Rat) (reached : Rat → Prop)
    (wakes : Table TaskWake.wakeId) : Prop where
  nodup : (added.map IntervalArgs.scheduleId).Nodup
  positive : ∀ args ∈ added, 0 < args.everySeconds
  passed : ∀ args ∈ added, ∃ n : Nat, next args.scheduleId = args.due n ∧
    ∀ k < n, (wakes.get? (args.wakeId py k)).isSome = true ∧ reached (args.due k)
  sound : ∀ w ∈ wakes.rows, ∃ args ∈ added, ∃ k, w = args.wake py k ∧ reached (args.due k)

variable {added : List IntervalArgs} {next : String → Rat} {reached : Rat → Prop}
  {wakes : Table TaskWake.wakeId} {args : IntervalArgs} {e : Emission} {k n : Nat} {now nextAt : Rat}
  {maxOccurrences : Int}

theorem emit_cases (w : TaskWake) : (emit w e = e ∧ ((e.wakes.get? w.wakeId).isSome = true ∨
      ∃ other ∈ e.wakes.rows, other.scheduleId = w.scheduleId ∧ other.dueAt = w.dueAt)) ∨
    (e.wakes.get? w.wakeId = none ∧ emit w e = ⟨e.emitted ++ [w], e.wakes.insert w⟩) := by
  rw [emit]
  split
  · exact .inl ⟨rfl, ‹_›⟩
  · rename_i h
    rw [not_or, Bool.not_eq_true, Option.isSome_eq_false_iff, Option.isNone_iff_eq_none] at h
    exact .inr ⟨h.1, rfl⟩

/-- What the emissions of a tick add to both lists. -/
structure Emits (e e' : Emission) (now : Rat) : Prop where
  more : ∃ new, e'.emitted = e.emitted ++ new ∧ e'.wakes.rows = e.wakes.rows ++ new ∧
    ∀ w ∈ new, w.dueAt ≤ now

theorem Emits.refl : Emits e e now := ⟨[], by simp, by simp, fun _ h => (by cases h)⟩

theorem Emits.trans {e' e'' : Emission} (h : Emits e e' now) (h' : Emits e' e'' now) :
    Emits e e'' now := by
  obtain ⟨new, he, hw, hd⟩ := h.more
  obtain ⟨new', he', hw', hd'⟩ := h'.more
  refine ⟨new ++ new', by rw [he', he, List.append_assoc], by rw [hw', hw, List.append_assoc], ?_⟩
  intro w hmem
  rcases List.mem_append.1 hmem with hmem | hmem
  · exact hd w hmem
  · exact hd' w hmem

theorem emit_emits {w : TaskWake} (hw : w.dueAt ≤ now) : Emits e (emit w e) now := by
  rcases emit_cases (e := e) w with ⟨heq, -⟩ | ⟨hnone, heq⟩
  · rw [heq]
    exact .refl
  · rw [heq]
    exact ⟨[w], rfl, Table.rows_insert hnone, fun _ h => by rw [List.mem_singleton.1 h]; exact hw⟩

theorem emit_taken (hl : Ledger py added next reached e.wakes) (ha : args ∈ added) :
    ((emit (args.wake py n) e).wakes.get? (args.wakeId py n)).isSome = true := by
  rcases emit_cases (e := e) (args.wake py n) with ⟨heq, htaken⟩ | ⟨hnone, heq⟩
  · rw [heq]
    rcases htaken with hsome | ⟨other, hmem, hid, hdue⟩
    · exact hsome
    · obtain ⟨args', ha', k, rfl, -⟩ := hl.sound other hmem
      obtain rfl : args' = args := List.inj_on_of_nodup_map hl.nodup ha' ha hid
      have hsame : args'.wakeId py k = args'.wakeId py n := by
        rw [IntervalArgs.wakeId, IntervalArgs.wakeId]
        exact congrArg _ hdue
      rw [← hsame]
      exact Option.isSome_iff_exists.2 ⟨_, Table.get?_of_mem hmem⟩
  · rw [heq]
    exact Option.isSome_iff_exists.2 ⟨_, Table.get?_insert_self (v := args.wake py n) hnone⟩

theorem Ledger.emit (hl : Ledger py added next reached e.wakes) (ha : args ∈ added)
    (hn : next args.scheduleId = args.due n) (hr : reached (args.due n)) :
    Ledger py added (Function.update next args.scheduleId (args.due (n + 1))) reached
      (emit (args.wake py n) e).wakes where
  nodup := hl.nodup
  positive := hl.positive
  passed := by
    have hkeep {id : String} (h : (e.wakes.get? id).isSome = true) :
        ((TaskWakeScheduler.emit (args.wake py n) e).wakes.get? id).isSome = true := by
      obtain ⟨w, hw⟩ := Option.isSome_iff_exists.1 h
      obtain ⟨new, -, hrows, -⟩ := (emit_emits (e := e) (w := args.wake py n) le_rfl).more
      rw [← Table.get?_key hw]
      exact Option.isSome_iff_exists.2
        ⟨w, Table.get?_of_mem (hrows ▸ List.mem_append_left _ (Table.mem_of_get? hw))⟩
    intro args' ha'
    by_cases hid : args'.scheduleId = args.scheduleId
    · obtain rfl : args' = args := List.inj_on_of_nodup_map hl.nodup ha' ha hid
      obtain ⟨m, hm, hpassed⟩ := hl.passed args' ha'
      obtain rfl : m = n := by
        have heq := hm.symm.trans hn
        rcases lt_trichotomy m n with hlt | heq' | hlt
        · exact absurd heq ((IntervalArgs.due_lt (hl.positive args' ha')).2 hlt).ne
        · exact heq'
        · exact absurd heq ((IntervalArgs.due_lt (hl.positive args' ha')).2 hlt).ne'
      refine ⟨m + 1, by rw [Function.update_self], fun k hk => ?_⟩
      rcases Nat.lt_succ_iff_lt_or_eq.1 hk with hk | rfl
      · exact ⟨hkeep (hpassed k hk).1, (hpassed k hk).2⟩
      · exact ⟨emit_taken hl ha, hr⟩
    · obtain ⟨m, hm, hpassed⟩ := hl.passed args' ha'
      exact ⟨m, by rw [Function.update_of_ne hid, hm],
        fun k hk => ⟨hkeep (hpassed k hk).1, (hpassed k hk).2⟩⟩
  sound := by
    intro w hw
    rcases emit_cases (e := e) (args.wake py n) with ⟨heq, -⟩ | ⟨hnone, heq⟩
    · rw [heq] at hw
      exact hl.sound w hw
    · rw [heq, Table.rows_insert hnone, List.mem_append, List.mem_singleton] at hw
      rcases hw with hw | rfl
      · exact hl.sound w hw
      · exact ⟨args, ha, n, rfl, hr⟩

/-! ## One tick -/

/-- A row is that of a registered schedule. -/
structure Tracks (args : IntervalArgs) (row : WakeSchedule) : Prop where
  scheduleId : row.scheduleId = args.scheduleId
  taskId : row.taskId = args.taskId
  everySeconds : row.everySeconds = args.everySeconds
  enabled : row.enabled = true

variable (py) in
/-- After enough rounds the condition of the loop is false. -/
theorem drain_done (row : WakeSchedule) (maxOccurrences : Int) (e : Emission)
    (h : now < nextAt + n * row.everySeconds) :
    ¬ ((drain py row now maxOccurrences n nextAt e).1 ≤ now ∧
      ((drain py row now maxOccurrences n nextAt e).2.emitted.length : Int) < maxOccurrences) := by
  induction n generalizing nextAt e with
  | zero =>
    rw [Nat.cast_zero, zero_mul, add_zero] at h
    exact fun hcond => absurd hcond.1 (not_le.2 h)
  | succ n ih =>
    simp only [drain]
    split
    · refine ih _ ?_
      push_cast at h
      linarith
    · assumption

theorem drain_spec {row : WakeSchedule} (maxOccurrences : Int) (n : Nat)
    (hl : Ledger py added next reached e.wakes) (ha : args ∈ added)
    (ht : Tracks args row) (hn : next args.scheduleId = nextAt) (hr : ∀ d ≤ now, reached d) :
    Ledger py added (Function.update next args.scheduleId (drain py row now maxOccurrences n nextAt e).1)
        reached (drain py row now maxOccurrences n nextAt e).2.wakes ∧
      Emits e (drain py row now maxOccurrences n nextAt e).2 now := by
  induction n generalizing next nextAt e with
  | zero =>
    simp only [drain]
    rw [← hn, Function.update_eq_self]
    exact ⟨hl, .refl⟩
  | succ n ih =>
    simp only [drain]
    split
    · rename_i hcond
      obtain ⟨m, hm, -⟩ := hl.passed args ha
      have hdue : nextAt = args.due m := hn.symm.trans hm
      have hwake : wakeOf py row nextAt = args.wake py m := by
        rw [wakeOf, ht.scheduleId, ht.taskId, hdue]
        rfl
      have hsucc : nextAt + row.everySeconds = args.due (m + 1) := by
        rw [hdue, ht.everySeconds, IntervalArgs.due_succ]
      have hle : args.due m ≤ now := hdue ▸ hcond.1
      rw [hwake, hsucc]
      obtain ⟨hledger, hemits⟩ := ih (hl.emit ha hm (hr _ hle)) (Function.update_self ..)
      rw [Function.update_idem] at hledger
      exact ⟨hledger, (emit_emits (w := args.wake py m) hle).trans hemits⟩
    · rw [← hn, Function.update_eq_self]
      exact ⟨hl, .refl⟩

theorem lt_dueCount (row : WakeSchedule) (now nextAt : Rat) :
    now < nextAt + dueCount row now nextAt * row.everySeconds := by
  rw [dueCount]
  split
  · have hfloor := Int.lt_floor_add_one ((now - nextAt) / row.everySeconds)
    rw [div_lt_iff₀ row.positive] at hfloor
    have hnat : ((((now - nextAt) / row.everySeconds).floor : Int) : Rat) ≤
        (((now - nextAt) / row.everySeconds).floor.toNat : Rat) := by
      exact_mod_cast Int.self_le_toNat _
    have hmul := mul_le_mul_of_nonneg_right hnat row.positive.le
    have heq : ⌊(now - nextAt) / row.everySeconds⌋ = ((now - nextAt) / row.everySeconds).floor := rfl
    rw [heq] at hfloor
    push_cast
    linarith
  · simp only [Nat.cast_zero, zero_mul, add_zero]
    exact not_le.1 ‹_›

/-- How far a schedule has come. -/
def nextOf (schedules : Table WakeSchedule.scheduleId) (scheduleId : String) : Rat :=
  ((schedules.get? scheduleId).map WakeSchedule.nextAt).getD 0

/-- The rows are those of the registered schedules. -/
structure Registered (added : List IntervalArgs) (schedules : Table WakeSchedule.scheduleId) : Prop where
  row : ∀ args ∈ added, ∃ row, schedules.get? args.scheduleId = some row ∧ Tracks args row
  args : ∀ row ∈ schedules.rows, ∃ args ∈ added, Tracks args row

variable {schedules : Table WakeSchedule.scheduleId} {row : WakeSchedule}

theorem nextOf_update (h : schedules.get? row.scheduleId = some row) (x : Rat) :
    nextOf (schedules.update { row with nextAt := x }) =
      Function.update (nextOf schedules) row.scheduleId x := by
  funext id
  by_cases hid : id = row.scheduleId
  · subst hid
    have hself : (schedules.update { row with nextAt := x }).get? row.scheduleId =
        some { row with nextAt := x } := Table.get?_update_self (v := { row with nextAt := x }) h
    rw [nextOf, hself, Function.update_self]
    rfl
  · have hother : (schedules.update { row with nextAt := x }).get? id = schedules.get? id :=
      Table.get?_update_other hid
    rw [nextOf, hother, Function.update_of_ne hid, nextOf]

theorem Registered.update (hreg : Registered added schedules)
    (h : schedules.get? row.scheduleId = some row) (x : Rat) :
    Registered added (schedules.update { row with nextAt := x }) where
  row := by
    intro args ha
    obtain ⟨old, hold, ht⟩ := hreg.row args ha
    by_cases hid : args.scheduleId = row.scheduleId
    · rw [hid] at hold ⊢
      obtain rfl : row = old := Option.some.inj (h.symm.trans hold)
      exact ⟨{ row with nextAt := x }, Table.get?_update_self (v := { row with nextAt := x }) h,
        ht.scheduleId, ht.taskId, ht.everySeconds, ht.enabled⟩
    · exact ⟨old, (Table.get?_update_other (v := { row with nextAt := x }) hid).trans hold, ht⟩
  args := by
    intro r hr
    obtain ⟨old, hold, rfl⟩ := List.mem_map.1 hr
    split
    · obtain ⟨args, ha, ht⟩ := hreg.args row (Table.mem_of_get? h)
      exact ⟨args, ha, ht.scheduleId, ht.taskId, ht.everySeconds, ht.enabled⟩
    · exact hreg.args old hold

/-- What the loop of a tick over its rows does, unless it is cut off. -/
theorem drainRows_spec {rows : List WakeSchedule} (maxOccurrences : Int) (hreg : Registered added schedules)
    (hl : Ledger py added (nextOf schedules) reached e.wakes)
    (hrows : ∀ row ∈ rows, schedules.get? row.scheduleId = some row)
    (hnodup : (rows.map WakeSchedule.scheduleId).Nodup) (hr : ∀ d ≤ now, reached d) :
    Registered added (drainRows py now maxOccurrences rows schedules e).1 ∧
      Ledger py added (nextOf (drainRows py now maxOccurrences rows schedules e).1) reached
        (drainRows py now maxOccurrences rows schedules e).2.wakes ∧
      Emits e (drainRows py now maxOccurrences rows schedules e).2 now ∧
      (maxOccurrences ≤ (drainRows py now maxOccurrences rows schedules e).2.emitted.length ∨
        ∀ id, nextOf (drainRows py now maxOccurrences rows schedules e).1 id =
            nextOf schedules id ∧ id ∉ rows.map WakeSchedule.scheduleId ∨
          now < nextOf (drainRows py now maxOccurrences rows schedules e).1 id) := by
  induction rows generalizing schedules e with
  | nil => exact ⟨hreg, hl, .refl, .inr fun id => .inl ⟨rfl, List.not_mem_nil⟩⟩
  | cons row rows ih =>
    have hrow := hrows row List.mem_cons_self
    obtain ⟨args, ha, ht⟩ := hreg.args row (Table.mem_of_get? hrow)
    have hnext : nextOf schedules args.scheduleId = row.nextAt := by
      rw [nextOf, ← ht.scheduleId, hrow]
      rfl
    obtain ⟨hledger, hemits⟩ :=
      drain_spec maxOccurrences (dueCount row now row.nextAt) hl ha ht hnext hr
    have hdone := drain_done py row maxOccurrences e (lt_dueCount row now row.nextAt)
    rw [not_and_or, not_le, not_lt] at hdone
    simp only [drainRows]
    generalize drain py row now maxOccurrences (dueCount row now row.nextAt) row.nextAt e = d at *
    have hupdate := nextOf_update hrow d.1
    rw [← ht.scheduleId, ← hupdate] at hledger
    have hreg' := hreg.update hrow d.1
    split
    · rename_i hmax
      exact ⟨hreg', hledger, hemits, .inl hmax⟩
    · rename_i hmax
      obtain ⟨hnot, hnodup'⟩ := List.nodup_cons.1 hnodup
      have hrows' : ∀ r ∈ rows, (schedules.update { row with nextAt := d.1 }).get? r.scheduleId =
          some r := by
        intro r hmem
        have hne : r.scheduleId ≠ row.scheduleId := fun heq => hnot (heq ▸ List.mem_map_of_mem hmem)
        exact (Table.get?_update_other (v := { row with nextAt := d.1 }) hne).trans
          (hrows r (List.mem_cons_of_mem _ hmem))
      obtain ⟨hreg₂, hledger₂, hemits₂, hdone₂⟩ := ih hreg' hledger hrows' hnodup'
      refine ⟨hreg₂, hledger₂, hemits.trans hemits₂, hdone₂.imp_right fun h id => ?_⟩
      rcases h id with ⟨hsame, hid⟩ | hlt
      · by_cases hrid : id = row.scheduleId
        · right
          rw [hsame, hupdate, hrid, Function.update_self]
          exact hdone.resolve_right hmax
        · left
          refine ⟨by rw [hsame, hupdate, Function.update_of_ne hrid], ?_⟩
          rw [List.map_cons, List.mem_cons, not_or]
          exact ⟨hrid, hid⟩
      · exact .inr hlt

/-! ## Every state -/

variable (py) in
/-- What every call keeps. -/
structure WakeInv (s : WakeSystem) : Prop where
  registered : Registered s.added s.store.schedules
  ledger : Ledger py s.added (nextOf s.store.schedules) (fun d => ∃ now ∈ s.nows, d ≤ now) s.store.wakes
  emitted : s.emitted = s.store.wakes.rows

variable {s : WakeSystem}

theorem wakeInv_new : WakeInv py .new where
  registered := ⟨fun _ h => (by cases h), fun _ h => (by cases h)⟩
  ledger := ⟨List.nodup_nil, fun _ h => (by cases h), fun _ h => (by cases h), fun _ h => (by cases h)⟩
  emitted := rfl

theorem Ledger.mono {reached' : Rat → Prop} (hl : Ledger py added next reached wakes)
    (h : ∀ d, reached d → reached' d) : Ledger py added next reached' wakes where
  nodup := hl.nodup
  positive := hl.positive
  passed := fun args ha =>
    let ⟨n, hn, hp⟩ := hl.passed args ha
    ⟨n, hn, fun k hk => ⟨(hp k hk).1, h _ (hp k hk).2⟩⟩
  sound := fun w hw =>
    let ⟨args, ha, k, hk, hr⟩ := hl.sound w hw
    ⟨args, ha, k, hk, h _ hr⟩

theorem tick_spec (hi : WakeInv py s) {fired : List TaskWake} {store : WakeStore}
    (h : tick py now maxOccurrences s.store = .ok (fired, store)) :
    WakeInv py ⟨store, s.added, s.nows ++ [now], s.emitted ++ fired⟩ ∧ (∀ w ∈ fired, w.dueAt ≤ now) ∧
      (maxOccurrences ≤ fired.length ∨ ∀ args ∈ s.added, now < nextOf store.schedules args.scheduleId) := by
  rw [tick] at h
  split at h
  · cases h
  · have hrows : ∀ row ∈ dueRows now s.store, s.store.schedules.get? row.scheduleId = some row := by
      intro row hrow
      rw [dueRows, List.mem_insertionSort] at hrow
      exact Table.get?_of_mem (List.mem_filter.1 hrow).1
    have hnodup : ((dueRows now s.store).map WakeSchedule.scheduleId).Nodup := by
      rw [dueRows, ((List.perm_insertionSort _ _).map WakeSchedule.scheduleId).nodup_iff]
      exact s.store.schedules.nodup.sublist (List.filter_sublist.map _)
    have hreach : Ledger py s.added (nextOf s.store.schedules)
        (fun d => ∃ n ∈ s.nows ++ [now], d ≤ n) s.store.wakes :=
      hi.ledger.mono fun d ⟨n, hn, hd⟩ => ⟨n, List.mem_append_left _ hn, hd⟩
    obtain ⟨hreg, hledger, hemits, hdone⟩ := drainRows_spec (e := ⟨[], s.store.wakes⟩)
      maxOccurrences hi.registered hreach hrows hnodup
      fun d hd => ⟨now, List.mem_append_right _ (List.mem_singleton_self now), hd⟩
    generalize drainRows py now maxOccurrences (dueRows now s.store) s.store.schedules
      ⟨[], s.store.wakes⟩ = r at *
    cases h
    obtain ⟨new, hnew, hwakes, hdue⟩ := hemits.more
    rw [List.nil_append] at hnew
    refine ⟨⟨hreg, hledger, ?_⟩, fun w hw => hdue w (hnew ▸ hw), hdone.imp_right fun hall args ha => ?_⟩
    · change s.emitted ++ r.2.emitted = r.2.wakes.rows
      rw [hi.emitted, hwakes, hnew]
    · rcases hall args.scheduleId with ⟨hsame, hnot⟩ | hlt
      · rw [hsame]
        obtain ⟨row, hrow, ht⟩ := hi.registered.row args ha
        by_contra hle
        refine hnot (List.mem_map.2 ⟨row, ?_, ht.scheduleId⟩)
        rw [dueRows, List.mem_insertionSort, List.mem_filter]
        rw [nextOf, hrow] at hle
        exact ⟨Table.mem_of_get? hrow, by simpa [ht.enabled] using hle⟩
      · exact hlt

def IntervalArgs.newRow (args : IntervalArgs) (hpos : 0 < args.everySeconds) : WakeSchedule :=
  ⟨args.scheduleId, args.taskId, args.everySeconds, args.firstAt, true, hpos⟩

theorem addInterval_ok {store : WakeStore} (h : addInterval args s.store = .ok store) :
    ∃ hpos : 0 < args.everySeconds, s.store.schedules.get? args.scheduleId = none ∧
      store = ⟨s.store.schedules.insert (args.newRow hpos), s.store.wakes⟩ := by
  simp only [addInterval, text, bind_eq_ok, requireText_ok] at h
  obtain ⟨_, ⟨-, rfl⟩, _, ⟨-, rfl⟩, h⟩ := h
  split at h
  · rename_i hpos
    simp only [ite_error_ok, ↓throw_bind, pure_ok] at h
    obtain ⟨hnone, rfl⟩ := h
    exact ⟨hpos, by simpa using hnone, rfl⟩
  · cases h

theorem WakeInv.registers (hi : WakeInv py s) {store : WakeStore}
    (h : addInterval args s.store = .ok store) :
    WakeInv py ⟨store, s.added ++ [args], s.nows, s.emitted⟩ := by
  obtain ⟨hpos, hnone, rfl⟩ := addInterval_ok h
  have hfresh : ∀ old ∈ s.added, old.scheduleId ≠ args.scheduleId := by
    intro old hold heq
    obtain ⟨row, hrow, -⟩ := hi.registered.row old hold
    rw [heq, hnone] at hrow
    cases hrow
  have hself : (s.store.schedules.insert (args.newRow hpos)).get? args.scheduleId = some (args.newRow hpos) :=
    Table.get?_insert_self (v := args.newRow hpos) hnone
  have hother {id : String} (hid : id ≠ args.scheduleId) :
      (s.store.schedules.insert (args.newRow hpos)).get? id = s.store.schedules.get? id :=
    Table.get?_insert_other (v := args.newRow hpos) hid
  constructor
  · refine ⟨fun a ha => ?_, fun row hrow => ?_⟩
    · rcases List.mem_append.1 ha with ha | ha
      · obtain ⟨row, hrow, ht⟩ := hi.registered.row a ha
        exact ⟨row, (hother (hfresh a ha)).trans hrow, ht⟩
      · obtain rfl := List.mem_singleton.1 ha
        exact ⟨a.newRow hpos, hself, rfl, rfl, rfl, rfl⟩
    · rw [Table.rows_insert (v := args.newRow hpos) hnone, List.mem_append, List.mem_singleton] at hrow
      rcases hrow with hrow | rfl
      · obtain ⟨a, ha, ht⟩ := hi.registered.args row hrow
        exact ⟨a, List.mem_append_left _ ha, ht⟩
      · exact ⟨args, List.mem_append_right _ (List.mem_singleton_self args), rfl, rfl, rfl, rfl⟩
  · constructor
    · rw [List.map_append, List.nodup_append]
      refine ⟨hi.ledger.nodup, List.nodup_singleton _, fun id hid id' hid' => ?_⟩
      obtain ⟨old, hold, rfl⟩ := List.mem_map.1 hid
      rw [List.map_singleton, List.mem_singleton] at hid'
      exact hid' ▸ hfresh old hold
    · intro a ha
      rcases List.mem_append.1 ha with ha | ha
      · exact hi.ledger.positive a ha
      · obtain rfl := List.mem_singleton.1 ha
        exact hpos
    · intro a ha
      rcases List.mem_append.1 ha with ha | ha
      · obtain ⟨n, hn, hp⟩ := hi.ledger.passed a ha
        refine ⟨n, ?_, hp⟩
        rw [nextOf, hother (hfresh a ha)]
        exact hn
      · obtain rfl := List.mem_singleton.1 ha
        refine ⟨0, ?_, fun k hk => absurd hk (Nat.not_lt_zero k)⟩
        rw [nextOf, hself]
        simp [IntervalArgs.due, IntervalArgs.newRow]
    · intro w hw
      obtain ⟨a, ha, k, hk, hr⟩ := hi.ledger.sound w hw
      exact ⟨a, List.mem_append_left _ ha, k, hk, hr⟩
  · exact hi.emitted

theorem WakeInv.exec (hi : WakeInv py s) (c : WakeCall) : WakeInv py (exec py s c) := by
  cases c with
  | addInterval args =>
    simp only [TaskWakeScheduler.exec]
    cases h : TaskWakeScheduler.addInterval args s.store with
    | error e => exact hi
    | ok store => exact hi.registers h
  | tick now maxOccurrences =>
    simp only [TaskWakeScheduler.exec]
    cases h : tick py now maxOccurrences s.store with
    | error e => exact hi
    | ok r => exact (tick_spec hi h).1
  | restart => exact hi

theorem wakeInv_run (cs : List WakeCall) : WakeInv py (run py .new cs) := by
  suffices h : ∀ s, WakeInv py s → WakeInv py (run py s cs) from h _ wakeInv_new
  induction cs with
  | nil => exact fun _ hi => hi
  | cons c cs ih => exact fun s hi => ih _ (hi.exec c)

/-! ## Exactly once -/

def EmittedOnce (s : WakeSystem) (args : IntervalArgs) (k : Nat) : Prop :=
  s.emitted.countP (fun w => w.scheduleId = args.scheduleId ∧ w.dueAt = args.due k) = 1

/-- The occurrence of a schedule as the text that identifies it. -/
def IntervalArgs.text (args : IntervalArgs) (k : Nat) : String :=
  wakeText args.scheduleId args.taskId (args.due k)

/-- No two occurrences that are due by `now` read alike: schedule, task and six decimals. -/
def DistinctTexts (s : WakeSystem) (now : Rat) : Prop :=
  ∀ args ∈ s.added, ∀ args' ∈ s.added, ∀ k k', args.due k ≤ now → args'.due k' ≤ now →
    args.text k = args'.text k' → args = args' ∧ k = k'

variable (py) in
/-- The digest tells the texts of the due occurrences apart. -/
def Collisionless (s : WakeSystem) (now : Rat) : Prop :=
  ∀ args ∈ s.added, ∀ args' ∈ s.added, ∀ k k', args.due k ≤ now → args'.due k' ≤ now →
    args.wakeId py k = args'.wakeId py k' → args.text k = args'.text k'

theorem WakeInv.eq_wake (hi : WakeInv py s) (ha : args ∈ s.added) {w : TaskWake} (hw : w ∈ s.emitted)
    (hid : w.scheduleId = args.scheduleId) (hdue : w.dueAt = args.due k) : w = args.wake py k := by
  obtain ⟨args', ha', k', rfl, -⟩ := hi.ledger.sound w (hi.emitted ▸ hw)
  obtain rfl : args' = args := List.inj_on_of_nodup_map hi.ledger.nodup ha' ha hid
  have heq : args'.due k' = args'.due k := hdue
  rw [IntervalArgs.wake, IntervalArgs.wake, IntervalArgs.wakeId, IntervalArgs.wakeId, heq]

theorem WakeInv.countP_le (hi : WakeInv py s) (ha : args ∈ s.added) (k : Nat) :
    s.emitted.countP (fun w => w.scheduleId = args.scheduleId ∧ w.dueAt = args.due k) ≤ 1 := by
  have hnodup : s.emitted.Nodup := by
    rw [hi.emitted]
    exact s.store.wakes.nodup.of_map _
  have hcount := List.nodup_iff_count_le_one.1 hnodup (args.wake py k)
  rw [List.count] at hcount
  refine (List.countP_mono_left fun w hw h => ?_).trans hcount
  rw [decide_eq_true_eq] at h
  exact beq_iff_eq.2 (hi.eq_wake ha hw h.1 h.2)

theorem WakeInv.emittedOnce (hi : WakeInv py s) (ha : args ∈ s.added) :
    EmittedOnce s args k ↔ args.wake py k ∈ s.emitted := by
  have hle := hi.countP_le ha k
  rw [EmittedOnce]
  constructor
  · intro h
    obtain ⟨w, hw, hp⟩ := List.countP_pos_iff.1 (h ▸ Nat.one_pos)
    rw [decide_eq_true_eq] at hp
    exact hi.eq_wake ha hw hp.1 hp.2 ▸ hw
  · intro h
    have hpos : 0 < s.emitted.countP (fun w => w.scheduleId = args.scheduleId ∧ w.dueAt = args.due k) :=
      List.countP_pos_iff.2 ⟨_, h, by simp [IntervalArgs.wake]⟩
    omega

/-- After a tick at the latest time that was not cut off, every due occurrence has been
emitted exactly if their texts are distinct. -/
theorem WakeInv.emittedOnce_iff (hi : WakeInv py s) (hsha : Collisionless py s now) (hmax : ∀ n ∈ s.nows, n ≤ now)
    (hdone : ∀ args ∈ s.added, now < nextOf s.store.schedules args.scheduleId) :
    (∀ args ∈ s.added, ∀ k, args.due k ≤ now → EmittedOnce s args k) ↔ DistinctTexts s now := by
  constructor
  · -- two wakes with one id would be one row of the ledger
    intro h args ha args' ha' k k' hk hk' htext
    have hid : args.wakeId py k = args'.wakeId py k' :=
      congrArg (fun text : String => py.bytesDigest text.toUTF8.toList) htext
    have hmem := (hi.emittedOnce ha).1 (h args ha k hk)
    have hmem' := (hi.emittedOnce ha').1 (h args' ha' k' hk')
    rw [hi.emitted] at hmem hmem'
    have hrow : args.wake py k = args'.wake py k' :=
      List.inj_on_of_nodup_map s.store.wakes.nodup hmem hmem' hid
    obtain rfl : args = args' :=
      List.inj_on_of_nodup_map hi.ledger.nodup ha ha' (congrArg TaskWake.scheduleId hrow)
    have hdue : args.due k = args.due k' := congrArg TaskWake.dueAt hrow
    refine ⟨rfl, ?_⟩
    rcases lt_trichotomy k k' with hlt | heq | hlt
    · exact absurd hdue ((IntervalArgs.due_lt (hi.ledger.positive args ha)).2 hlt).ne
    · exact heq
    · exact absurd hdue ((IntervalArgs.due_lt (hi.ledger.positive args ha)).2 hlt).ne'
  · -- the row that has the id of an occurrence is the wake of that occurrence
    intro hdistinct args ha k hk
    refine (hi.emittedOnce ha).2 ?_
    obtain ⟨n, hn, hpassed⟩ := hi.ledger.passed args ha
    have hkn : k < n := by
      rw [← IntervalArgs.due_lt (hi.ledger.positive args ha), ← hn]
      exact hk.trans_lt (hdone args ha)
    obtain ⟨w, hw⟩ := Option.isSome_iff_exists.1 (hpassed k hkn).1
    have hmem := Table.mem_of_get? hw
    obtain ⟨args', ha', k', rfl, m, hm, hdue⟩ := hi.ledger.sound w hmem
    have hk' := hdue.trans (hmax m hm)
    obtain ⟨rfl, rfl⟩ := hdistinct args ha args' ha' k k' hk hk'
      (hsha args ha args' ha' k k' hk hk' (Table.get?_key hw).symm)
    rw [hi.emitted]
    exact hmem

/-! ## The law of the scheduler -/

theorem run_extends (cs : List WakeCall) : s.added ⊆ (run py s cs).added ∧
    s.emitted <+: (run py s cs).emitted := by
  induction cs generalizing s with
  | nil => exact ⟨fun _ h => h, List.prefix_rfl⟩
  | cons c cs ih =>
    have hone : s.added ⊆ (exec py s c).added ∧ s.emitted <+: (exec py s c).emitted := by
      cases c with
      | addInterval args =>
        simp only [TaskWakeScheduler.exec]
        cases addInterval args s.store with
        | error e => exact ⟨fun _ h => h, List.prefix_rfl⟩
        | ok store => exact ⟨List.subset_append_left _ _, List.prefix_rfl⟩
      | tick now maxOccurrences =>
        simp only [TaskWakeScheduler.exec]
        cases tick py now maxOccurrences s.store with
        | error e => exact ⟨fun _ h => h, List.prefix_rfl⟩
        | ok r => exact ⟨fun _ h => h, List.prefix_append _ _⟩
      | restart => exact ⟨fun _ h => h, List.prefix_rfl⟩
    exact ⟨List.Subset.trans hone.1 ih.1, hone.2.trans ih.2⟩

variable (py) in
/-- What holds of a scheduler that a run has reached. -/
structure WakeLaw (s : WakeSystem) : Prop where
  /-- The rounds of each tick are enough: its loops end because their condition is false. -/
  terminates : ∀ (row : WakeSchedule) now maxOccurrences nextAt e,
    ¬ ((drain py row now maxOccurrences (dueCount row now nextAt) nextAt e).1 ≤ now ∧
      ((drain py row now maxOccurrences (dueCount row now nextAt) nextAt e).2.emitted.length : Int) <
        maxOccurrences)
  punctual : ∀ now maxOccurrences fired store,
    tick py now maxOccurrences s.store = .ok (fired, store) → ∀ w ∈ fired, w.dueAt ≤ now
  occurrence : ∀ w ∈ s.emitted, ∃ args ∈ s.added, ∃ k, w = args.wake py k
  ids : (s.emitted.map TaskWake.wakeId).Nodup
  /-- A tick at the latest time that returned fewer wakes than it may has made the emission
  of every due occurrence exact, if and only if their texts are distinct. -/
  once : ∀ now maxOccurrences fired store,
    tick py now maxOccurrences s.store = .ok (fired, store) → (fired.length : Int) < maxOccurrences →
    (∀ n ∈ s.nows, n ≤ now) → Collisionless py s now →
    ((∀ args ∈ s.added, ∀ k, args.due k ≤ now →
        EmittedOnce (exec py s (.tick now maxOccurrences)) args k) ↔
      DistinctTexts s now)
  /-- What was emitted once is not emitted again. -/
  kept : ∀ cs, ∀ args ∈ s.added, ∀ k, EmittedOnce s args k → EmittedOnce (run py s cs) args k

variable (py) in
theorem wake_law (cs : List WakeCall) : WakeLaw py (run py .new cs) := by
  have hi : WakeInv py (run py .new cs) := wakeInv_run cs
  refine ⟨fun row now maxOccurrences nextAt e =>
      drain_done py row maxOccurrences e (lt_dueCount row now nextAt),
    fun now maxOccurrences fired store h => (tick_spec hi h).2.1, fun w hw => ?_, ?_,
    fun now maxOccurrences fired store h hless hmax hsha => ?_, fun cs' args ha k honce => ?_⟩
  · obtain ⟨args, ha, k, hk, -⟩ := hi.ledger.sound w (hi.emitted ▸ hw)
    exact ⟨args, ha, k, hk⟩
  · rw [hi.emitted]
    exact (run py .new cs).store.wakes.nodup
  · obtain ⟨hi', -, hdone⟩ := tick_spec hi h
    have hexec : exec py (run py .new cs) (.tick now maxOccurrences) = ⟨store, (run py .new cs).added,
        (run py .new cs).nows ++ [now], (run py .new cs).emitted ++ fired⟩ := by
      simp only [exec, h]
    rw [hexec]
    refine hi'.emittedOnce_iff hsha (fun n hn => ?_) (hdone.resolve_left (not_le.2 hless))
    rcases List.mem_append.1 hn with hn | hn
    · exact hmax n hn
    · exact (List.mem_singleton.1 hn).le
  · have hi' : WakeInv py (run py (run py .new cs) cs') := by
      rw [run, run, ← List.foldl_append]
      exact wakeInv_run (cs ++ cs')
    obtain ⟨hadded, hemitted⟩ := @run_extends py (run py .new cs) cs'
    exact (hi'.emittedOnce (hadded ha)).2 (hemitted.subset ((hi.emittedOnce ha).1 honce))

/-! ## An occurrence that is never emitted -/

/-- A standard library whose digest keeps the bytes it is given. -/
def wakeStdlib : Stdlib :=
  ⟨fun _ => "", fun _ => .invalid, fun _ _ => "",
    fun bytes => String.ofList (bytes.map fun b => Char.ofNat b.toNat)⟩

/-- Ten occurrences in a microsecond. -/
def fastSchedule : IntervalArgs := ⟨"review", "task-1", 1 / 10000000, 0⟩

/-- The second occurrence has the six decimals of the first: the tick passes over it. -/
theorem dropped_wake :
    fastSchedule.due 1 ≤ 1 / 10000000 ∧
      (run wakeStdlib .new [.addInterval fastSchedule, .tick (1 / 10000000) 100]).emitted.length < 100 ∧
      ¬ EmittedOnce (run wakeStdlib .new [.addInterval fastSchedule, .tick (1 / 10000000) 100])
        fastSchedule 1 := by
  have hdue : (run wakeStdlib .new
      [.addInterval fastSchedule, .tick (1 / 10000000) 100]).emitted.map TaskWake.dueAt = [0] := by
    decide +kernel
  refine ⟨by decide +kernel, ?_, ?_⟩
  · have hlen := congrArg List.length hdue
    rw [List.length_map] at hlen
    rw [hlen]
    decide
  · intro honce
    obtain ⟨w, hw, hp⟩ := List.countP_pos_iff.1 (honce ▸ Nat.one_pos)
    have hmem := List.mem_map_of_mem (f := TaskWake.dueAt) hw
    rw [hdue, List.mem_singleton, (of_decide_eq_true hp).2] at hmem
    exact absurd hmem (by decide +kernel)

end VeraMono
