import VeraMono.Model.DispatchGate

/-!
# Conservation at the dispatch gate

`GateStep` says what one durable step of a gate can do, and everything else follows
from it by induction over the trace. A completion is decided by a read and made by a
later write; `LeaseAge` is what all gates keep true of a lease row, and it makes the
row that is written the one that was read, because a claim always raises its token.
-/

namespace VeraMono

open Framework Prog

variable {T : Type} [LinearOrder T] {clock : Clock T} {lineageId : String}

namespace DurableDispatchGate

/-! ## One step -/

theorem leaseOf_ok {args : DispatchClaimArgs T} {expiresAt : T} {row : Option (DispatchLease T)}
    {lease : DispatchLease T} (h : leaseOf lineageId args expiresAt row = .ok lease) :
    lease.lineageId = lineageId ∧ lease.workId = args.workId ∧ lease.completed = false ∧
      ∀ r, row = some r → r.completed = false ∧ lease.fencingToken = r.fencingToken + 1 := by
  cases row with
  | none =>
    cases h
    exact ⟨rfl, rfl, rfl, fun _ hr => by cases hr⟩
  | some r =>
    simp only [leaseOf, ite_error_ok, ↓throw_bind, pure_ok, Bool.not_eq_true] at h
    obtain ⟨hc, -, rfl⟩ := h
    exact ⟨rfl, rfl, rfl, fun _ hr => by cases hr; exact ⟨hc, rfl⟩⟩

/-- What an admitted claim found and wrote. -/
structure Admits (lineageId : String) (args : DispatchClaimArgs T) (b : DispatchBudget)
    (lease : DispatchLease T) (s s' : DispatchStore T) : Prop where
  budget : s.budgets.get? lineageId = some b
  active : 0 < b.remainingActive
  backend : 0 < b.remainingBackendJobs
  retries : args.retry = true → 0 < b.remainingRetries
  key : lease.key = (lineageId, args.workId)
  fresh : lease.completed = false
  reclaim : ∀ r, s.leases.get? (lineageId, args.workId) = some r →
    r.completed = false ∧ lease.fencingToken = r.fencingToken + 1
  budgets : s'.budgets = s.budgets.update (spend args.retry b)
  leases : s'.leases = s.leases.upsert lease

theorem claim_ok {args : DispatchClaimArgs T} {s s' : DispatchStore T} {a : DispatchAdmission T}
    (h : claim clock lineageId args s = .ok (a, s')) : ∃ b lease, Admits lineageId args b lease s s' := by
  rw [claim] at h
  cases hb : s.budgets.get? lineageId with
  | none =>
    simp only [hb, bind_eq_ok, ite_error_ok, ↓throw_bind] at h
    obtain ⟨_, -, _, -, _, -, _, -, -, -, h⟩ := h
    cases h
  | some b =>
    simp only [hb, bind_eq_ok, ite_error_ok, ↓throw_bind, pure_ok, not_le, not_and] at h
    obtain ⟨_, -, _, -, _, -, _, -, -, -, -, hactive, hbackend, hretry, lease, hlease, _, -, h⟩ := h
    cases h
    obtain ⟨hl, hw, hc, hr⟩ := leaseOf_ok hlease
    exact ⟨b, lease, hb, hactive, hbackend, hretry, Prod.ext hl hw, hc, hr, rfl, rfl⟩

end DurableDispatchGate

open DurableDispatchGate

variable (clock) in
inductive GateStep (c : GateCall T) (h : List (Move Empty (DispatchStore T))) :
    DispatchStore T → DispatchStore T → Prop
  | idle (s : DispatchStore T) :
      (∀ args, c.op = .claim args → (claim clock c.lineageId args s).toBool = false) → GateStep c h s s
  | opened {s : DispatchStore T} {active retries backend : Option Int} {b : DispatchBudget} :
      c.op = .open active retries backend → initialBudget c.lineageId active retries backend = .ok b →
      s.budgets.get? c.lineageId = none →
      GateStep c h s { s with budgets := s.budgets.insert b }
  | claimed {s s' : DispatchStore T} {args : DispatchClaimArgs T} {b : DispatchBudget}
      {lease : DispatchLease T} :
      c.op = .claim args → (claim clock c.lineageId args s).toBool = true →
      Admits c.lineageId args b lease s s' → GateStep c h s s'
  | completed {s : DispatchStore T} {a : DispatchAdmission T} {now : T} {row : DispatchLease T}
      {m : Move Empty (DispatchStore T)} :
      c.op = .complete a now → m ∈ h → completable c.lineageId a now m.before = true →
      s.leases.get? (c.lineageId, a.workId) = some row → row.holder = a.holder →
      row.fencingToken = a.fencingToken → row.completed = false →
      GateStep c h s { s with leases := s.leases.update { row with completed := true } }

variable {c : GateCall T} {h : List (Move Empty (DispatchStore T))} {s s' : DispatchStore T}

theorem initialBudget_ok {active retries backend : Option Int} {b : DispatchBudget}
    (h : initialBudget lineageId active retries backend = .ok b) :
    b.lineageId = lineageId ∧ b.generation = 0 ∧ 0 ≤ b.remainingActive ∧ 0 ≤ b.remainingRetries ∧
      0 ≤ b.remainingBackendJobs := by
  cases active <;> cases retries <;> cases backend <;> simp only [initialBudget, reduceCtorEq] at h
  split at h
  · cases h
  · cases h
    simp only [not_or, not_lt] at *
    simp [*]

theorem openGate_step {active retries backend : Option Int}
    (hop : c.op = .open active retries backend)
    (hs : ((openGate (T := T) c.lineageId active retries backend).after h).Steps s s') :
    GateStep clock c h s s' := by
  have hidle (s : DispatchStore T) : GateStep clock c h s s :=
    .idle s fun args hc => by rw [hop] at hc; cases hc
  simp only [openGate, steps_check, steps_read] at hs
  obtain ⟨_, -, ⟨-, rfl⟩ | ⟨h', m, rfl, hs⟩⟩ := hs
  · exact hidle s'
  · split at hs
    · exact (not_steps_ret (after_ret () ▸ hs)).elim
    · obtain ⟨b, hb, hs⟩ := steps_check.1 hs
      obtain ⟨-, rfl⟩ := steps_txn.1 hs
      rw [insertBudget]
      rw [(initialBudget_ok hb).1]
      cases hrow : s.budgets.get? c.lineageId with
      | some _ => exact hidle s
      | none => exact .opened hop hb hrow

theorem complete_step {a : DispatchAdmission T} {now : T} (hop : c.op = .complete a now)
    (hs : ((complete clock c.lineageId a now).after h).Steps s s') : GateStep clock c h s s' := by
  have hidle (s : DispatchStore T) : GateStep clock c h s s :=
    .idle s fun args hc => by rw [hop] at hc; cases hc
  simp only [complete, steps_check, steps_read] at hs
  obtain ⟨_, -, ⟨-, rfl⟩ | ⟨h', m, rfl, hs⟩⟩ := hs
  · exact hidle s'
  · split at hs
    case isFalse => exact (not_steps_ret (after_ret false ▸ hs)).elim
    case isTrue hfound =>
      obtain ⟨-, rfl⟩ := steps_txn.1 hs
      rw [markCompleted]
      cases hrow : s.leases.get? (c.lineageId, a.workId) with
      | none => exact hidle s
      | some row =>
        simp only
        split
        · rename_i hw
          exact .completed hop (List.mem_append_right _ (List.mem_singleton_self m)) hfound hrow
            hw.1 hw.2.1 hw.2.2
        · exact hidle s

theorem gate_step (hs : ((DurableDispatchGate.program clock c).after h).Steps s s') : GateStep clock c h s s' := by
  rw [DurableDispatchGate.program] at hs
  split at hs <;> rename_i hop <;> rw [after_map, steps_map] at hs
  · exact openGate_step hop hs
  · obtain ⟨-, rfl⟩ := steps_txn.1 hs
    rename_i args
    cases hc : claim clock c.lineageId args s with
    | error e =>
      refine .idle s fun args' hc' => ?_
      cases hop.symm.trans hc'
      rw [hc, Except.toBool]
    | ok r =>
      obtain ⟨b, lease, ha⟩ := claim_ok hc
      exact .claimed hop (by rw [hc, Except.toBool]) ha
  · exact complete_step hop hs

/-! ## What a lease row keeps -/

/-- A lease row is never removed, its token never falls, a completed row stays as it
is, and a row with the same token is the same but for its completion. -/
def LeaseAge (s s' : DispatchStore T) : Prop :=
  ∀ k r, s.leases.get? k = some r → ∃ r', s'.leases.get? k = some r' ∧
    r.fencingToken ≤ r'.fencingToken ∧ (r.completed = true → r' = r) ∧
    (r'.fencingToken = r.fencingToken → r' = { r with completed := r'.completed })

omit [LinearOrder T] in
theorem LeaseAge.refl (s : DispatchStore T) : LeaseAge s s :=
  fun _ r hr => ⟨r, hr, le_rfl, fun _ => rfl, fun _ => rfl⟩

omit [LinearOrder T] in
theorem LeaseAge.trans {s s' s'' : DispatchStore T} (h : LeaseAge s s') (h' : LeaseAge s' s'') :
    LeaseAge s s'' := by
  intro k r hr
  obtain ⟨r', hr', hle, hdone, hsame⟩ := h k r hr
  obtain ⟨r'', hr'', hle', hdone', hsame'⟩ := h' k r' hr'
  refine ⟨r'', hr'', hle.trans hle', fun hc => ?_, fun htok => ?_⟩
  · obtain rfl := hdone hc
    exact hdone' hc
  · have htok' : r'.fencingToken = r.fencingToken := le_antisymm (htok ▸ hle') hle
    rw [hsame' (htok.trans htok'.symm), hsame htok']

theorem GateStep.leaseAge (hs : GateStep clock c h s s') : LeaseAge s s' := by
  cases hs with
  | idle => exact .refl s
  | opened => exact fun k r hr => ⟨r, hr, le_rfl, fun _ => rfl, fun _ => rfl⟩
  | claimed hop hok ha =>
    rename_i args b lease
    intro k r hr
    rw [ha.leases]
    by_cases hk : k = lease.key
    · subst hk
      obtain ⟨hc, htok⟩ := ha.reclaim r (ha.key ▸ hr)
      refine ⟨lease, Table.get?_upsert_self, by omega, fun hc' => ?_, fun heq => by omega⟩
      rw [hc] at hc'
      cases hc'
    · exact ⟨r, (Table.get?_upsert_other hk).trans hr, le_rfl, fun _ => rfl, fun _ => rfl⟩
  | completed hop hm hfound hrow hholder htoken hopen =>
    rename_i a _ row _
    have hkey : ({ row with completed := true } : DispatchLease T).key = row.key := rfl
    intro k r hr
    by_cases hk : k = row.key
    · have heq : r = row := by
        rw [← Table.get?_key hrow, ← hk] at hrow
        exact Option.some.inj (hr.symm.trans hrow)
      subst heq
      refine ⟨{ r with completed := true }, ?_, le_rfl, fun hc => ?_, fun _ => rfl⟩
      · rw [hk]
        exact Table.get?_update_self (v := { r with completed := true }) (hk ▸ hr)
      · rw [hopen] at hc
        cases hc
    · exact ⟨r, (Table.get?_update_other (hkey ▸ hk)).trans hr, le_rfl, fun _ => rfl, fun _ => rfl⟩

/-! ## Counting -/

/-- A trace of gates, newest first. -/
abbrev GateTrace (T : Type) := List (Step Empty (DispatchStore T) (GateCall T))

variable (clock lineageId) in
/-- A step that admits a claim of the lineage. -/
def Admitted (st : Step Empty (DispatchStore T) (GateCall T)) : Bool :=
  match st.call.op with
  | .claim args => st.call.lineageId = lineageId && (claim clock lineageId args st.move.before).toBool
  | _ => false

variable (clock lineageId) in
def AdmittedRetry (st : Step Empty (DispatchStore T) (GateCall T)) : Bool :=
  match st.call.op with
  | .claim args => args.retry && Admitted clock lineageId st
  | _ => false

def IsCompleted (lineageId workId : String) (s : DispatchStore T) : Bool :=
  ((s.leases.get? (lineageId, workId)).map DispatchLease.completed).getD false

/-- A step that completes the work item. -/
def Completes (lineageId workId : String) (st : Step Empty (DispatchStore T) (GateCall T)) : Bool :=
  !IsCompleted lineageId workId st.move.before && IsCompleted lineageId workId st.move.after

/-! ## Conservation -/

variable (clock lineageId) in
/-- The books of a lineage opened with `b₀`, now `b`, against the trace. -/
structure Balanced (b₀ b : DispatchBudget) (trace : GateTrace T) : Prop where
  generation : b.generation = trace.countP (Admitted clock lineageId)
  active : b₀.remainingActive - b.remainingActive = trace.countP (Admitted clock lineageId)
  backend : b₀.remainingBackendJobs - b.remainingBackendJobs = trace.countP (Admitted clock lineageId)
  retries : b₀.remainingRetries - b.remainingRetries = trace.countP (AdmittedRetry clock lineageId)
  nonneg : 0 ≤ b.remainingActive ∧ 0 ≤ b.remainingRetries ∧ 0 ≤ b.remainingBackendJobs

/-- The step that created the budget row of a lineage. -/
def Opens (lineageId : String) (b₀ : DispatchBudget)
    (st : Step Empty (DispatchStore T) (GateCall T)) : Prop :=
  st.call.lineageId = lineageId ∧ (∃ active retries backend,
    st.call.op = .open active retries backend ∧
    initialBudget lineageId active retries backend = .ok b₀) ∧
  st.move.before.budgets.get? lineageId = none ∧ st.move.after.budgets.get? lineageId = some b₀

variable (clock lineageId) in
/-- The books of a lineage, whether or not it has been opened yet. -/
structure Books (s : DispatchStore T) (trace : GateTrace T) : Prop where
  closed : s.budgets.get? lineageId = none →
    trace.countP (Admitted clock lineageId) = 0 ∧ trace.countP (AdmittedRetry clock lineageId) = 0
  opened : ∀ b, s.budgets.get? lineageId = some b →
    ∃ b₀, (∃ st ∈ trace, Opens lineageId b₀ st) ∧ Balanced clock lineageId b₀ b trace

variable {trace : GateTrace T} {i : Nat}

/-- A step that admits no claim and leaves the budget row of the lineage alone. -/
theorem Books.skip (hb : Books clock lineageId s trace)
    (hrow : s'.budgets.get? lineageId = s.budgets.get? lineageId)
    (hadm : Admitted clock lineageId ⟨i, c, .act, s, s'⟩ = false) :
    Books clock lineageId s' (⟨i, c, .act, s, s'⟩ :: trace) := by
  have hretry : AdmittedRetry clock lineageId ⟨i, c, .act, s, s'⟩ = false := by
    rw [AdmittedRetry]
    split
    · rw [hadm, Bool.and_false]
    · rfl
  have hcount : (⟨i, c, .act, s, s'⟩ :: trace).countP (Admitted clock lineageId) =
      trace.countP (Admitted clock lineageId) := List.countP_cons_of_neg (by simp [hadm])
  have hcount' : (⟨i, c, .act, s, s'⟩ :: trace).countP (AdmittedRetry clock lineageId) =
      trace.countP (AdmittedRetry clock lineageId) := List.countP_cons_of_neg (by simp [hretry])
  refine ⟨fun hnone => ?_, fun b hsome => ?_⟩
  · rw [hcount, hcount']
    exact hb.closed (hrow ▸ hnone)
  · obtain ⟨b₀, ⟨st, hst, ho⟩, hbal⟩ := hb.opened b (hrow ▸ hsome)
    exact ⟨b₀, ⟨st, List.mem_cons_of_mem _ hst, ho⟩, hcount ▸ hbal.generation,
      hcount ▸ hbal.active, hcount ▸ hbal.backend, hcount' ▸ hbal.retries, hbal.nonneg⟩

theorem Books.step (hb : Books clock lineageId s trace) (hs : GateStep clock c h s s') :
    Books clock lineageId s' (⟨i, c, .act, s, s'⟩ :: trace) := by
  cases hs with
  | idle hno =>
    refine hb.skip rfl ?_
    rw [Admitted]
    split
    · rename_i args hop
      by_cases hl : c.lineageId = lineageId
      · rw [← hl, hno args hop, Bool.and_false]
      · simp [hl]
    · rfl
  | opened hop hinit hnone =>
    rename_i active retries backend b
    have hadm (s' : DispatchStore T) : Admitted clock lineageId ⟨i, c, .act, s, s'⟩ = false := by
      rw [Admitted, hop]
    obtain ⟨hid, hgen, ha, hr, hk⟩ := initialBudget_ok hinit
    by_cases hl : c.lineageId = lineageId
    · subst hl
      have hself : (s.budgets.insert b).get? c.lineageId = some b :=
        hid ▸ Table.get?_insert_self (hid.symm ▸ hnone)
      obtain ⟨h0, h0'⟩ := hb.closed hnone
      refine ⟨fun hn => ?_, fun b' hb' => ⟨b, ⟨_, List.mem_cons_self, rfl, ⟨_, _, _, hop, hinit⟩, hnone,
        hself⟩, ?_⟩⟩
      · rw [hself] at hn
        cases hn
      · cases hself.symm.trans hb'
        have hretry (s' : DispatchStore T) :
            AdmittedRetry clock c.lineageId ⟨i, c, .act, s, s'⟩ = false := by
          rw [AdmittedRetry, hop]
        constructor
        · simp [hadm, h0, hgen]
        · simp [hadm, h0]
        · simp [hadm, h0]
        · simp [hretry, h0']
        · exact ⟨ha, hr, hk⟩
    · exact hb.skip (Table.get?_insert_other (by rw [hid]; exact Ne.symm hl)) (hadm _)
  | claimed hop hok ha =>
    rename_i args b lease
    by_cases hl : c.lineageId = lineageId
    · subst hl
      obtain ⟨b₀, ⟨st, hst, ho⟩, hbal⟩ := hb.opened b ha.budget
      have hid := Table.get?_key ha.budget
      have hself : s'.budgets.get? c.lineageId = some (spend args.retry b) := by
        rw [ha.budgets, ← hid]
        exact Table.get?_update_self (v := spend args.retry b) (hid.symm ▸ ha.budget)
      have hadm : Admitted clock c.lineageId ⟨i, c, .act, s, s'⟩ = true := by
        rw [Admitted, hop]
        simp [hok]
      have hretry : AdmittedRetry clock c.lineageId ⟨i, c, .act, s, s'⟩ = args.retry := by
        rw [AdmittedRetry, hop]
        simp only [hadm, Bool.and_true]
      refine ⟨fun hn => ?_, fun b' hb' => ⟨b₀, ⟨st, List.mem_cons_of_mem _ hst, ho⟩, ?_⟩⟩
      · rw [hself] at hn
        cases hn
      · cases hself.symm.trans hb'
        obtain ⟨hg, hact, hbk, hrt, hn1, hn2, hn3⟩ := hbal
        have hpos := ha.active
        have hpos' := ha.backend
        have hpos'' := ha.retries
        constructor
        · simp only [spend, List.countP_cons, hadm, if_true]
          omega
        · simp only [spend, List.countP_cons, hadm, if_true]
          omega
        · simp only [spend, List.countP_cons, hadm, if_true]
          omega
        · simp only [spend, List.countP_cons, hretry]
          cases hr : args.retry <;> simp <;> omega
        · simp only [spend]
          cases hr : args.retry
          · simp only [Bool.false_eq_true, if_false]
            omega
          · have := hpos'' hr
            simp only [if_true]
            omega
    · refine hb.skip ?_ ?_
      · rw [ha.budgets]
        refine Table.get?_update_other ?_
        change lineageId ≠ b.lineageId
        rw [Table.get?_key ha.budget]
        exact Ne.symm hl
      · rw [Admitted, hop]
        simp [hl]
  | completed hop =>
    refine hb.skip rfl ?_
    rw [Admitted, hop]

theorem books_traced {s : DispatchStore T} (ht : Traced (DurableDispatchGate.program clock) .empty trace s) :
    Books clock lineageId s trace := by
  induction ht with
  | init => exact ⟨fun _ => ⟨rfl, rfl⟩, fun b hb => by cases hb⟩
  | step i c _ _ hs ih => exact ih.step (gate_step hs)

/-! ## Completions -/

variable {workId : String}

omit [LinearOrder T] in
theorem isCompleted_iff : IsCompleted lineageId workId s = true ↔
    ∃ r, s.leases.get? (lineageId, workId) = some r ∧ r.completed = true := by
  rw [IsCompleted]
  cases s.leases.get? (lineageId, workId) <;> simp

omit [LinearOrder T] in
theorem LeaseAge.completed (ha : LeaseAge s s')
    (hc : IsCompleted lineageId workId s = true) : IsCompleted lineageId workId s' = true := by
  obtain ⟨r, hr, hd⟩ := isCompleted_iff.1 hc
  obtain ⟨r', hr', -, hsame, -⟩ := ha _ r hr
  exact isCompleted_iff.2 ⟨r', hr', hsame hd ▸ hd⟩

theorem claim_completed {args : DispatchClaimArgs T}
    (hc : IsCompleted lineageId args.workId s = true) :
    (claim clock lineageId args s).toBool = false := by
  cases hr : claim clock lineageId args s with
  | error e => rfl
  | ok r =>
    obtain ⟨b, lease, ha⟩ := claim_ok hr
    obtain ⟨row, hrow, hd⟩ := isCompleted_iff.1 hc
    rw [(ha.reclaim row hrow).1] at hd
    cases hd

theorem leaseAge_traced {s : DispatchStore T} (ht : Traced (DurableDispatchGate.program clock) .empty trace s)
    {st : Step Empty (DispatchStore T) (GateCall T)} (hst : st ∈ trace) : LeaseAge st.move.before s :=
  (ht.since LeaseAge.refl (fun _ _ _ => LeaseAge.trans) (fun _ _ _ _ hs => (gate_step hs).leaseAge)
    hst).1

/-- The step is the write of a `complete` whose admission has the holder and the token
of the row as it is, before its lease expired. -/
def CompletedBy (lineageId workId : String) (st : Step Empty (DispatchStore T) (GateCall T)) : Prop :=
  ∃ a now row, st.call = ⟨lineageId, .complete a now⟩ ∧ a.workId = workId ∧
    st.move.before.leases.get? (lineageId, workId) = some row ∧ row.holder = a.holder ∧
    row.fencingToken = a.fencingToken ∧ now < row.expiresAt

theorem completes_by {s : DispatchStore T}
    {st : Step Empty (DispatchStore T) (GateCall T)} (ht : Traced (DurableDispatchGate.program clock) .empty trace s)
    (hst : st ∈ trace) (hc : Completes lineageId workId st = true) :
    CompletedBy lineageId workId st := by
  obtain ⟨later, earlier, rfl⟩ := List.append_of_mem hst
  obtain ⟨hearlier, -, hs⟩ := ht.split
  obtain ⟨hopen, hdone⟩ : IsCompleted lineageId workId st.move.before = false ∧
      IsCompleted lineageId workId st.move.after = true := by
    simpa [Completes] using hc
  have hleases (heq : st.move.after.leases.get? (lineageId, workId) =
      st.move.before.leases.get? (lineageId, workId)) : CompletedBy lineageId workId st := by
    rw [IsCompleted, heq] at hdone
    rw [IsCompleted, hdone] at hopen
    cases hopen
  generalize hb : st.move.before = s₁ at hs hleases hopen
  generalize ha : st.move.after = s₂ at hs hleases hdone
  cases gate_step hs with
  | idle => exact hleases rfl
  | opened => exact hleases rfl
  | claimed hop hok hadm =>
    rename_i args b lease
    rw [hadm.leases] at hleases
    by_cases hk : (lineageId, workId) = lease.key
    · obtain ⟨r, hr, hd⟩ := isCompleted_iff.1 hdone
      rw [hadm.leases, hk, Table.get?_upsert_self] at hr
      cases hr
      rw [hadm.fresh] at hd
      cases hd
    · exact hleases (Table.get?_upsert_other hk)
  | completed hop hm hfound hrow hholder htoken hnot =>
    rename_i a now row m
    by_cases hk : (lineageId, workId) = row.key
    · have hkey : row.key = (st.call.lineageId, a.workId) := Table.get?_key hrow
      obtain ⟨hl, hw⟩ := Prod.ext_iff.1 (hk.trans hkey)
      simp only at hl hw
      obtain ⟨st', hst', -, rfl⟩ := Traced.mem_of_hist hm
      rw [completable] at hfound
      split at hfound
      · cases hfound
      · rename_i row₀ hrow₀
        simp only [Bool.and_eq_true, decide_eq_true_eq] at hfound
        obtain ⟨r, hr, -, -, hsame⟩ := leaseAge_traced hearlier hst' _ _ hrow₀
        rw [hb, hrow] at hr
        cases hr
        have heq := hsame (htoken.trans hfound.1.2.symm)
        refine ⟨a, now, row, ?_, hw.symm, by rw [hb, hl, hw, hrow], hholder, htoken, ?_⟩
        · rw [hl, ← hop]
        · rw [heq]
          exact hfound.2
    · exact hleases (Table.get?_update_other (v := { row with completed := true }) hk)

theorem completes_once {s : DispatchStore T}
    (ht : Traced (DurableDispatchGate.program clock) .empty trace s) :
    trace.countP (Completes lineageId workId) =
      if IsCompleted lineageId workId s = true then 1 else 0 := by
  induction ht with
  | init => rfl
  | step i c _ _ hs ih =>
    have hmono (hc : IsCompleted lineageId workId _ = true) := (gate_step hs).leaseAge.completed hc
    rw [List.countP_cons, ih, Completes]
    revert hmono
    cases IsCompleted lineageId workId _ <;> cases IsCompleted lineageId workId _ <;> simp

/-! ## The law of the gate -/

theorem claim_commitsLast {args : DispatchClaimArgs T} :
    (DurableDispatchGate.program clock ⟨lineageId, .claim args⟩).CommitsLast :=
  CommitsLast.map (CommitsLast.txn (DurableDispatchGate.claim clock lineageId args)) _

variable (clock) in
/-- What holds of the gates after every run. -/
structure Conserved (P : Pool Empty (DispatchStore T) Failure (GateReply T) (GateCall T)) : Prop where
  /-- The budgets and the generation of a lineage move together with its admitted claims. -/
  books : ∀ lineageId b, P.store.budgets.get? lineageId = some b →
    ∃ b₀, (∃ st ∈ P.trace, Opens lineageId b₀ st) ∧ Balanced clock lineageId b₀ b P.trace
  once : ∀ lineageId workId, P.trace.countP (Completes lineageId workId) ≤ 1
  holder : ∀ lineageId workId, ∀ st ∈ P.trace, Completes lineageId workId st = true →
    CompletedBy lineageId workId st
  final : ∀ st ∈ P.trace, ∀ args, st.call.op = .claim args →
    IsCompleted st.call.lineageId args.workId st.move.before = true →
    Admitted clock st.call.lineageId st = false
  failed : ∀ i lineageId args e, P.thread i = some ⟨⟨lineageId, .claim args⟩, some (.raise e)⟩ →
    ∀ st ∈ P.trace, st.thread = i → st.move.after = st.move.before

variable (clock) in
theorem dispatch_conserved (es : List (Event (GateCall T))) :
    Conserved clock ((Pool.init .empty).run (DurableDispatchGate.program clock) es) := by
  have hf := Pool.follows (DurableDispatchGate.program clock) .empty es
  refine ⟨fun lineageId b hb => (books_traced hf.traced).opened b hb, fun lineageId workId => ?_,
    fun lineageId workId st hst hc => completes_by hf.traced hst hc, fun st hst args hop hc => ?_,
    fun i lineageId args e hi st hst hth => hf.raised claim_commitsLast hi hst hth⟩
  · rw [completes_once hf.traced]
    split <;> decide
  · simp only [Admitted, hop, claim_completed hc, Bool.and_false]

end VeraMono
