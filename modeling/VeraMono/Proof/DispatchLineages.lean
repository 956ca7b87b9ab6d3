import VeraMono.Framework.Family
import VeraMono.Proof.DispatchGate

/-!
# Lineages at the dispatch gate

Any number of gates, of any lineages and on any databases. An admission names the lineage
it was issued for, but `complete` looks at its work id, holder and token only, and each
lineage numbers its tokens from one. An admission of another lineage is refused as long as
the gate has no open row that it agrees with, and only then.
-/

namespace VeraMono

open Framework Prog DurableDispatchGate

variable {T : Type}

/-! ## Databases -/

structure DatabaseCall (T : Type) where
  path : String
  gate : GateCall T

abbrev DispatchDatabases (T : Type) := String → DispatchStore T

/-- Databases before any gate is opened. -/
def DispatchDatabases.empty : DispatchDatabases T := fun _ => .empty

variable [LinearOrder T] (clock : Clock T)

def databaseProgram (c : DatabaseCall T) : Prog Empty (DispatchDatabases T) Failure (GateReply T) :=
  (DurableDispatchGate.program clock c.gate).on (Component.at c.path)

/-- A pool of gates after a list of events, from new databases. -/
def DatabasePool.run (es : List (Event (DatabaseCall T))) :
    Pool Empty (DispatchDatabases T) Failure (GateReply T) (DatabaseCall T) :=
  (Pool.init DispatchDatabases.empty).run (databaseProgram clock) es

/-! ## Admissions -/

abbrev DatabaseTrace (T : Type) := List (Step Empty (DispatchDatabases T) (DatabaseCall T))

/-- A claim on the lineage issued the admission. -/
def IssuedOn (lineageId : String) (a : DispatchAdmission T) (trace : DatabaseTrace T) : Prop :=
  ∃ st ∈ trace, ∃ args s', st.call.gate = ⟨lineageId, .claim args⟩ ∧
    claim clock lineageId args (st.move.before st.call.path) = .ok (a, s')

/-- Admissions do not cross lineages: what completes a work item of a lineage, or changes
its database, was issued on it, and an admission of another lineage is refused. -/
structure LineagesApart
    (P : Pool Empty (DispatchDatabases T) Failure (GateReply T) (DatabaseCall T)) : Prop where
  returned : ∀ i path lineageId a now,
    P.thread i = some ⟨⟨path, lineageId, .complete a now⟩, some (.ret (.completed true))⟩ →
    IssuedOn clock lineageId a P.trace
  changed : ∀ st ∈ P.trace, ∀ lineageId a now, st.call.gate = ⟨lineageId, .complete a now⟩ →
    st.move.after ≠ st.move.before → IssuedOn clock lineageId a P.trace
  refused : ∀ i path lineageId other a now reply, IssuedOn clock other a P.trace → other ≠ lineageId →
    P.thread i = some ⟨⟨path, lineageId, .complete a now⟩, some (.ret reply)⟩ →
    reply = .completed false ∧ ∀ st ∈ P.trace, st.thread = i → st.move.after = st.move.before

/-- What is asked of a `complete`: its admission was issued by some claim, and is one of the
gate's own lineage or does not agree with an open row of the gate. -/
def AsksOwn (trace : DatabaseTrace T) (st : Step Empty (DispatchDatabases T) (DatabaseCall T)) : Prop :=
  ∀ lineageId a now, st.call.gate = ⟨lineageId, .complete a now⟩ →
    (∃ other, IssuedOn clock other a trace) ∧
      (a.lineageId = lineageId ∨ completable lineageId a now (st.move.before st.call.path) = false)

variable {clock} {lineageId other path : String} {a : DispatchAdmission T} {now : T}

theorem claim_lineage {args : DispatchClaimArgs T} {s s' : DispatchStore T}
    (h : claim clock lineageId args s = .ok (a, s')) : a.lineageId = lineageId := by
  rw [claim] at h
  cases hb : s.budgets.get? lineageId with
  | none =>
    simp only [hb, bind_eq_ok, ite_error_ok, ↓throw_bind] at h
    obtain ⟨_, -, _, -, _, -, _, -, -, -, h⟩ := h
    cases h
  | some b =>
    simp only [hb, bind_eq_ok, ite_error_ok, ↓throw_bind, pure_ok] at h
    obtain ⟨_, -, _, -, _, -, _, -, -, -, -, -, -, -, lease, -, _, -, h⟩ := h
    cases h
    rfl

theorem IssuedOn.lineage_eq {trace : DatabaseTrace T} (h : IssuedOn clock lineageId a trace) :
    a.lineageId = lineageId :=
  have ⟨_, _, _, _, _, hclaim⟩ := h
  claim_lineage hclaim

/-! ## Completions -/

variable {h : List (Move Empty (DispatchStore T))} {s s' : DispatchStore T}

/-- A `complete` that returns true found its row open when it read it. -/
theorem complete_returns
    (hs : ((DurableDispatchGate.program clock ⟨lineageId, .complete a now⟩).after h).Ends s s'
      (.completed true)) : ∃ m ∈ h, completable lineageId a now m.before = true := by
  rw [DurableDispatchGate.program, after_map] at hs
  obtain ⟨done, hs, hdone⟩ := ends_map hs
  cases hdone
  obtain ⟨_, -, hs⟩ := ends_check.1 hs
  have hne (found : Bool) : (if found = true then Prog.txn (markCompleted lineageId a)
      else Pure.pure false : GateProg T Bool) ≠ .ret true := by
    cases found
    · exact fun h => Bool.noConfusion (ret.inj h)
    · exact txn_ne_ret
  obtain ⟨h', m, rfl, hrest⟩ := (ends_read hne).1 hs
  refine ⟨m, List.mem_append_right _ (List.mem_singleton_self m), ?_⟩
  by_contra hfound
  rw [if_neg hfound] at hrest
  exact not_ends_ofExcept (r := .ok false) (after_ret (h := h') false ▸ hrest)

/-- A `complete` that changes the store found its row open when it read it. -/
theorem complete_changes
    (hs : ((DurableDispatchGate.program clock ⟨lineageId, .complete a now⟩).after h).Steps s s')
    (hne : s' ≠ s) : ∃ m ∈ h, completable lineageId a now m.before = true := by
  cases gate_step hs with
  | idle => exact absurd rfl hne
  | opened hop | claimed hop => cases hop
  | completed hop hm hfound =>
    cases hop
    exact ⟨_, hm, hfound⟩

omit [LinearOrder T] in
/-- What a thread found in its database is what one of its steps found there. -/
theorem exists_step {trace : DatabaseTrace T} {i : Nat} {m : Move Empty (DispatchStore T)}
    (hm : m ∈ (Component.at path).moves (hist i trace)) :
    ∃ st ∈ trace, st.thread = i ∧ st.move.before path = m.before := by
  obtain ⟨m', hm', rfl⟩ := List.mem_map.1 hm
  obtain ⟨st, hst, hth, rfl⟩ := mem_hist.1 hm'
  exact ⟨st, hst, hth, rfl⟩

/-! ## The law -/

section Law
variable {es : List (Event (DatabaseCall T))}
  {st : Step Empty (DispatchDatabases T) (DatabaseCall T)} {i : Nat}

/-- A `complete` that found its row open is of an admission of its own lineage. -/
theorem own_of_found (hown : ∀ st ∈ (DatabasePool.run clock es).trace,
      AsksOwn clock (DatabasePool.run clock es).trace st)
    (hst : st ∈ (DatabasePool.run clock es).trace)
    (hcall : st.call = ⟨path, lineageId, .complete a now⟩)
    (hfound : completable lineageId a now (st.move.before path) = true) :
    IssuedOn clock lineageId a (DatabasePool.run clock es).trace := by
  obtain ⟨⟨other, hissued⟩, hlineage | hrow⟩ := hown st hst lineageId a now (by rw [hcall])
  · exact hissued.lineage_eq.symm.trans hlineage ▸ hissued
  · rw [hcall, hfound] at hrow
    cases hrow

theorem call_of_step {P : Pool Empty (DispatchDatabases T) Failure (GateReply T) (DatabaseCall T)}
    (hf : Follows (databaseProgram clock) DispatchDatabases.empty P) {c : DatabaseCall T}
    {p : Option (Prog Empty (DispatchDatabases T) Failure (GateReply T))}
    (hi : P.thread i = some ⟨c, p⟩) (hst : st ∈ P.trace) (hth : st.thread = i) : st.call = c := by
  obtain ⟨t, ht, hc⟩ := hf.calls st hst
  rw [hth, hi] at ht
  cases ht
  exact hc.symm

variable (clock) in
/-- In every run whose `complete` calls ask for their own, admissions do not cross lineages. -/
theorem lineages_apart (es : List (Event (DatabaseCall T)))
    (hown : ∀ st ∈ (DatabasePool.run clock es).trace,
      AsksOwn clock (DatabasePool.run clock es).trace st) :
    LineagesApart clock (DatabasePool.run clock es) := by
  have hf := Pool.follows (databaseProgram clock) DispatchDatabases.empty es
  have hreturned : ∀ i path lineageId a now,
      (DatabasePool.run clock es).thread i =
        some ⟨⟨path, lineageId, .complete a now⟩, some (.ret (.completed true))⟩ →
      IssuedOn clock lineageId a (DatabasePool.run clock es).trace := by
    intro i path lineageId a now hi
    have hne : databaseProgram clock ⟨path, lineageId, .complete a now⟩ ≠ .ret (.completed true) := by
      intro hret
      obtain ⟨_, hret, -⟩ := map_eq_ret (on_eq_ret hret)
      exact check_ne_ret (fun _ => read_ne_ret) hret
    obtain ⟨later, st, earlier, htr, hth, hcall, hs⟩ := hf.returned hne hi
    rw [databaseProgram, after_on] at hs
    obtain ⟨m, hm, hfound⟩ := complete_returns (ends_on hs)
    obtain ⟨st', hst', hth', hbefore⟩ := exists_step hm
    have hmem : st' ∈ (DatabasePool.run clock es).trace :=
      htr ▸ List.mem_append_right _ (List.mem_cons_of_mem _ hst')
    exact own_of_found hown hmem (call_of_step hf hi hmem hth') (hbefore ▸ hfound)
  have hchanged : ∀ st ∈ (DatabasePool.run clock es).trace, ∀ lineageId a now,
      st.call.gate = ⟨lineageId, .complete a now⟩ → st.move.after ≠ st.move.before →
      IssuedOn clock lineageId a (DatabasePool.run clock es).trace := by
    intro st hst lineageId a now hcall hne
    obtain ⟨later, earlier, htr⟩ := List.append_of_mem hst
    obtain ⟨-, -, hs⟩ := (htr ▸ hf.traced).split
    rw [databaseProgram, after_on] at hs
    have hstep := steps_on hs
    have hdiff : st.move.after st.call.path ≠ st.move.before st.call.path :=
      steps_on_ne hs (Function.update_eq_self _ _) hne
    rw [hcall] at hstep
    obtain ⟨m, hm, hfound⟩ := complete_changes hstep hdiff
    obtain ⟨st', hst', hth', hbefore⟩ := exists_step hm
    have hmem : st' ∈ (DatabasePool.run clock es).trace :=
      htr ▸ List.mem_append_right _ (List.mem_cons_of_mem _ hst')
    obtain ⟨t, ht, hc⟩ := hf.calls st hst
    have hcall' : st'.call = ⟨st.call.path, lineageId, .complete a now⟩ := by
      rw [call_of_step hf ht hmem hth', hc, ← hcall]
    exact own_of_found hown hmem hcall' (hbefore ▸ hfound)
  refine ⟨hreturned, hchanged, fun i path lineageId other a now reply hissued hother hi => ?_⟩
  have hforeign (h : IssuedOn clock lineageId a (DatabasePool.run clock es).trace) : False :=
    hother (hissued.lineage_eq.symm.trans h.lineage_eq)
  refine ⟨?_, fun st hst hth => ?_⟩
  · have hret := hf.prog i _ _ hi
    rw [databaseProgram, after_on, DurableDispatchGate.program, after_map] at hret
    obtain ⟨done, -, rfl⟩ := map_eq_ret (on_eq_ret hret.symm)
    cases done with
    | false => rfl
    | true => exact (hforeign (hreturned i path lineageId a now hi)).elim
  · by_contra hne
    have hcall := call_of_step hf hi hst hth
    exact hforeign (hchanged st hst lineageId a now (by rw [hcall]) hne)

end Law

/-! ## Two lineages that agree -/

def secondsClock : Clock Int := ⟨fun _ => true, (· + ·), 0, 1, rfl, by decide⟩

/-- The events of a call that runs from its start to its end, in the given number of steps. -/
def callEvents (i : Nat) (lineageId : String) (op : GateOp Int) (steps : Nat) :
    List (Event (DatabaseCall Int)) :=
  .spawn i ⟨"dispatch.sqlite3", lineageId, op⟩ :: List.replicate steps (.step i)

/-- A gate is opened and a work item claimed on it. -/
def claimEvents (i : Nat) (lineageId : String) : List (Event (DatabaseCall Int)) :=
  callEvents i lineageId (.open (some 1) (some 0) (some 1)) 2 ++
    callEvents (i + 1) lineageId (.claim ⟨"work-1", "worker-a", 0, 10, 0, false⟩) 1

/-- What such a claim returns. -/
def firstAdmission (lineageId : String) : DispatchAdmission Int :=
  ⟨lineageId, "work-1", "worker-a", 1, 10, 1, 0, 0, 0⟩

def ownCompletion : List (Event (DatabaseCall Int)) :=
  claimEvents 0 "lineage-1" ++ callEvents 2 "lineage-1" (.complete (firstAdmission "lineage-1") 1) 2

theorem lineages_apart_own : LineagesApart secondsClock (DatabasePool.run secondsClock ownCompletion) := by
  refine lineages_apart secondsClock ownCompletion fun st hst lineageId a now hcall => ?_
  have hcalls : (DatabasePool.run secondsClock ownCompletion).trace.map (fun st => st.call.gate) =
      [⟨"lineage-1", .complete (firstAdmission "lineage-1") 1⟩,
        ⟨"lineage-1", .complete (firstAdmission "lineage-1") 1⟩,
        ⟨"lineage-1", .claim ⟨"work-1", "worker-a", 0, 10, 0, false⟩⟩,
        ⟨"lineage-1", .open (some 1) (some 0) (some 1)⟩,
        ⟨"lineage-1", .open (some 1) (some 0) (some 1)⟩] := rfl
  have hgate : st.call.gate ∈ (DatabasePool.run secondsClock ownCompletion).trace.map
      (fun st => st.call.gate) := List.mem_map_of_mem hst
  rw [hcalls, hcall] at hgate
  simp only [List.mem_cons, GateCall.mk.injEq, GateOp.complete.injEq, reduceCtorEq, and_false,
    List.not_mem_nil, or_false, or_self] at hgate
  obtain ⟨rfl, rfl, rfl⟩ := hgate
  refine ⟨⟨"lineage-1", ?_⟩, .inl rfl⟩
  have hlen : 2 < (DatabasePool.run secondsClock ownCompletion).trace.length := by decide
  exact ⟨_, List.getElem_mem hlen, ⟨"work-1", "worker-a", 0, 10, 0, false⟩, _, rfl, rfl⟩

/-- Two lineages claim the same work for the same holder; each gives its first token, and the
gate of the second completes the admission of the first. -/
def crossedCompletion : List (Event (DatabaseCall Int)) :=
  claimEvents 0 "lineage-1" ++ claimEvents 2 "lineage-2" ++
    callEvents 4 "lineage-2" (.complete (firstAdmission "lineage-1") 1) 2

theorem admission_crosses :
    ¬ LineagesApart secondsClock (DatabasePool.run secondsClock crossedCompletion) := by
  intro h
  have hissued := h.returned 4 "dispatch.sqlite3" "lineage-2" (firstAdmission "lineage-1") 1 rfl
  exact absurd hissued.lineage_eq (by decide)

end VeraMono
