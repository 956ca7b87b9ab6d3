import VeraMono.Framework.Contract
import Mathlib.Data.Fintype.Basic

/-!
# Interleavings, crashes and the pool theorem

A `Pool` is a store shared by any number of calls, each a thread running its program. An `Event`
starts a call, lets a thread make one move, lets a thread that waits for a lock give up, or
crashes a thread, which frees its locks and leaves its durable writes.
-/

namespace VeraMono.Framework

variable {L σ ε α C : Type}

/-- A call and what is left of its program, `none` once it crashed. -/
structure Thread (L σ ε α C : Type) where
  call : C
  prog : Option (Prog L σ ε α)

/-- A move of the pool: the thread that made it and the call that thread runs. -/
structure Step (L σ C : Type) where
  thread : Nat
  call : C
  move : Move L σ

structure Pool (L σ ε α C : Type) where
  store : σ
  owner : L → Option Nat
  thread : Nat → Option (Thread L σ ε α C)
  trace : List (Step L σ C)

inductive Event (C : Type)
  | spawn (i : Nat) (c : C)
  | step (i : Nat)
  | timeout (i : Nat)
  | crash (i : Nat)

/-- The same event of a system with more calls. -/
def Event.map {C' : Type} (f : C → C') : Event C → Event C'
  | .spawn i c => .spawn i (f c)
  | .step i => .step i
  | .timeout i => .timeout i
  | .crash i => .crash i

/-- The moves of one thread. -/
def hist (i : Nat) (trace : List (Step L σ C)) : List (Move L σ) :=
  trace.filterMap fun st => if st.thread = i then some st.move else none

@[simp] theorem hist_cons_self (i : Nat) (c : C) (m : Move L σ) (trace : List (Step L σ C)) :
    hist i (⟨i, c, m⟩ :: trace) = m :: hist i trace := by simp [hist]

theorem hist_cons_other {i j : Nat} (hij : i ≠ j) (c : C) (m : Move L σ)
    (trace : List (Step L σ C)) : hist j (⟨i, c, m⟩ :: trace) = hist j trace := by simp [hist, hij]

theorem mem_hist {i : Nat} {m : Move L σ} {trace : List (Step L σ C)} :
    m ∈ hist i trace ↔ ∃ st ∈ trace, st.thread = i ∧ st.move = m := by
  simp only [hist, List.mem_filterMap, Option.ite_none_right_eq_some, Option.some.injEq]

/-- The last move of a thread is a step of the trace. -/
theorem hist_split {i : Nat} {m : Move L σ} {rest : List (Move L σ)} {trace : List (Step L σ C)}
    (h : hist i trace = m :: rest) : ∃ later st earlier, trace = later ++ st :: earlier ∧
      st.thread = i ∧ st.move = m ∧ hist i earlier = rest := by
  obtain ⟨later, st, earlier, rfl, -, hst, hrest⟩ := List.filterMap_eq_cons_iff.1 h
  rw [Option.ite_none_right_eq_some] at hst
  exact ⟨later, st, earlier, rfl, hst.1, Option.some.inj hst.2, hrest⟩

/-- The locks held by a thread that made these moves. -/
def holding [DecidableEq L] : List (Move L σ) → Finset L
  | [] => ∅
  | m :: h =>
    match m.kind with
    | .acquire l => insert l (holding h)
    | .release l => (holding h).erase l
    | .act | .timeout _ => holding h

namespace Pool

/-- A pool before any call. -/
def init (s : σ) : Pool L σ ε α C := ⟨s, fun _ => none, fun _ => none, []⟩

/-- Thread `i` makes a move to `s'` and goes on with `next`. -/
def move (P : Pool L σ ε α C) (i : Nat) (c : C) (k : Kind L) (s' : σ)
    (next : Prog L σ ε α) : Pool L σ ε α C where
  store := s'
  owner := P.owner
  thread := Function.update P.thread i (some ⟨c, some next⟩)
  trace := ⟨i, c, k, P.store, s'⟩ :: P.trace

variable [DecidableEq L]

/-- The next move of a thread. A lock that another holds blocks it. -/
def stepThread (P : Pool L σ ε α C) (i : Nat) (c : C) : Prog L σ ε α → Pool L σ ε α C
  | .ret _ => P
  | .raise _ => P
  | .atom act next => P.move i c .act (act P.store) (next P.store)
  | .acquire l next _ =>
    match P.owner l with
    | none => { P.move i c (.acquire l) P.store next with owner := Function.update P.owner l (some i) }
    | some _ => P
  | .release l next =>
    { P.move i c (.release l) P.store next with
      owner := if P.owner l = some i then Function.update P.owner l none else P.owner }

/-- A thread that waits for a lock gives up. -/
def timeoutThread (P : Pool L σ ε α C) (i : Nat) (c : C) : Prog L σ ε α → Pool L σ ε α C
  | .acquire l _ timeout => P.move i c (.timeout l) P.store timeout
  | _ => P

def exec (program : C → Prog L σ ε α) (P : Pool L σ ε α C) : Event C → Pool L σ ε α C
  | .spawn i c =>
    match P.thread i with
    | none => { P with thread := Function.update P.thread i (some ⟨c, some (program c)⟩) }
    | some _ => P
  | .step i =>
    match P.thread i with
    | some ⟨c, some p⟩ => P.stepThread i c p
    | _ => P
  | .timeout i =>
    match P.thread i with
    | some ⟨c, some p⟩ => P.timeoutThread i c p
    | _ => P
  | .crash i =>
    match P.thread i with
    | some t =>
      { P with
        thread := Function.update P.thread i (some { t with prog := none })
        owner := fun l => if P.owner l = some i then none else P.owner l }
    | none => P

/-- The pool after a list of events. -/
def run (program : C → Prog L σ ε α) (P : Pool L σ ε α C) (es : List (Event C)) :
    Pool L σ ε α C := es.foldl (exec program) P

/-- Thread `i` has run the call `c` to its end. -/
def Finished (P : Pool L σ ε α C) (i : Nat) (c : C) : Prop :=
  ∃ p, P.thread i = some ⟨c, some p⟩ ∧ p.ended = true

/-- Whether thread `i` has run to its end. -/
def ended (P : Pool L σ ε α C) (i : Nat) : Bool :=
  match P.thread i with
  | some ⟨_, some p⟩ => p.ended
  | _ => false

omit [DecidableEq L] in
theorem thread_update {f : Nat → Option (Thread L σ ε α C)} {i j : Nat}
    {t t' : Thread L σ ε α C} (h : Function.update f i (some t') j = some t) :
    (i = j ∧ t' = t) ∨ f j = some t := by
  by_cases hij : j = i
  · subst hij
    rw [Function.update_self] at h
    exact .inl ⟨rfl, Option.some.inj h⟩
  · rw [Function.update_of_ne hij] at h
    exact .inr h

theorem stepThread_thread {P : Pool L σ ε α C} {i j : Nat} {c : C} {p : Prog L σ ε α}
    {t : Thread L σ ε α C} (hi : P.thread i = some ⟨c, some p⟩)
    (h : (P.stepThread i c p).thread j = some t) : ∃ t₀, P.thread j = some t₀ ∧ t₀.call = t.call := by
  have hmove {next : Prog L σ ε α}
      (h : Function.update P.thread i (some ⟨c, some next⟩) j = some t) :
      ∃ t₀, P.thread j = some t₀ ∧ t₀.call = t.call := by
    rcases thread_update h with ⟨rfl, rfl⟩ | h
    · exact ⟨_, hi, rfl⟩
    · exact ⟨t, h, rfl⟩
  cases p with
  | ret | raise => exact ⟨t, h, rfl⟩
  | atom | release => exact hmove h
  | acquire l next timeout =>
    rw [stepThread] at h
    split at h
    · exact hmove h
    · exact ⟨t, h, rfl⟩

theorem call_exec {program : C → Prog L σ ε α} {P : Pool L σ ε α C} {e : Event C} {i : Nat}
    {t : Thread L σ ε α C} (h : (P.exec program e).thread i = some t) :
    (∃ t₀, P.thread i = some t₀ ∧ t₀.call = t.call) ∨ e = .spawn i t.call := by
  cases e with
  | spawn j c =>
    simp only [exec] at h
    split at h
    · rcases thread_update h with ⟨rfl, rfl⟩ | h
      · exact .inr rfl
      · exact .inl ⟨t, h, rfl⟩
    · exact .inl ⟨t, h, rfl⟩
  | step j =>
    simp only [exec] at h
    split at h
    · exact .inl (stepThread_thread ‹_› h)
    · exact .inl ⟨t, h, rfl⟩
  | timeout j =>
    simp only [exec] at h
    split at h
    · rename_i c p hj
      cases p with
      | acquire l next timeout =>
        rcases thread_update h with ⟨rfl, rfl⟩ | h
        · exact .inl ⟨_, hj, rfl⟩
        · exact .inl ⟨t, h, rfl⟩
      | _ => exact .inl ⟨t, h, rfl⟩
    · exact .inl ⟨t, h, rfl⟩
  | crash j =>
    simp only [exec] at h
    split at h
    · rename_i t₀ hj
      rcases thread_update h with ⟨rfl, rfl⟩ | h
      · exact .inl ⟨t₀, hj, rfl⟩
      · exact .inl ⟨t, h, rfl⟩
    · exact .inl ⟨t, h, rfl⟩

theorem call_run {program : C → Prog L σ ε α} {P : Pool L σ ε α C} {es : List (Event C)} {i : Nat}
    {t : Thread L σ ε α C} (h : (P.run program es).thread i = some t) :
    (∃ t₀, P.thread i = some t₀ ∧ t₀.call = t.call) ∨ .spawn i t.call ∈ es := by
  induction es generalizing P with
  | nil => exact .inl ⟨t, h, rfl⟩
  | cons e es ih =>
    rcases ih h with ⟨t₀, ht₀, hc⟩ | h
    · rcases call_exec ht₀ with ⟨t₁, ht₁, hc'⟩ | rfl
      · exact .inl ⟨t₁, ht₁, hc'.trans hc⟩
      · exact .inr (hc ▸ List.mem_cons_self)
    · exact .inr (List.mem_cons_of_mem _ h)

/-- The call of a thread that ended in a run from an empty pool. -/
theorem finished_run {program : C → Prog L σ ε α} {s : σ} {es : List (Event C)} {i : Nat} {c : C}
    (hc : ∀ c', .spawn i c' ∈ es → c' = c) (h : ((init s).run program es).ended i = true) :
    ((init s).run program es).Finished i c := by
  rw [ended] at h
  split at h
  · rename_i c' p hi
    rcases call_run hi with ⟨_, h₀, _⟩ | hmem
    · cases h₀
    · exact ⟨p, hc _ hmem ▸ hi, h⟩
  · cases h

/-- The locks a thread holds. -/
def held [Fintype L] (P : Pool L σ ε α C) (i : Nat) : Finset L :=
  Finset.univ.filter fun l => P.owner l = some i

section
variable [Fintype L] {P P' : Pool L σ ε α C} {i j : Nat} {l : L}

omit [DecidableEq L] in
@[simp] theorem mem_held : l ∈ P.held i ↔ P.owner l = some i := by simp [held]

theorem held_acquire_self (h : P'.owner = Function.update P.owner l (some i)) :
    P'.held i = insert l (P.held i) := by
  ext l'
  rw [mem_held, Finset.mem_insert, mem_held, h]
  by_cases hl : l' = l
  · simp [hl]
  · simp [hl]

theorem held_acquire_other (hl : P.owner l = none) (hij : i ≠ j)
    (h : P'.owner = Function.update P.owner l (some i)) : P'.held j = P.held j := by
  ext l'
  rw [mem_held, mem_held, h]
  by_cases hl' : l' = l
  · simp [hl', hl, hij]
  · simp [hl']

theorem held_release_self
    (h : P'.owner = if P.owner l = some i then Function.update P.owner l none else P.owner) :
    P'.held i = (P.held i).erase l := by
  ext l'
  rw [mem_held, Finset.mem_erase, mem_held, h]
  by_cases hl' : l' = l
  · subst hl'
    split <;> simp_all
  · split <;> simp [hl']

theorem held_release_other (hij : i ≠ j)
    (h : P'.owner = if P.owner l = some i then Function.update P.owner l none else P.owner) :
    P'.held j = P.held j := by
  ext l'
  rw [mem_held, mem_held, h]
  split
  · rename_i ho
    by_cases hl' : l' = l
    · simp [hl', ho, hij]
    · simp [hl']
  · rfl

omit [DecidableEq L] in
theorem held_crash_other (hij : i ≠ j)
    (h : P'.owner = fun l => if P.owner l = some i then none else P.owner l) :
    P'.held j = P.held j := by
  ext l'
  simp only [mem_held, h]
  split
  · rename_i ho
    simp [ho, hij]
  · rfl

omit [DecidableEq L] in
theorem held_disjoint (hij : i ≠ j) : Disjoint (P.held i) (P.held j) := by
  rw [Finset.disjoint_left]
  intro l hi hj
  rw [mem_held] at hi hj
  exact hij (Option.some.inj (hi.symm.trans hj))

end

end Pool

/-- What the calls of a system assume and promise, over one invariant of the store. -/
structure Discipline (L σ C : Type) where
  inv : σ → Prop
  rely : C → List (Move L σ) → Finset L → σ → σ → Prop
  guar : C → List (Move L σ) → Finset L → σ → σ → Prop

def Discipline.contract (D : Discipline L σ C) (c : C) : Contract L σ := ⟨D.inv, D.rely c, D.guar c⟩

/-- A trace from `s₀` in which every atom keeps its call's promise. -/
inductive Valid [DecidableEq L] (D : Discipline L σ C) (s₀ : σ) : List (Step L σ C) → σ → Prop
  | init : D.inv s₀ → Valid D s₀ [] s₀
  | act {trace : List (Step L σ C)} {s s' : σ} (i : Nat) (c : C) :
      Valid D s₀ trace s → D.inv s' →
      D.guar c (hist i trace) (holding (hist i trace)) s s' →
      Valid D s₀ (⟨i, c, .act, s, s'⟩ :: trace) s'
  | lock {trace : List (Step L σ C)} {s : σ} (i : Nat) (c : C) (k : Kind L) :
      k ≠ .act → Valid D s₀ trace s → Valid D s₀ (⟨i, c, k, s, s⟩ :: trace) s

theorem Valid.inv [DecidableEq L] {D : Discipline L σ C} {s₀ s : σ} {trace : List (Step L σ C)}
    (h : Valid D s₀ trace s) : D.inv s := by
  induction h with
  | init hi => exact hi
  | act _ _ _ hi _ => exact hi
  | lock _ _ _ _ _ ih => exact ih

namespace Valid

variable [DecidableEq L] {D : Discipline L σ C} {s₀ s : σ} {trace later earlier : List (Step L σ C)}
  {st : Step L σ C}

/-- The trace up to one of its steps, and the promise that step kept. -/
theorem split (h : Valid D s₀ (later ++ st :: earlier) s) :
    Valid D s₀ earlier st.move.before ∧ Valid D s₀ (st :: earlier) st.move.after ∧
      (st.move.kind = .act → D.guar st.call (hist st.thread earlier)
        (holding (hist st.thread earlier)) st.move.before st.move.after) := by
  induction later generalizing s with
  | nil =>
    cases h with
    | act i c hv hi hg => exact ⟨hv, .act i c hv hi hg, fun _ => hg⟩
    | lock i c k hk hv => exact ⟨hv, .lock i c k hk hv, fun h => (hk h).elim⟩
  | cons st' later ih =>
    cases h with
    | act i c hv _ _ => exact ih hv
    | lock i c k _ hv => exact ih hv

theorem init_trace (h : Valid D s₀ (st :: earlier) s) : Valid D s₀ earlier st.move.before := by
  cases h with
  | act i c hv _ _ => exact hv
  | lock i c k _ hv => exact hv

/-- What every promise preserves still holds at the end of the trace. -/
theorem persist {P : σ → Prop}
    (hP : ∀ c h held s s', D.inv s → D.guar c h held s s' → P s → P s')
    (h : Valid D s₀ trace s) (hst : st ∈ trace) (hs : P st.move.after) : P s := by
  induction h with
  | init => cases hst
  | act i c hv _ hg ih =>
    rcases List.mem_cons.1 hst with rfl | hst
    · exact hs
    · exact hP _ _ _ _ _ hv.inv hg (ih hst)
  | lock i c k _ hv ih =>
    rcases List.mem_cons.1 hst with rfl | hst
    · exact hs
    · exact ih hst

theorem lock_move (h : Valid D s₀ trace s) (hst : st ∈ trace) (hk : st.move.kind ≠ .act) :
    st.move.after = st.move.before := by
  induction h with
  | init => cases hst
  | act i c _ _ _ ih =>
    rcases List.mem_cons.1 hst with rfl | hst
    · exact (hk rfl).elim
    · exact ih hst
  | lock i c k _ _ ih =>
    rcases List.mem_cons.1 hst with rfl | hst
    · rfl
    · exact ih hst

theorem persist_before {P : σ → Prop}
    (hP : ∀ c h held s s', D.inv s → D.guar c h held s s' → P s → P s')
    (h : Valid D s₀ trace s) (hst : st ∈ trace) (hs : P st.move.before) : P s := by
  refine h.persist hP hst ?_
  obtain ⟨later, earlier, rfl⟩ := List.append_of_mem hst
  obtain ⟨hv, -, hg⟩ := h.split
  by_cases hk : st.move.kind = .act
  · exact hP _ _ _ _ _ hv.inv (hg hk) hs
  · rw [h.lock_move hst hk]
    exact hs

end Valid

section
variable [DecidableEq L] [Fintype L]

/-- What is true of every pool a disciplined system reaches. -/
structure Sound (D : Discipline L σ C) (Q : C → Post L σ ε α) (s₀ : σ) (P : Pool L σ ε α C) :
    Prop where
  valid : Valid D s₀ P.trace P.store
  fresh : ∀ i, P.thread i = none → hist i P.trace = [] ∧ P.held i = ∅
  calls : ∀ st ∈ P.trace, ∃ t, P.thread st.thread = some t ∧ t.call = st.call
  held : ∀ i c p, P.thread i = some ⟨c, some p⟩ → P.held i = holding (hist i P.trace)
  safe : ∀ i c p, P.thread i = some ⟨c, some p⟩ →
    Safe (D.contract c) (Q c) p (P.held i) (hist i P.trace) P.store
  /-- Since a thread's last move only the others have moved, within its rely. -/
  since : ∀ i c p m rest, P.thread i = some ⟨c, some p⟩ → hist i P.trace = m :: rest →
    (D.contract c).Env (m :: rest) (P.held i) m.after P.store

variable {D : Discipline L σ C} {Q : C → Post L σ ε α} {s₀ : σ} {P : Pool L σ ε α C}

theorem Sound.inv (hP : Sound D Q s₀ P) : D.inv P.store := hP.valid.inv

/-- A move of thread `i` that keeps its promise, which the others rely on. -/
theorem Sound.move (hP : Sound D Q s₀ P) {i : Nat} {c : C} {p next : Prog L σ ε α} {k : Kind L}
    {s' : σ} {o : L → Option Nat} {held' : Finset L} {P' : Pool L σ ε α C}
    (hP' : P' = { P.move i c k s' next with owner := o })
    (hi : P.thread i = some ⟨c, some p⟩) (hself : P'.held i = held')
    (hheld : held' = holding (⟨k, P.store, s'⟩ :: hist i P.trace))
    (hother : ∀ j, i ≠ j → P'.held j = P.held j)
    (hvalid : Valid D s₀ (⟨i, c, k, P.store, s'⟩ :: P.trace) s')
    (hsafe : Safe (D.contract c) (Q c) next held' (⟨k, P.store, s'⟩ :: hist i P.trace) s')
    (hrely : ∀ j cj pj, i ≠ j → P.thread j = some ⟨cj, some pj⟩ →
      (D.contract cj).Env (hist j P.trace) (P.held j) P.store s') :
    Sound D Q s₀ P' := by
  subst hP'
  have hthread (j : Nat) (hij : i ≠ j) :
      ({ P.move i c k s' next with owner := o } : Pool L σ ε α C).thread j = P.thread j :=
    Function.update_of_ne hij.symm _ _
  have hnew : ({ P.move i c k s' next with owner := o } : Pool L σ ε α C).thread i =
      some ⟨c, some next⟩ := Function.update_self ..
  have hhist (j : Nat) (hij : i ≠ j) :
      hist j ({ P.move i c k s' next with owner := o } : Pool L σ ε α C).trace =
        hist j P.trace := hist_cons_other hij ..
  have hhist' : hist i ({ P.move i c k s' next with owner := o } : Pool L σ ε α C).trace =
      ⟨k, P.store, s'⟩ :: hist i P.trace := hist_cons_self ..
  refine ⟨hvalid, fun j hj => ?_, fun st hst => ?_, fun j cj pj hj => ?_,
    fun j cj pj hj => ?_, fun j cj pj m rest hj hm => ?_⟩
  · by_cases hij : i = j
    · subst hij
      rw [hnew] at hj
      cases hj
    · rw [hthread j hij] at hj
      rw [hhist j hij, hother j hij]
      exact hP.fresh j hj
  · rcases List.mem_cons.1 hst with rfl | hst
    · exact ⟨_, hnew, rfl⟩
    · obtain ⟨t, ht, hc⟩ := hP.calls st hst
      by_cases hij : i = st.thread
      · rw [← hij] at ht ⊢
        rw [hi] at ht
        exact ⟨_, hnew, by rw [← hc, ← Option.some.inj ht]⟩
      · exact ⟨t, by rw [hthread _ hij, ht], hc⟩
  · by_cases hij : i = j
    · subst hij
      rw [hself, hhist', hheld]
    · rw [hthread j hij] at hj
      rw [hother j hij, hhist j hij, hP.held j cj pj hj]
  · by_cases hij : i = j
    · subst hij
      rw [hnew] at hj
      cases hj
      rw [hself, hhist']
      exact hsafe
    · rw [hthread j hij] at hj
      rw [hother j hij, hhist j hij]
      exact (hP.safe j cj pj hj).env (hrely j cj pj hij hj)
  · by_cases hij : i = j
    · subst hij
      rw [hhist'] at hm
      cases hm
      exact .refl
    · rw [hthread j hij] at hj
      rw [hhist j hij] at hm
      rw [hother j hij]
      exact (hP.since j cj pj m rest hj hm).trans (hm ▸ hrely j cj pj hij hj)

theorem Sound.spawn {program : C → Prog L σ ε α} (hP : Sound D Q s₀ P) {i : Nat} {c : C}
    (hc : ∀ s, D.inv s → Safe (D.contract c) (Q c) (program c) ∅ [] s) :
    Sound D Q s₀ (P.exec program (.spawn i c)) := by
  simp only [Pool.exec]
  split
  case h_2 => exact hP
  case h_1 hi =>
    have hthread (j : Nat) (hij : i ≠ j) :
        Function.update P.thread i (some ⟨c, some (program c)⟩) j = P.thread j :=
      Function.update_of_ne hij.symm _ _
    refine ⟨hP.valid, fun j hj => ?_, fun st hst => ?_, fun j cj pj hj => ?_,
      fun j cj pj hj => ?_, fun j cj pj m rest hj hm => ?_⟩
    · by_cases hij : i = j
      · subst hij
        exact hP.fresh i hi
      · exact hP.fresh j (by simpa only [hthread j hij] using hj)
    · obtain ⟨t, ht, hc⟩ := hP.calls st hst
      have hij : i ≠ st.thread := fun h => by rw [h, ht] at hi; cases hi
      exact ⟨t, by simpa only [hthread _ hij] using ht, hc⟩
    · by_cases hij : i = j
      · subst hij
        obtain ⟨hh, hl⟩ := hP.fresh i hi
        change P.held i = holding (hist i P.trace)
        rw [hl, hh, holding]
      · exact hP.held j cj pj (by simpa only [hthread j hij] using hj)
    · by_cases hij : i = j
      · subst hij
        simp only [Function.update_self, Option.some.injEq, Thread.mk.injEq] at hj
        obtain ⟨rfl, rfl⟩ := hj
        obtain ⟨hh, hl⟩ := hP.fresh i hi
        change Safe _ _ _ (P.held i) (hist i P.trace) P.store
        rw [hl, hh]
        exact hc _ hP.inv
      · exact hP.safe j cj pj (by simpa only [hthread j hij] using hj)
    · by_cases hij : i = j
      · subst hij
        rw [(hP.fresh i hi).1] at hm
        cases hm
      · exact hP.since j cj pj m rest (by simpa only [hthread j hij] using hj) hm

theorem Sound.crash {program : C → Prog L σ ε α} (hP : Sound D Q s₀ P) {i : Nat} :
    Sound D Q s₀ (P.exec program (.crash i)) := by
  simp only [Pool.exec]
  split
  case h_2 => exact hP
  case h_1 t hi =>
    have hthread (j : Nat) (hij : i ≠ j) :
        Function.update P.thread i (some { t with prog := none }) j = P.thread j :=
      Function.update_of_ne hij.symm _ _
    refine ⟨hP.valid, fun j hj => ?_, fun st hst => ?_, fun j cj pj hj => ?_,
      fun j cj pj hj => ?_, fun j cj pj m rest hj hm => ?_⟩
    · by_cases hij : i = j
      · subst hij
        simp only [Function.update_self, reduceCtorEq] at hj
      · rw [Pool.held_crash_other (P := P) hij rfl]
        exact hP.fresh j (by simpa only [hthread j hij] using hj)
    · obtain ⟨t', ht, hc⟩ := hP.calls st hst
      by_cases hij : i = st.thread
      · rw [← hij, hi] at ht
        refine ⟨{ t with prog := none }, ?_, by rw [← hc, ← Option.some.inj ht]⟩
        rw [← hij]
        exact Function.update_self ..
      · exact ⟨t', by simpa only [hthread _ hij] using ht, hc⟩
    · by_cases hij : i = j
      · subst hij
        simp only [Function.update_self, Option.some.injEq, Thread.mk.injEq, reduceCtorEq,
          and_false] at hj
      · rw [Pool.held_crash_other (P := P) hij rfl]
        exact hP.held j cj pj (by simpa only [hthread j hij] using hj)
    · by_cases hij : i = j
      · subst hij
        simp only [Function.update_self, Option.some.injEq, Thread.mk.injEq, reduceCtorEq,
          and_false] at hj
      · rw [Pool.held_crash_other (P := P) hij rfl]
        exact hP.safe j cj pj (by simpa only [hthread j hij] using hj)
    · by_cases hij : i = j
      · subst hij
        simp only [Function.update_self, Option.some.injEq, Thread.mk.injEq, reduceCtorEq,
          and_false] at hj
      · rw [Pool.held_crash_other (P := P) hij rfl]
        exact hP.since j cj pj m rest (by simpa only [hthread j hij] using hj) hm

/-- A lock move of thread `i`. -/
theorem Sound.lock (hP : Sound D Q s₀ P) {i : Nat} {c : C} {p next : Prog L σ ε α} {k : Kind L}
    {o : L → Option Nat} {held' : Finset L} {P' : Pool L σ ε α C} (hk : k ≠ .act)
    (hP' : P' = { P.move i c k P.store next with owner := o })
    (hi : P.thread i = some ⟨c, some p⟩) (hself : P'.held i = held')
    (hheld : held' = holding (⟨k, P.store, P.store⟩ :: hist i P.trace))
    (hother : ∀ j, i ≠ j → P'.held j = P.held j)
    (hsafe : Safe (D.contract c) (Q c) next held' (⟨k, P.store, P.store⟩ :: hist i P.trace)
      P.store) : Sound D Q s₀ P' :=
  hP.move hP' hi hself hheld hother (.lock i c k hk hP.valid) hsafe fun _ _ _ _ _ => .refl

/-- What is asked of a system: its calls keep their contracts, and a move that keeps
the promise of one call is one that every call with other locks relies on. -/
structure Disciplined (D : Discipline L σ C) (Q : C → Post L σ ε α) (program : C → Prog L σ ε α) :
    Prop where
  spawn : ∀ c s, D.inv s → Safe (D.contract c) (Q c) (program c) ∅ [] s
  rely : ∀ {c c' h h' held held' s s'}, Disjoint held held' → D.inv s → D.inv s' →
    D.guar c h held s s' → D.rely c' h' held' s s'

variable {program : C → Prog L σ ε α}

theorem Sound.step (hP : Sound D Q s₀ P) (hD : Disciplined D Q program) {i : Nat} :
    Sound D Q s₀ (P.exec program (.step i)) := by
  match hi : P.thread i with
  | none => simpa only [Pool.exec, hi] using hP
  | some ⟨c, none⟩ => simpa only [Pool.exec, hi] using hP
  | some ⟨c, some p⟩ =>
    have hexec : P.exec program (.step i) = P.stepThread i c p := by simp only [Pool.exec, hi]
    have hsafe := hP.safe i c p hi
    rw [hexec]
    match p, hi, hexec, hsafe with
    | .ret a, hi, hexec, hsafe => exact hP
    | .raise e, hi, hexec, hsafe => exact hP
    | .atom act next, hi, hexec, hsafe =>
      obtain ⟨hi', hg, hn⟩ := hsafe P.store .refl
      have hheld := hP.held i c _ hi
      exact hP.move (o := P.owner) rfl hi rfl hheld (fun _ _ => rfl)
        (.act i c hP.valid hi' (hheld ▸ hg)) hn fun j cj pj hij hj =>
          .single ⟨hP.inv, hi', hD.rely (Pool.held_disjoint hij) hP.inv hi' hg⟩
    | .acquire l next timeout, hi, hexec, hsafe =>
      match hl : P.owner l with
      | some o => simpa only [Pool.stepThread, hl] using hP
      | none =>
        have hnot : l ∉ P.held i := by simp [hl]
        simp only [Pool.stepThread, hl]
        exact hP.lock (fun h => by cases h) rfl hi (Pool.held_acquire_self rfl)
          (by rw [hP.held i c _ hi, holding])
          (fun j hij => Pool.held_acquire_other hl hij rfl) ((hsafe P.store .refl).1 hnot)
    | .release l next, hi, hexec, hsafe =>
      exact hP.lock (fun h => by cases h) rfl hi (Pool.held_release_self rfl)
        (by rw [hP.held i c _ hi, holding])
        (fun j hij => Pool.held_release_other hij rfl) (hsafe P.store .refl)

theorem Sound.timeout (hP : Sound D Q s₀ P) {i : Nat} :
    Sound D Q s₀ (P.exec program (.timeout i)) := by
  match hi : P.thread i with
  | none => simpa only [Pool.exec, hi] using hP
  | some ⟨c, none⟩ => simpa only [Pool.exec, hi] using hP
  | some ⟨c, some (.ret a)⟩ => simpa only [Pool.exec, hi, Pool.timeoutThread] using hP
  | some ⟨c, some (.raise e)⟩ => simpa only [Pool.exec, hi, Pool.timeoutThread] using hP
  | some ⟨c, some (.atom act next)⟩ => simpa only [Pool.exec, hi, Pool.timeoutThread] using hP
  | some ⟨c, some (.release l next)⟩ => simpa only [Pool.exec, hi, Pool.timeoutThread] using hP
  | some ⟨c, some (.acquire l next timeout)⟩ =>
    simp only [Pool.exec, hi, Pool.timeoutThread]
    exact hP.lock (o := P.owner) (fun h => by cases h) rfl hi rfl
      (hP.held i c _ hi) (fun _ _ => rfl)
      ((hP.safe i c _ hi) P.store .refl).2

theorem Sound.init (hs : D.inv s₀) : Sound D Q s₀ (Pool.init s₀ : Pool L σ ε α C) where
  valid := .init hs
  fresh i _ := ⟨rfl, by ext l; simp [Pool.init]⟩
  calls st hst := by cases hst
  held i c p hi := by cases hi
  safe i c p hi := by cases hi
  since i c p m rest hi := by cases hi

theorem Sound.exec (hP : Sound D Q s₀ P) (hD : Disciplined D Q program) :
    ∀ e : Event C, Sound D Q s₀ (P.exec program e)
  | .spawn _ c => hP.spawn (hD.spawn c)
  | .step _ => hP.step hD
  | .timeout _ => hP.timeout
  | .crash _ => hP.crash

theorem Sound.run (hP : Sound D Q s₀ P) (hD : Disciplined D Q program) (es : List (Event C)) :
    Sound D Q s₀ (P.run program es) := by
  induction es generalizing P with
  | nil => exact hP
  | cons e es ih => exact ih (hP.exec hD e)

end

end VeraMono.Framework
