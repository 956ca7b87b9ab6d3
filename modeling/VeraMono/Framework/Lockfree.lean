import VeraMono.Framework.Pool

/-!
# Systems without locks

Where no program takes a lock, a run is a trace in which every step is the next atom of its
thread's program. `Prog.after` is what is left of a program after its own moves, and
`Pool.follows` says that every run is such a trace, with every thread that did not crash where its
moves have taken it.
-/

namespace VeraMono.Framework

variable {σ ε α β C : Type}

namespace Prog

/-- What is left of a program after its moves, newest first. -/
def after (p : Prog Empty σ ε α) : List (Move Empty σ) → Prog Empty σ ε α
  | [] => p
  | m :: h =>
    match p.after h with
    | .atom _ next => next m.before
    | q => q

/-- The next atom of the program takes the store from `s` to `s'`. -/
def Steps : Prog Empty σ ε α → σ → σ → Prop
  | .atom act _, s, s' => s' = act s
  | _, _, _ => False

variable {p : Prog Empty σ ε α} {h h' : List (Move Empty σ)} {m : Move Empty σ} {s s' : σ}

theorem after_append : p.after (h ++ h') = (p.after h').after h := by
  induction h with
  | nil => rfl
  | cons m h ih => simp only [List.cons_append, after, ih]

@[simp] theorem after_ret (a : α) : (ret a : Prog Empty σ ε α).after h = ret a := by
  induction h with
  | nil => rfl
  | cons m h ih => simp only [after, ih]

@[simp] theorem after_raise (e : ε) : (raise e : Prog Empty σ ε α).after h = raise e := by
  induction h with
  | nil => rfl
  | cons m h ih => simp only [after, ih]

theorem after_ofExcept (r : Except ε α) : (ofExcept r : Prog Empty σ ε α).after h = ofExcept r := by
  cases r with
  | ok a => exact after_ret a
  | error e => exact after_raise e

@[simp] theorem not_steps_ret {a : α} : ¬ (ret a : Prog Empty σ ε α).Steps s s' := id

@[simp] theorem not_steps_raise {e : ε} : ¬ (raise e : Prog Empty σ ε α).Steps s s' := id

variable {k : α → Prog Empty σ ε β} {r : Except ε α} {t : σ → Except ε (α × σ)} {f : σ → α} {b : β}

theorem not_steps_ofExcept : ¬ (ofExcept r : Prog Empty σ ε α).Steps s s' := by
  cases r <;> exact id

/-- The rest of an atom after the move it made. -/
theorem after_atom {act : σ → σ} {next : σ → Prog Empty σ ε α} :
    (atom act next).after (h ++ [m]) = (next m.before).after h := after_append

theorem moves_cases {motive : List (Move Empty σ) → Prop} (nil : motive [])
    (concat : ∀ h m, motive (h ++ [m])) (h : List (Move Empty σ)) : motive h := by
  rcases List.eq_nil_or_concat' h with rfl | ⟨h, m, rfl⟩
  · exact nil
  · exact concat h m

theorem steps_txn : ((txn t).after h).Steps s s' ↔ h = [] ∧ s' = committed (t s) s := by
  induction h using moves_cases with
  | nil => exact ⟨fun hs => ⟨rfl, hs⟩, fun hs => hs.2⟩
  | concat h m =>
    rw [txn, after_atom, after_ofExcept]
    exact ⟨fun hs => (not_steps_ofExcept hs).elim, fun hs => by simp at hs⟩

theorem steps_check :
    (((ofExcept r : Prog Empty σ ε α) >>= k).after h).Steps s s' ↔
      ∃ a, r = .ok a ∧ ((k a).after h).Steps s s' := by
  cases r with
  | ok a => exact ⟨fun hs => ⟨a, rfl, hs⟩, fun ⟨_, ha, hs⟩ => Except.ok.inj ha ▸ hs⟩
  | error e =>
    refine ⟨fun hs => ?_, fun ⟨_, ha, _⟩ => by cases ha⟩
    exact (not_steps_raise (after_raise (α := β) (h := h) e ▸ hs)).elim

/-- After a read a program goes on with what it read, whatever the store has become. -/
theorem steps_readM {f : σ → Except ε α} :
    ((readM f >>= k).after h).Steps s s' ↔ (h = [] ∧ s' = s) ∨
      ∃ h' m a, h = h' ++ [m] ∧ f m.before = .ok a ∧ ((k a).after h').Steps s s' := by
  induction h using moves_cases with
  | nil => exact ⟨fun hs => .inl ⟨rfl, hs⟩, fun hs => hs.elim And.right fun ⟨_, _, _, h, _⟩ => by simp at h⟩
  | concat h m =>
    have hafter : (readM f >>= k).after (h ++ [m]) =
        ((ofExcept (f m.before) : Prog Empty σ ε α) >>= k).after h := after_atom
    rw [hafter, steps_check]
    constructor
    · rintro ⟨a, ha, hs⟩
      exact .inr ⟨h, m, a, rfl, ha, hs⟩
    · rintro (⟨hnil, -⟩ | ⟨h', m', a, heq, ha, hs⟩)
      · simp at hnil
      · obtain ⟨rfl, rfl⟩ := List.concat_inj.1 (by simpa using heq)
        exact ⟨a, ha, hs⟩

theorem steps_read :
    ((read f >>= k).after h).Steps s s' ↔ (h = [] ∧ s' = s) ∨
      ∃ h' m, h = h' ++ [m] ∧ ((k (f m.before)).after h').Steps s s' := by
  rw [read, steps_readM]
  refine or_congr_right ⟨fun ⟨h', m, a, hh, ha, hs⟩ => ⟨h', m, hh, Except.ok.inj ha ▸ hs⟩, ?_⟩
  exact fun ⟨h', m, hh, hs⟩ => ⟨h', m, _, hh, rfl, hs⟩

theorem after_map {f : α → β} : (p.map f).after h = (p.after h).map f := by
  induction h with
  | nil => rfl
  | cons m h ih =>
    rw [after, after, ih]
    cases p.after h with
    | acquire l _ _ | release l _ => exact l.elim
    | _ => rfl

@[simp] theorem steps_map {f : α → β} : (p.map f).Steps s s' ↔ p.Steps s s' := by
  cases p <;> exact Iff.rfl

/-- The next atom of the program takes the store from `s` to `s'` and returns `a`. -/
def Ends : Prog Empty σ ε α → σ → σ → α → Prop
  | .atom act next, s, s', a => s' = act s ∧ next s = .ret a
  | _, _, _, _ => False

theorem not_ends_ofExcept {a : α} : ¬ (ofExcept r : Prog Empty σ ε α).Ends s s' a := by
  cases r <;> exact id

theorem ends_txn {a : α} : ((txn t).after h).Ends s s' a ↔ h = [] ∧ t s = .ok (a, s') := by
  induction h using moves_cases with
  | nil =>
    change (s' = committed (t s) s ∧ ofExcept ((t s).map Prod.fst) = ret a) ↔ _
    cases t s with
    | ok r => simp [committed, ofExcept, Except.map, Prod.ext_iff, and_comm, eq_comm]
    | error e => simp [ofExcept, Except.map]
  | concat h m =>
    rw [txn, after_atom, after_ofExcept]
    exact ⟨fun hs => (not_ends_ofExcept hs).elim, fun hs => by simp at hs⟩

theorem ends_check :
    (((ofExcept r : Prog Empty σ ε α) >>= k).after h).Ends s s' b ↔
      ∃ a, r = .ok a ∧ ((k a).after h).Ends s s' b := by
  cases r with
  | ok a => exact ⟨fun hs => ⟨a, rfl, hs⟩, fun ⟨_, ha, hs⟩ => Except.ok.inj ha ▸ hs⟩
  | error e =>
    refine ⟨fun hs => ?_, fun ⟨_, ha, _⟩ => by cases ha⟩
    have hraise : ((ofExcept (.error e) : Prog Empty σ ε α) >>= k).after h = raise e := after_raise e
    rw [hraise] at hs
    exact hs.elim

theorem check_ne_ret (hk : ∀ a, k a ≠ ret b) : (ofExcept r : Prog Empty σ ε α) >>= k ≠ ret b := by
  cases r with
  | ok a => exact hk a
  | error e => exact fun h => (by cases h)

theorem read_ne_ret : (read f : Prog Empty σ ε α) >>= k ≠ ret b :=
  fun h => (by cases h)

theorem txn_ne_ret {a : α} :
    (txn t : Prog Empty σ ε α) ≠ ret a := fun h => (by cases h)

theorem ends_read (hk : ∀ a, k a ≠ .ret b) :
    ((read f >>= k).after h).Ends s s' b ↔
      ∃ h' m, h = h' ++ [m] ∧ ((k (f m.before)).after h').Ends s s' b := by
  induction h using moves_cases with
  | nil =>
    refine ⟨fun ⟨_, hb⟩ => (hk _ hb).elim, ?_⟩
    rintro ⟨h', m, hh, -⟩
    simp at hh
  | concat h m =>
    have hafter : ((read f >>= k).after (h ++ [m]) : Prog Empty σ ε β) = (k (f m.before)).after h :=
      after_atom
    rw [hafter]
    constructor
    · intro hs
      exact ⟨h, m, rfl, hs⟩
    · rintro ⟨h', m', heq, hs⟩
      obtain ⟨rfl, rfl⟩ := List.concat_inj.1 (by simpa using heq)
      exact hs

/-- Every atom leaves the store alone or is the last thing the program does before it returns. -/
def CommitsLast : Prog Empty σ ε α → Prop
  | .ret _ => True
  | .raise _ => True
  | .atom act next => ∀ s, (act s = s ∨ ∃ a, next s = .ret a) ∧ (next s).CommitsLast
  | .acquire _ _ _ => False
  | .release _ _ => False

theorem CommitsLast.ofExcept (r : Except ε α) : (ofExcept r : Prog Empty σ ε α).CommitsLast := by
  cases r <;> trivial

theorem CommitsLast.txn (t : σ → Except ε (α × σ)) : (txn t).CommitsLast := by
  intro s
  refine ⟨?_, .ofExcept _⟩
  change committed (t s) s = s ∨ ∃ a, Prog.ofExcept ((t s).map Prod.fst) = ret a
  cases t s with
  | ok r => exact .inr ⟨r.1, rfl⟩
  | error e => exact .inl rfl

/-- What a program reads before it writes does not matter. -/
theorem CommitsLast.bind (hp : p.ReadOnly) (hk : ∀ a, (k a).CommitsLast) :
    (p >>= k).CommitsLast := by
  induction p with
  | ret a => exact hk a
  | raise e => trivial
  | atom act next ih => exact fun s => ⟨.inl (hp s).1, ih s (hp s).2⟩
  | acquire | release => exact hp.elim

theorem CommitsLast.map (hp : p.CommitsLast) (f : α → β) : (p.map f).CommitsLast := by
  induction p with
  | ret a => trivial
  | raise e => trivial
  | atom act next ih =>
    intro s
    refine ⟨(hp s).1.imp_right fun ⟨a, ha⟩ => ⟨f a, ?_⟩, ih s (hp s).2⟩
    change (next s).map f = ret (f a)
    rw [ha]
    rfl
  | acquire | release => exact hp.elim

theorem CommitsLast.after (hp : p.CommitsLast) : (p.after h).CommitsLast := by
  induction h with
  | nil => exact hp
  | cons m h ih =>
    rw [Prog.after]
    generalize p.after h = q at ih
    cases q with
    | atom act next => exact (ih m.before).2
    | _ => exact ih

end Prog

open Prog

/-- A trace from `s₀` in which every step is the next atom of its thread's program. -/
inductive Traced (program : C → Prog Empty σ ε α) (s₀ : σ) : List (Step Empty σ C) → σ → Prop
  | init : Traced program s₀ [] s₀
  | step {trace : List (Step Empty σ C)} {s s' : σ} (i : Nat) (c : C) :
      Traced program s₀ trace s → (∀ st ∈ trace, st.thread = i → st.call = c) →
      ((program c).after (hist i trace)).Steps s s' →
      Traced program s₀ (⟨i, c, .act, s, s'⟩ :: trace) s'

namespace Traced

variable {program : C → Prog Empty σ ε α} {s₀ s : σ} {trace later earlier : List (Step Empty σ C)}
  {st : Step Empty σ C} {R : σ → σ → Prop}

/-- What the start has and every atom keeps holds at the end. -/
theorem invariant {P : σ → Prop} (h : Traced program s₀ trace s) (h₀ : P s₀)
    (hstep : ∀ c h s s', ((program c).after h).Steps s s' → P s → P s') : P s := by
  induction h with
  | init => exact h₀
  | step i c _ _ hs ih => exact hstep c _ _ _ hs ih

/-- The trace up to one of its steps. -/
theorem split (h : Traced program s₀ (later ++ st :: earlier) s) :
    Traced program s₀ earlier st.move.before ∧ Traced program s₀ (st :: earlier) st.move.after ∧
      ((program st.call).after (hist st.thread earlier)).Steps st.move.before st.move.after := by
  induction later generalizing s with
  | nil =>
    cases h with
    | step i c ht hc hs => exact ⟨ht, .step i c ht hc hs, hs⟩
  | cons st' later ih =>
    cases h with
    | step i c ht _ _ => exact ih ht

/-- What every atom may do at most relates the store before and after a step to the last one. -/
theorem since (hrefl : ∀ s, R s s) (htrans : ∀ s s' s'', R s s' → R s' s'' → R s s'')
    (hstep : ∀ c h s s', ((program c).after h).Steps s s' → R s s')
    (h : Traced program s₀ trace s) (hst : st ∈ trace) : R st.move.before s ∧ R st.move.after s := by
  induction h with
  | init => cases hst
  | step i c _ _ hs ih =>
    have hone := hstep c _ _ _ hs
    rcases List.mem_cons.1 hst with rfl | hst
    · exact ⟨hone, hrefl _⟩
    · exact ⟨htrans _ _ _ (ih hst).1 hone, htrans _ _ _ (ih hst).2 hone⟩

theorem mem_of_hist {i : Nat} {m : Move Empty σ} (hm : m ∈ hist i trace) :
    ∃ st ∈ trace, st.thread = i ∧ st.move = m := mem_hist.1 hm

end Traced

/-- A pool in which every step was the next atom of its thread's program, and every
thread is where its moves have taken it. -/
structure Follows (program : C → Prog Empty σ ε α) (s₀ : σ) (P : Pool Empty σ ε α C) : Prop where
  traced : Traced program s₀ P.trace P.store
  calls : ∀ st ∈ P.trace, ∃ t, P.thread st.thread = some t ∧ t.call = st.call
  prog : ∀ i c p, P.thread i = some ⟨c, some p⟩ → p = (program c).after (hist i P.trace)

namespace Follows

variable {program : C → Prog Empty σ ε α} {s₀ : σ} {P : Pool Empty σ ε α C} {i : Nat}

theorem init : Follows program s₀ (.init s₀) where
  traced := .init
  calls := fun _ h => by cases h
  prog := fun _ _ _ h => by cases h

/-- A change of the threads that moves none of them. -/
theorem still (h : Follows program s₀ P) {f : Option (Thread Empty σ ε α C)}
    {o : Empty → Option Nat}
    (hcall : ∀ t, P.thread i = some t → ∃ t', f = some t' ∧ t'.call = t.call)
    (hprog : ∀ c p, f = some ⟨c, some p⟩ → p = (program c).after (hist i P.trace)) :
    Follows program s₀ { P with thread := Function.update P.thread i f, owner := o } where
  traced := h.traced
  calls := by
    intro st hst
    obtain ⟨t, ht, hc⟩ := h.calls st hst
    by_cases hi : st.thread = i
    · obtain ⟨t', ht', hc'⟩ := hcall t (hi ▸ ht)
      exact ⟨t', by simp only [hi, Function.update_self, ht'], hc'.trans hc⟩
    · exact ⟨t, by simpa only [Function.update_of_ne hi] using ht, hc⟩
  prog := by
    intro j c p hj
    by_cases hi : j = i
    · subst hi
      exact hprog c p (by simpa only [Function.update_self] using hj)
    · exact h.prog j c p (by simpa only [Function.update_of_ne hi] using hj)

theorem spawn (h : Follows program s₀ P) (c : C) :
    Follows program s₀ (P.exec program (.spawn i c)) := by
  simp only [Pool.exec]
  split
  case h_1 hi =>
    refine h.still (o := P.owner) (fun t ht => by rw [hi] at ht; cases ht) fun c' p hp => ?_
    have hnil : hist i P.trace = [] := by
      rw [List.eq_nil_iff_forall_not_mem]
      intro m hm
      obtain ⟨st, hst, rfl, -⟩ := mem_hist.1 hm
      obtain ⟨t, ht, -⟩ := h.calls st hst
      rw [hi] at ht
      cases ht
    cases hp
    rw [hnil, Prog.after]
  case h_2 => exact h

theorem crash (h : Follows program s₀ P) : Follows program s₀ (P.exec program (.crash i)) := by
  simp only [Pool.exec]
  split
  case h_1 t hi =>
    exact h.still (fun t' ht' => ⟨_, rfl, by rw [hi] at ht'; cases ht'; rfl⟩) fun c p hp => by cases hp
  case h_2 => exact h

theorem timeout (h : Follows program s₀ P) : Follows program s₀ (P.exec program (.timeout i)) := by
  match hi : P.thread i with
  | none => simpa only [Pool.exec, hi] using h
  | some ⟨c, none⟩ => simpa only [Pool.exec, hi] using h
  | some ⟨c, some (.acquire l _ _)⟩ => exact l.elim
  | some ⟨c, some (.ret _)⟩ => simpa only [Pool.exec, hi, Pool.timeoutThread] using h
  | some ⟨c, some (.raise _)⟩ => simpa only [Pool.exec, hi, Pool.timeoutThread] using h
  | some ⟨c, some (.atom _ _)⟩ => simpa only [Pool.exec, hi, Pool.timeoutThread] using h
  | some ⟨c, some (.release l _)⟩ => exact l.elim

theorem step (h : Follows program s₀ P) : Follows program s₀ (P.exec program (.step i)) := by
  match hi : P.thread i with
  | none => simpa only [Pool.exec, hi] using h
  | some ⟨c, none⟩ => simpa only [Pool.exec, hi] using h
  | some ⟨c, some (.ret _)⟩ => simpa only [Pool.exec, hi, Pool.stepThread] using h
  | some ⟨c, some (.raise _)⟩ => simpa only [Pool.exec, hi, Pool.stepThread] using h
  | some ⟨c, some (.acquire l _ _)⟩ => exact l.elim
  | some ⟨c, some (.release l _)⟩ => exact l.elim
  | some ⟨c, some (.atom act next)⟩ =>
    simp only [Pool.exec, hi, Pool.stepThread]
    have hprog := h.prog i c _ hi
    have hcalls (st : Step Empty σ C) (hst : st ∈ P.trace) (hth : st.thread = i) : st.call = c := by
      obtain ⟨t, ht, hc⟩ := h.calls st hst
      rw [hth, hi] at ht
      cases ht
      exact hc.symm
    refine ⟨.step i c h.traced hcalls (hprog ▸ rfl), fun st hst => ?_, fun j c' p hj => ?_⟩
    · rcases List.mem_cons.1 hst with rfl | hst
      · exact ⟨_, Function.update_self .., rfl⟩
      · by_cases hth : st.thread = i
        · exact ⟨_, by rw [hth]; exact Function.update_self .., (hcalls st hst hth).symm⟩
        · obtain ⟨t, ht, hc⟩ := h.calls st hst
          exact ⟨t, (Function.update_of_ne hth _ _).trans ht, hc⟩
    · by_cases hji : j = i
      · subst hji
        have hself : (P.move j c .act (act P.store) (next P.store)).thread j =
            some ⟨c, some (next P.store)⟩ := Function.update_self ..
        cases hself.symm.trans hj
        change _ = (program c).after (hist j (⟨j, c, .act, P.store, act P.store⟩ :: P.trace))
        rw [hist_cons_self, Prog.after, ← hprog]
      · have hother : (P.move i c .act (act P.store) (next P.store)).thread j = P.thread j :=
          Function.update_of_ne hji ..
        change _ = (program c').after (hist j (⟨i, c, .act, P.store, act P.store⟩ :: P.trace))
        rw [hist_cons_other (Ne.symm hji)]
        exact h.prog j c' p (hother.symm.trans hj)

end Follows

/-- A call whose only write is its last step has changed nothing if it raised. -/
theorem Follows.raised {program : C → Prog Empty σ ε α} {s₀ : σ} {P : Pool Empty σ ε α C} {i : Nat}
    {c : C} {e : ε} {st : Step Empty σ C} (h : Follows program s₀ P) (hc : (program c).CommitsLast)
    (hi : P.thread i = some ⟨c, some (.raise e)⟩) (hst : st ∈ P.trace) (hth : st.thread = i) :
    st.move.after = st.move.before := by
  obtain ⟨t', ht', hcall⟩ := h.calls st hst
  rw [hth, hi] at ht'
  cases ht'
  obtain ⟨later, earlier, htr⟩ := List.append_of_mem hst
  obtain ⟨-, -, hs⟩ := (htr ▸ h.traced).split
  have hhist : hist i P.trace = hist i later ++ st.move :: hist i earlier := by
    rw [htr, hist, List.filterMap_append, List.filterMap_cons, if_pos hth]
    rfl
  have hraise := h.prog i c _ hi
  have hlast := hc.after (h := hist i earlier)
  rw [← hcall, hth] at hs
  rw [hhist, after_append, after] at hraise
  generalize (program c).after (hist i earlier) = q at hs hraise hlast
  cases q with
  | atom act next =>
    rcases (hlast st.move.before).1 with hid | ⟨a, ha⟩
    · exact hs.trans hid
    · simp only [ha, after_ret, reduceCtorEq] at hraise
  | ret | raise | acquire | release => exact hs.elim

theorem Follows.returned {program : C → Prog Empty σ ε α} {s₀ : σ} {P : Pool Empty σ ε α C} {i : Nat}
    {c : C} {a : α} (h : Follows program s₀ P) (hc : program c ≠ .ret a)
    (hi : P.thread i = some ⟨c, some (.ret a)⟩) :
    ∃ later st earlier, P.trace = later ++ st :: earlier ∧ st.thread = i ∧ st.call = c ∧
      ((program c).after (hist i earlier)).Ends st.move.before st.move.after a := by
  have hret := h.prog i c _ hi
  match hh : hist i P.trace with
  | [] =>
    rw [hh] at hret
    exact absurd hret.symm hc
  | m :: rest =>
    obtain ⟨later, st, earlier, htr, rfl, rfl, hrest⟩ := hist_split hh
    obtain ⟨t', ht', hcall⟩ := h.calls st (htr ▸ List.mem_append_right _ List.mem_cons_self)
    rw [hi] at ht'
    cases ht'
    obtain ⟨-, -, hs⟩ := (htr ▸ h.traced).split
    refine ⟨later, st, earlier, htr, rfl, hcall.symm, ?_⟩
    rw [hh, after, ← hrest] at hret
    rw [← hcall] at hs
    generalize (program c).after (hist st.thread earlier) = q at hs hret
    cases q with
    | atom act next => exact ⟨hs, hret.symm⟩
    | ret | raise | acquire | release => exact hs.elim

theorem Pool.follows (program : C → Prog Empty σ ε α) (s₀ : σ) (es : List (Event C)) :
    Follows program s₀ ((Pool.init s₀).run program es) := by
  suffices h : ∀ P : Pool Empty σ ε α C, Follows program s₀ P → Follows program s₀ (P.run program es) from
    h _ .init
  induction es with
  | nil => exact fun _ h => h
  | cons e es ih =>
    intro P h
    refine ih _ ?_
    cases e with
    | spawn i c => exact h.spawn c
    | step i => exact h.step
    | timeout i => exact h.timeout
    | crash i => exact h.crash

end VeraMono.Framework
