import VeraMono.Framework.Alone
import VeraMono.Framework.Component

/-!
# The point of a crash

A program that runs alone is stopped after some number of its atoms. `Prog.length` counts
the atoms of a whole run, and says of a program that is put together from others in which of
them a crash falls.
-/

namespace VeraMono.Framework.Prog

variable {L σ τ ε α β : Type}

/-- The number of atoms the program runs, started alone in a store. -/
def length : Prog L σ ε α → σ → Nat
  | .ret _, _ => 0
  | .raise _, _ => 0
  | .atom act next, s => (next s).length (act s) + 1
  | .acquire _ next _, s => next.length s
  | .release _ next, s => next.length s

variable {p : Prog L σ ε α} {f : α → Prog L σ ε β} {n : Nat} {s : σ}

/-- A crash after the last atom finds the store that the run leaves. -/
theorem stopAt_end (hn : p.length s ≤ n) : p.stopAt n s = (p.run s).2 := by
  induction p generalizing s n with
  | ret | raise => cases n <;> rfl
  | atom act next ih =>
    cases n with
    | zero => exact absurd hn (Nat.not_succ_le_zero _)
    | succ n => exact ih s (Nat.le_of_succ_le_succ hn)
  | acquire l next timeout ihn _ => cases n <;> exact ihn hn
  | release l next ih => cases n <;> exact ih hn

/-- A crash falls in the first part of a program, or in the rest. -/
theorem stopAt_resume (k : Except ε α → Prog L σ ε β) :
    (p.resume k).stopAt n s =
      if n < p.length s then p.stopAt n s else (k (p.run s).1).stopAt (n - p.length s) (p.run s).2 := by
  induction p generalizing s n with
  | ret | raise => rfl
  | atom act next ih =>
    cases n with
    | zero => rfl
    | succ n =>
      simp only [length, Nat.add_lt_add_iff_right, Nat.add_sub_add_right]
      exact ih s
  | acquire l next timeout ihn _ => cases n <;> exact ihn
  | release l next ih => cases n <;> exact ih

theorem stopAt_bind_lt (hn : n < p.length s) :
    (p >>= f).stopAt n s = p.stopAt n s := (stopAt_resume _).trans (if_pos hn)

theorem stopAt_bind_ok {s s' : σ} {a : α} (hp : p.run s = (.ok a, s')) (hn : p.length s ≤ n) :
    (p >>= f).stopAt n s = (f a).stopAt (n - p.length s) s' := by
  refine (stopAt_resume _).trans ((if_neg (Nat.not_lt.2 hn)).trans ?_)
  rw [hp]
  rfl

theorem length_resume (k : Except ε α → Prog L σ ε β) :
    (p.resume k).length s = p.length s + (k (p.run s).1).length (p.run s).2 := by
  induction p generalizing s with
  | ret | raise => exact (Nat.zero_add _).symm
  | atom act next ih => 
    refine (congrArg (· + 1) (ih s)).trans ?_
    exact Nat.add_right_comm _ _ _
  | acquire l next timeout ihn _ => exact ihn
  | release l next ih => exact ih

theorem length_bind_ok {s s' : σ} {a : α}
    (hp : p.run s = (.ok a, s')) : (p >>= f).length s = p.length s + (f a).length s' := by
  refine (length_resume _).trans ?_
  rw [hp]
  rfl

@[simp] theorem length_pure (a : α) (s : σ) : (pure a : Prog L σ ε α).length s = 0 := rfl

@[simp] theorem length_throw (e : ε) (s : σ) : (throw e : Prog L σ ε α).length s = 0 := rfl

@[simp] theorem length_ofExcept (r : Except ε α) (s : σ) : (ofExcept r : Prog L σ ε α).length s = 0 := by
  cases r <;> rfl

@[simp] theorem length_txn (t : σ → Except ε (α × σ)) (s : σ) : (txn t : Prog L σ ε α).length s = 1 := by
  simp only [txn, length, length_ofExcept]

@[simp] theorem length_readM (f : σ → Except ε α) (s : σ) : (readM f : Prog L σ ε α).length s = 1 := by
  simp only [readM, length, length_ofExcept]

@[simp] theorem length_read (f : σ → α) (s : σ) : (read f : Prog L σ ε α).length s = 1 := rfl

theorem stopAt_zero (p : Prog L σ ε α) (s : σ) : p.stopAt 0 s = s := by
  induction p generalizing s with
  | ret | raise | atom => rfl
  | acquire l next timeout ihn _ => exact ihn s
  | release l next ih => exact ih s

@[simp] theorem length_withLock (l : L) (err : ε) (p : Prog L σ ε α) (s : σ) :
    (withLock l err p).length s = p.length s := by
  simp only [withLock, length, length_resume, length_ofExcept, Nat.add_zero]

theorem stopAt_withLock (l : L) (err : ε) (p : Prog L σ ε α) (s : σ) (n : Nat) :
    (withLock l err p).stopAt n s = p.stopAt n s := by
  rcases Nat.lt_or_ge n (p.length s) with hn | hn
  · cases n <;> exact (stopAt_resume _).trans (if_pos hn)
  · rw [stopAt_end hn, stopAt_end ((length_withLock l err p s).symm ▸ hn), run_withLock]

theorem ReadOnly.stopAt (hp : p.ReadOnly) (n : Nat) (s : σ) : p.stopAt n s = s := by
  induction p generalizing n s with
  | ret | raise => cases n <;> rfl
  | atom act next ih =>
    cases n with
    | zero => rfl
    | succ n => exact (ih s (hp s).2 n (act s)).trans (hp s).1
  | acquire | release => exact hp.elim

/-- What every atom keeps is kept up to any crash. -/
theorem All.leaves {P : σ → σ → Prop} (hrefl : ∀ s, P s s) (htrans : ∀ s t u, P s t → P t u → P s u)
    (hp : p.All P) {s t : σ} (h : p.Leaves s t) : P s t := by
  induction p generalizing s with
  | ret | raise => exact (show t = s from h) ▸ hrefl s
  | atom act next ih =>
    rcases h with rfl | h
    · exact hrefl t
    · exact htrans _ _ _ (hp s).1 (ih s (hp s).2 h)
  | acquire | release => exact hp.elim

/-! ## A program of a component -/

variable {V : Component σ τ}

theorem run_on (hput : ∀ s, V.put s (V.get s) = s) (hlast : ∀ s t t', V.put (V.put s t) t' = V.put s t')
    (p : Prog L τ ε α) (s : σ) : (p.on V).run s = ((p.run (V.get s)).1, V.put s (p.run (V.get s)).2) := by
  induction p generalizing s with
  | ret | raise => exact congrArg (Prod.mk _) (hput s).symm
  | atom act next ih =>
    refine (ih (V.get s) (V.put s (act (V.get s)))).trans ?_
    rw [V.get_put, hlast]
    rfl
  | acquire l next timeout ihn _ => exact ihn s
  | release l next ih => exact ih s

theorem length_on (p : Prog L τ ε α) (s : σ) : (p.on V).length s = p.length (V.get s) := by
  induction p generalizing s with
  | ret | raise => rfl
  | atom act next ih =>
    refine congrArg (· + 1) ((ih (V.get s) _).trans ?_)
    rw [V.get_put]
  | acquire l next timeout ihn _ => exact ihn s
  | release l next ih => exact ih s

theorem stopAt_on (hput : ∀ s, V.put s (V.get s) = s) (hlast : ∀ s t t', V.put (V.put s t) t' = V.put s t')
    (p : Prog L τ ε α) (n : Nat) (s : σ) : (p.on V).stopAt n s = V.put s (p.stopAt n (V.get s)) := by
  induction p generalizing n s with
  | ret | raise => cases n <;> exact (hput s).symm
  | atom act next ih =>
    cases n with
    | zero => exact (hput s).symm
    | succ n =>
      refine (ih (V.get s) n (V.put s (act (V.get s)))).trans ?_
      rw [V.get_put, hlast]
      rfl
  | acquire l next timeout ihn _ => cases n <;> exact ihn _ s
  | release l next ih => cases n <;> exact ih _ s

end VeraMono.Framework.Prog
