import Mathlib.Logic.Basic

/-!
# Programs over a shared store

A program is the tree of what it does to a store that others also use: one `atom` for each durable
step, `acquire` and `release` for the mutexes it takes, and the value it returns or the error it
raises. An atom reads and writes in one indivisible step, so the model of a routine has one atom
for each transaction it commits, and whatever happens between two atoms is what other programs may
see.
-/

namespace VeraMono.Framework

/-- A program over a store `σ` with mutexes `L`, errors `ε` and results `α`. The
state is read before the atom writes: `next` is given the state `act` was applied to. -/
inductive Prog (L σ ε α : Type) : Type
  | ret (a : α)
  | raise (e : ε)
  | atom (act : σ → σ) (next : σ → Prog L σ ε α)
  | acquire (l : L) (next timeout : Prog L σ ε α)
  | release (l : L) (next : Prog L σ ε α)

namespace Prog

variable {L σ ε α β γ : Type}

/-- The program that ends at once with an outcome. -/
def ofExcept : Except ε α → Prog L σ ε α
  | .ok a => .ret a
  | .error e => .raise e

/-- Continues a program with `k` on what it returned or raised. -/
def resume (k : Except ε α → Prog L σ ε β) : Prog L σ ε α → Prog L σ ε β
  | .ret a => k (.ok a)
  | .raise e => k (.error e)
  | .atom act next => .atom act fun s => (next s).resume k
  | .acquire l next timeout => .acquire l (next.resume k) (timeout.resume k)
  | .release l next => .release l (next.resume k)

/-- The continuation of a sequential composition: an error skips `f`. -/
def andThen (f : α → Prog L σ ε β) : Except ε α → Prog L σ ε β
  | .ok a => f a
  | .error e => .raise e

/-- The continuation of a handler: a result skips `h`. -/
def orElse (h : ε → Prog L σ ε α) : Except ε α → Prog L σ ε α
  | .ok a => .ret a
  | .error e => h e

instance : Monad (Prog L σ ε) where
  pure := .ret
  bind p f := p.resume (andThen f)

instance : MonadExceptOf ε (Prog L σ ε) where
  throw := .raise
  tryCatch p h := p.resume (orElse h)

/-- The store a transaction leaves: an error rolls it back. -/
def committed (r : Except ε (α × σ)) (s : σ) : σ :=
  match r with
  | .ok (_, s') => s'
  | .error _ => s

/-- One atomic transaction: it commits the new store, or raises and changes nothing. -/
def txn (t : σ → Except ε (α × σ)) : Prog L σ ε α :=
  .atom (fun s => committed (t s) s) fun s => ofExcept ((t s).map Prod.fst)

/-- An atomic read that may reject what it finds. -/
def readM (f : σ → Except ε α) : Prog L σ ε α :=
  .atom id fun s => ofExcept (f s)

def read (f : σ → α) : Prog L σ ε α := readM fun s => .ok (f s)

/-- Runs `body` holding `l`, which is released however the body ends; `err` is
raised when the lock cannot be taken in time. -/
def withLock (l : L) (err : ε) (body : Prog L σ ε α) : Prog L σ ε α :=
  .acquire l (body.resume fun r => .release l (ofExcept r)) (.raise err)

/-- A program with its result mapped. -/
def map (f : α → β) (p : Prog L σ ε α) : Prog L σ ε β := p.resume (andThen fun a => .ret (f a))

/-- A program that has returned or raised. -/
def ended : Prog L σ ε α → Bool
  | .ret _ | .raise _ => true
  | _ => false

theorem bind_eq (p : Prog L σ ε α) (f : α → Prog L σ ε β) : p >>= f = p.resume (andThen f) := rfl

theorem tryCatch_eq (p : Prog L σ ε α) (h : ε → Prog L σ ε α) :
    tryCatch p h = p.resume (orElse h) := rfl

@[simp] theorem resume_ret (k : Except ε α → Prog L σ ε β) (a : α) :
    (ret a : Prog L σ ε α).resume k = k (.ok a) := rfl

@[simp] theorem resume_raise (k : Except ε α → Prog L σ ε β) (e : ε) :
    (raise e : Prog L σ ε α).resume k = k (.error e) := rfl

theorem resume_resume (k : Except ε α → Prog L σ ε β) (k' : Except ε β → Prog L σ ε γ)
    (p : Prog L σ ε α) : (p.resume k).resume k' = p.resume fun r => (k r).resume k' := by
  induction p with
  | ret | raise => rfl
  | atom act next ih => exact congrArg (atom act) (funext ih)
  | acquire l next timeout ihn iht => simp only [resume, ihn, iht]
  | release l next ih => simp only [resume, ih]

theorem bind_assoc (p : Prog L σ ε α) (f : α → Prog L σ ε β) (g : β → Prog L σ ε γ) :
    p >>= f >>= g = p >>= fun a => f a >>= g := by
  simp only [bind_eq, resume_resume]
  congr 1
  funext r
  cases r <;> rfl

/-! ## Footprints -/

/-- A lock-free program every atom of which relates the store before and after by
`P`, whatever the others have done to the store in between. -/
def All (P : σ → σ → Prop) : Prog L σ ε α → Prop
  | .ret _ => True
  | .raise _ => True
  | .atom act next => ∀ s, P s (act s) ∧ (next s).All P
  | .acquire _ _ _ => False
  | .release _ _ => False

/-- A program that never writes and takes no lock. -/
def ReadOnly (p : Prog L σ ε α) : Prop := p.All fun s s' => s' = s

section
variable {P Q : σ → σ → Prop}

variable {p : Prog L σ ε α}

theorem All.mono (h : ∀ s s', P s s' → Q s s') (hp : p.All P) : p.All Q := by
  induction p with
  | ret | raise => trivial
  | atom act next ih => exact fun s => ⟨h _ _ (hp s).1, ih s (hp s).2⟩
  | acquire | release => exact hp.elim

theorem All.resume {k : Except ε α → Prog L σ ε β} (hp : p.All P)
    (hk : ∀ r, (k r).All P) : (p.resume k).All P := by
  induction p with
  | ret a => exact hk (.ok a)
  | raise e => exact hk (.error e)
  | atom act next ih => exact fun s => ⟨(hp s).1, ih s (hp s).2⟩
  | acquire | release => exact hp.elim

theorem All.bind {f : α → Prog L σ ε β} (hp : p.All P)
    (hf : ∀ a, (f a).All P) : (p >>= f).All P := by
  refine All.resume hp fun r => ?_
  cases r with
  | ok a => exact hf a
  | error e => trivial

@[simp] theorem All.pure (a : α) : (Pure.pure a : Prog L σ ε α).All P := trivial

@[simp] theorem All.throw (e : ε) : (throw e : Prog L σ ε α).All P := trivial

theorem All.ofExcept (r : Except ε α) : (ofExcept r : Prog L σ ε α).All P := by
  cases r <;> trivial

theorem All.tryCatch {h : ε → Prog L σ ε α} (hp : p.All P)
    (hh : ∀ e, (h e).All P) : (tryCatch p h).All P := by
  refine All.resume hp fun r => ?_
  cases r with
  | ok a => trivial
  | error e => exact hh e

theorem All.map (hp : p.All P) (f : α → β) : (p.map f).All P :=
  All.resume hp fun r => by cases r <;> trivial

theorem All.txn {t : σ → Except ε (α × σ)} (h : ∀ s a s', t s = .ok (a, s') → P s s')
    (hr : ∀ s, P s s) : (txn t : Prog L σ ε α).All P := by
  intro s
  refine ⟨?_, All.ofExcept _⟩
  change P s (committed (t s) s)
  cases ht : t s with
  | ok r => exact h s r.1 r.2 ht
  | error e => exact hr s

theorem ReadOnly.all (hr : ∀ s, P s s) (hp : p.ReadOnly) : p.All P :=
  All.mono (fun s s' h => by rw [h]; exact hr s) hp

end

theorem ReadOnly.readM (f : σ → Except ε α) : (readM f : Prog L σ ε α).ReadOnly :=
  fun _ => ⟨rfl, All.ofExcept _⟩

theorem ReadOnly.read (f : σ → α) : (read f : Prog L σ ε α).ReadOnly := ReadOnly.readM _

/-! ## Running a program alone -/

/-- The outcome of a program that nothing interleaves with, and the store it leaves. -/
def run : Prog L σ ε α → σ → Except ε α × σ
  | .ret a, s => (.ok a, s)
  | .raise e, s => (.error e, s)
  | .atom act next, s => (next s).run (act s)
  | .acquire _ next _, s => next.run s
  | .release _ next, s => next.run s

/-- The store a crash leaves when it falls after `n` durable steps. -/
def stopAt : Prog L σ ε α → Nat → σ → σ
  | .ret _, _, s => s
  | .raise _, _, s => s
  | .atom _ _, 0, s => s
  | .atom act next, n + 1, s => (next s).stopAt n (act s)
  | .acquire _ next _, n, s => next.stopAt n s
  | .release _ next, n, s => next.stopAt n s

theorem run_resume (k : Except ε α → Prog L σ ε β) (p : Prog L σ ε α) (s : σ) :
    (p.resume k).run s = (k (p.run s).1).run (p.run s).2 := by
  induction p generalizing s with
  | ret | raise => rfl
  | atom act next ih => exact ih s (act s)
  | acquire l next timeout ihn _ => exact ihn s
  | release l next ih => exact ih s

@[simp] theorem run_pure (a : α) (s : σ) : (pure a : Prog L σ ε α).run s = (.ok a, s) := rfl

@[simp] theorem run_throw (e : ε) (s : σ) : (throw e : Prog L σ ε α).run s = (.error e, s) := rfl

@[simp] theorem run_ofExcept (r : Except ε α) (s : σ) :
    (ofExcept r : Prog L σ ε α).run s = (r, s) := by cases r <;> rfl

theorem run_bind (p : Prog L σ ε α) (f : α → Prog L σ ε β) (s : σ) :
    (p >>= f).run s = match p.run s with
      | (.ok a, s') => (f a).run s'
      | (.error e, s') => (.error e, s') := by
  rw [bind_eq, run_resume]
  rcases p.run s with ⟨_ | _, s'⟩ <;> rfl

@[simp] theorem run_bind_ok {p : Prog L σ ε α} {f : α → Prog L σ ε β} {s s' : σ} {a : α}
    (h : p.run s = (.ok a, s')) : (p >>= f).run s = (f a).run s' := by rw [run_bind, h]

@[simp] theorem run_txn (t : σ → Except ε (α × σ)) (s : σ) :
    (txn t : Prog L σ ε α).run s = match t s with
      | .ok (a, s') => (.ok a, s')
      | .error e => (.error e, s) := by
  simp only [txn, run, run_ofExcept]
  cases t s <;> rfl

@[simp] theorem run_readM (f : σ → Except ε α) (s : σ) :
    (readM f : Prog L σ ε α).run s = (f s, s) := run_ofExcept (f s) s

@[simp] theorem run_read (f : σ → α) (s : σ) : (read f : Prog L σ ε α).run s = (.ok (f s), s) := rfl

@[simp] theorem run_withLock (l : L) (err : ε) (p : Prog L σ ε α) (s : σ) :
    (withLock l err p).run s = p.run s := by
  simp only [withLock, run, run_resume, run_ofExcept]

theorem ReadOnly.run_snd {p : Prog L σ ε α} (hp : p.ReadOnly) (s : σ) : (p.run s).2 = s := by
  induction p generalizing s with
  | ret | raise => rfl
  | atom act next ih =>
    obtain ⟨h, hn⟩ := hp s
    exact (ih s hn (act s)).trans h
  | acquire | release => exact hp.elim

theorem run_readOnly_bind {p : Prog L σ ε α} {f : α → Prog L σ ε β} {b : β} {s s' : σ}
    (hp : p.ReadOnly) (h : (p >>= f).run s = (.ok b, s')) :
    ∃ x, p.run s = (.ok x, s) ∧ (f x).run s = (.ok b, s') := by
  have hs := hp.run_snd s
  rw [run_bind] at h
  generalize p.run s = r at h hs
  obtain ⟨r, s''⟩ := r
  obtain rfl : s'' = s := hs
  cases r with
  | error => cases h
  | ok x => exact ⟨x, rfl, h⟩

end Prog

end VeraMono.Framework
