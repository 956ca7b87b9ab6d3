import VeraMono.Framework.Prog
import Mathlib.Data.Finset.Basic
import Mathlib.Logic.Relation

/-!
# Contracts of programs that run beside others

A `Contract` says what a thread may assume of the others between two of its own moves (`rely`) and
what it promises of each of its own atoms (`guar`); both may depend on the locks it holds and on
its own moves so far, and every state keeps the shared invariant `inv`. `Safe` is the meaning of a
contract for a program in the middle of its execution: it must be safe after any interference the
rely allows.
-/

namespace VeraMono.Framework

variable {L σ ε α β : Type}

/-- What one move of a thread is: an atom, or a step of a lock. -/
inductive Kind (L : Type)
  | act
  | acquire (l : L)
  | release (l : L)
  | timeout (l : L)
  deriving DecidableEq

structure Move (L σ : Type) where
  kind : Kind L
  before : σ
  after : σ

/-- Assumptions and promises of a thread, given its own moves so far (newest
first) and the locks it holds. -/
structure Contract (L σ : Type) where
  inv : σ → Prop
  rely : List (Move L σ) → Finset L → σ → σ → Prop
  guar : List (Move L σ) → Finset L → σ → σ → Prop

namespace Contract

/-- What the others may do in any number of steps. -/
def Env (Γ : Contract L σ) (h : List (Move L σ)) (held : Finset L) : σ → σ → Prop :=
  Relation.ReflTransGen fun s s' => Γ.inv s ∧ Γ.inv s' ∧ Γ.rely h held s s'

/-- An assertion the others cannot break. -/
def Stable (Γ : Contract L σ) (held : Finset L) (P : List (Move L σ) → σ → Prop) : Prop :=
  ∀ h s s', Γ.inv s → Γ.inv s' → P h s → Γ.rely h held s s' → P h s'

variable {Γ : Contract L σ} {held : Finset L} {P P' : List (Move L σ) → σ → Prop}

theorem Stable.env (hP : Γ.Stable held P) {h : List (Move L σ)} {s s' : σ} (hs : P h s)
    (he : Γ.Env h held s s') : P h s' := by
  induction he with
  | refl => exact hs
  | tail _ hstep ih => exact hP _ _ _ hstep.1 hstep.2.1 ih hstep.2.2

theorem Stable.and (hP : Γ.Stable held P) (hP' : Γ.Stable held P') :
    Γ.Stable held fun h s => P h s ∧ P' h s :=
  fun h s s' hi hi' hs hr => ⟨hP h s s' hi hi' hs.1 hr, hP' h s s' hi hi' hs.2 hr⟩

theorem Stable.or (hP : Γ.Stable held P) (hP' : Γ.Stable held P') :
    Γ.Stable held fun h s => P h s ∨ P' h s :=
  fun h s s' hi hi' hs hr =>
    hs.imp (fun hl => hP h s s' hi hi' hl hr) fun hl => hP' h s s' hi hi' hl hr

/-- An assertion about the thread's own moves is stable. -/
theorem Stable.hist (P : List (Move L σ) → Prop) : Γ.Stable held fun h _ => P h :=
  fun _ _ _ _ _ hs _ => hs

theorem Stable.imp {p : List (Move L σ) → Prop} (hP : Γ.Stable held P) :
    Γ.Stable held fun h s => p h → P h s :=
  fun h s s' hi hi' hs hr hp => hP h s s' hi hi' (hs hp) hr

theorem Stable.forall {ι : Sort*} {P : ι → List (Move L σ) → σ → Prop}
    (hP : ∀ i, Γ.Stable held (P i)) : Γ.Stable held fun h s => ∀ i, P i h s :=
  fun h s s' hi hi' hs hr i => hP i h s s' hi hi' (hs i) hr

theorem Stable.exists {ι : Sort*} {P : ι → List (Move L σ) → σ → Prop}
    (hP : ∀ i, Γ.Stable held (P i)) : Γ.Stable held fun h s => ∃ i, P i h s :=
  fun h s s' hi hi' ⟨i, hs⟩ hr => ⟨i, hP i h s s' hi hi' hs hr⟩

theorem Env.inv {h : List (Move L σ)} {s s' : σ} (hi : Γ.inv s) (he : Γ.Env h held s s') :
    Γ.inv s' := by
  induction he with
  | refl => exact hi
  | tail _ hstep _ => exact hstep.2.1

end Contract

namespace Prog

variable [DecidableEq L] {P : Finset L → σ → σ → Prop} {held held' held'' : Finset L}

/-- Every atom of the program, which starts with the locks `held` and ends with
`held'`, relates the store before and after by `P` of the locks it then holds. -/
def Locked (P : Finset L → σ → σ → Prop) (held' : Finset L) : Finset L → Prog L σ ε α → Prop
  | held, .ret _ => held = held'
  | held, .raise _ => held = held'
  | held, .atom act next => ∀ s, P held s (act s) ∧ (next s).Locked P held' held
  | held, .acquire l next timeout =>
    (l ∉ held → next.Locked P held' (insert l held)) ∧ timeout.Locked P held' held
  | held, .release l next => next.Locked P held' (held.erase l)

theorem All.locked {p : Prog L σ ε α} (hp : p.All (P held)) : p.Locked P held held := by
  induction p with
  | ret | raise => rfl
  | atom act next ih => exact fun s => ⟨(hp s).1, ih s (hp s).2⟩
  | acquire | release => exact hp.elim

theorem Locked.resume {p : Prog L σ ε α} {k : Except ε α → Prog L σ ε β}
    (hp : p.Locked P held' held) (hk : ∀ r, (k r).Locked P held'' held') :
    (p.resume k).Locked P held'' held := by
  induction p generalizing held with
  | ret a => exact hp ▸ hk (.ok a)
  | raise e => exact hp ▸ hk (.error e)
  | atom act next ih => exact fun s => ⟨(hp s).1, ih s (hp s).2⟩
  | acquire l next timeout ihn iht => exact ⟨fun hl => ihn (hp.1 hl), iht hp.2⟩
  | release l next ih => exact ih hp

theorem Locked.ofExcept (r : Except ε α) : (ofExcept r : Prog L σ ε α).Locked P held held := by
  cases r <;> rfl

theorem Locked.bind {p : Prog L σ ε α} {f : α → Prog L σ ε β} (hp : p.Locked P held held)
    (hf : ∀ a, (f a).Locked P held held) : (p >>= f).Locked P held held := by
  refine hp.resume fun r => ?_
  cases r with
  | ok a => exact hf a
  | error e => rfl

theorem Locked.guard {c : Prop} [Decidable c] {e : ε} {p : Prog L σ ε α}
    (hp : p.Locked P held held) :
    (if c then (throw e : Prog L σ ε PUnit) >>= fun _ => p else p).Locked P held held := by
  split
  · rfl
  · exact hp

theorem Locked.map {p : Prog L σ ε α} (hp : p.Locked P held held) (f : α → β) :
    (p.map f).Locked P held held :=
  hp.resume fun r => by cases r <;> rfl

theorem Locked.tryCatch {p : Prog L σ ε α} {h : ε → Prog L σ ε α} (hp : p.Locked P held held)
    (hh : ∀ e, (h e).Locked P held held) : (tryCatch p h).Locked P held held := by
  refine hp.resume fun r => ?_
  cases r with
  | ok a => rfl
  | error e => exact hh e

theorem Locked.withLock {l : L} {err : ε} {p : Prog L σ ε α} 
    (hp : p.Locked P (insert l held) (insert l held)) (hl : l ∉ held) :
    (withLock l err p).Locked P held held := by
  refine ⟨fun _ => hp.resume fun r => ?_, rfl⟩
  change (Prog.ofExcept r : Prog L σ ε α).Locked P held ((insert l held).erase l)
  rw [Finset.erase_insert hl]
  exact Locked.ofExcept r

end Prog

/-- What a thread must reach: an outcome, the locks it then holds, its moves and the store. -/
abbrev Post (L σ ε α : Type) := Except ε α → Finset L → List (Move L σ) → σ → Prop

section
variable [DecidableEq L]

/-- A program in mid-execution keeps its contract and reaches `Q`, from store `s`
and after any interference. -/
def Safe (Γ : Contract L σ) (Q : Post L σ ε α) :
    Prog L σ ε α → Finset L → List (Move L σ) → σ → Prop
  | .ret a, held, h, s => ∀ s', Γ.Env h held s s' → Q (.ok a) held h s'
  | .raise e, held, h, s => ∀ s', Γ.Env h held s s' → Q (.error e) held h s'
  | .atom act next, held, h, s => ∀ s', Γ.Env h held s s' →
      Γ.inv (act s') ∧ Γ.guar h held s' (act s') ∧
        Safe Γ Q (next s') held (⟨.act, s', act s'⟩ :: h) (act s')
  | .acquire l next timeout, held, h, s => ∀ s', Γ.Env h held s s' →
      (l ∉ held → Safe Γ Q next (insert l held) (⟨.acquire l, s', s'⟩ :: h) s') ∧
        Safe Γ Q timeout held (⟨.timeout l, s', s'⟩ :: h) s'
  | .release l next, held, h, s => ∀ s', Γ.Env h held s s' →
      Safe Γ Q next (held.erase l) (⟨.release l, s', s'⟩ :: h) s'

variable {Γ : Contract L σ} {Q Q' : Post L σ ε α} {p : Prog L σ ε α} {held : Finset L}
  {h : List (Move L σ)} {s s' : σ}

/-- Interference the rely allows keeps a program safe. -/
theorem Safe.env (hp : Safe Γ Q p held h s) (he : Γ.Env h held s s') : Safe Γ Q p held h s' := by
  cases p with
  | ret | raise | release => exact fun s'' he' => hp s'' (he.trans he')
  | atom | acquire => exact fun s'' he' => hp s'' (he.trans he')

theorem Safe.mono (hp : Safe Γ Q p held h s) (hi : Γ.inv s)
    (hQ : ∀ r held h s, Γ.inv s → Q r held h s → Q' r held h s) : Safe Γ Q' p held h s := by
  induction p generalizing held h s with
  | ret | raise => exact fun s' he => hQ _ _ _ _ (he.inv hi) (hp s' he)
  | atom act next ih =>
    intro s' he
    obtain ⟨hi', hg, hn⟩ := hp s' he
    exact ⟨hi', hg, ih s' hn hi'⟩
  | acquire l next timeout ihn iht =>
    intro s' he
    exact ⟨fun hl => ihn ((hp s' he).1 hl) (he.inv hi), iht (hp s' he).2 (he.inv hi)⟩
  | release l next ih => exact fun s' he => ih (hp s' he) (he.inv hi)

/-- What a program reaches still holds after interference, so a continuation may
start from there. -/
theorem Safe.resume {R : Post L σ ε β} {k : Except ε α → Prog L σ ε β}
    (hp : Safe Γ Q p held h s) (hi : Γ.inv s)
    (hk : ∀ r held h s, Γ.inv s → (∀ s', Γ.Env h held s s' → Q r held h s') →
      Safe Γ R (k r) held h s) : Safe Γ R (p.resume k) held h s := by
  induction p generalizing held h s with
  | ret a => exact hk (.ok a) _ _ _ hi hp
  | raise e => exact hk (.error e) _ _ _ hi hp
  | atom act next ih =>
    intro s' he
    obtain ⟨hi', hg, hn⟩ := hp s' he
    exact ⟨hi', hg, ih s' hn hi'⟩
  | acquire l next timeout ihn iht =>
    intro s' he
    exact ⟨fun hl => ihn ((hp s' he).1 hl) (he.inv hi), iht (hp s' he).2 (he.inv hi)⟩
  | release l next ih => exact fun s' he => ih (hp s' he) (he.inv hi)

/-- A program whose every atom, in any store, keeps the invariant and the promise. -/
theorem Safe.of_locked {P : Finset L → σ → σ → Prop} {held' : Finset L} (hp : p.Locked P held' held)
    (hP : ∀ h held s s', Γ.inv s → P held s s' → Γ.inv s' ∧ Γ.guar h held s s') (hi : Γ.inv s) :
    Safe Γ (fun _ held _ _ => held = held') p held h s := by
  induction p generalizing held h s with
  | ret | raise => exact fun _ _ => hp
  | atom act next ih =>
    intro s' he
    obtain ⟨hi', hg⟩ := hP h held s' _ (he.inv hi) (hp s').1
    exact ⟨hi', hg, ih s' (hp s').2 hi'⟩
  | acquire l next timeout ihn iht =>
    exact fun s' he => ⟨fun hl => ihn (hp.1 hl) (he.inv hi), iht hp.2 (he.inv hi)⟩
  | release l next ih => exact fun s' he => ih hp (he.inv hi)

/-! ## Rules -/

/-- From any store and history satisfying `P`, holding the locks `held`, the
program keeps its contract and ends with those locks and `Q`. -/
def Triple (Γ : Contract L σ) (held : Finset L) (P : List (Move L σ) → σ → Prop)
    (p : Prog L σ ε α) (Q : Except ε α → List (Move L σ) → σ → Prop) : Prop :=
  ∀ h s, Γ.inv s → P h s → Safe Γ (fun r held' h s => held' = held ∧ Q r h s) p held h s

/-- An assertion about normal ends only. -/
def OnOk (P : List (Move L σ) → σ → Prop) : Except ε α → List (Move L σ) → σ → Prop
  | .ok _ => P
  | .error _ => fun _ _ => True

omit [DecidableEq L] in
theorem Contract.Stable.onOk {P : List (Move L σ) → σ → Prop} (hP : Γ.Stable held P) :
    ∀ r : Except ε α, Γ.Stable held (OnOk P r)
  | .ok _ => hP
  | .error _ => .hist fun _ => True

namespace Triple

variable {P P' : List (Move L σ) → σ → Prop} {Q Q' : Except ε α → List (Move L σ) → σ → Prop}

theorem conseq {A : List (Move L σ) → σ → Prop} (hp : Triple Γ held A p Q')
    (hP : ∀ h s, Γ.inv s → P h s → A h s)
    (hQ : ∀ r h s, Γ.inv s → Q' r h s → Q r h s) : Triple Γ held P p Q :=
  fun h s hi hs => (hp h s hi (hP h s hi hs)).mono hi fun r _ h s hi hr => ⟨hr.1, hQ r h s hi hr.2⟩

/-- A fact about no store may be assumed at once. -/
theorem given {q : Prop} (hp : q → Triple Γ held P p Q) : Triple Γ held (fun h s => P h s ∧ q) p Q :=
  fun h s hi hs => hp hs.2 h s hi hs.1

theorem ofExcept {r : Except ε α} (hQ : Γ.Stable held (Q r))
    (hPQ : ∀ h s, Γ.inv s → P h s → Q r h s) : Triple Γ held P (Prog.ofExcept r) Q := by
  intro h s hi hs
  cases r <;> exact fun s' he => ⟨rfl, hQ.env (hPQ h s hi hs) he⟩

theorem pure {a : α} (hQ : Γ.Stable held (Q (.ok a)))
    (hPQ : ∀ h s, Γ.inv s → P h s → Q (.ok a) h s) : Triple Γ held P (Pure.pure a) Q :=
  ofExcept (r := .ok a) hQ hPQ

theorem throw {e : ε} (hQ : Γ.Stable held (Q (.error e)))
    (hPQ : ∀ h s, Γ.inv s → P h s → Q (.error e) h s) : Triple Γ held P (throw e) Q :=
  ofExcept (r := .error e) hQ hPQ

/-- A transaction: what it commits, and what its rejection leaves. -/
theorem txn {t : σ → Except ε (α × σ)} (hP : Γ.Stable held P) (hQ : ∀ r, Γ.Stable held (Q r))
    (hok : ∀ h s a s', Γ.inv s → P h s → t s = .ok (a, s') →
      Γ.inv s' ∧ Γ.guar h held s s' ∧ Q (.ok a) (⟨.act, s, s'⟩ :: h) s')
    (herr : ∀ h s e, Γ.inv s → P h s → t s = .error e →
      Γ.guar h held s s ∧ Q (.error e) (⟨.act, s, s⟩ :: h) s) :
    Triple Γ held P (Prog.txn t) Q := by
  intro h s hi hs s' he
  have hi' := he.inv hi
  have hs' := hP.env hs he
  change Γ.inv (Prog.committed (t s') s') ∧ Γ.guar h held s' (Prog.committed (t s') s') ∧
    Safe Γ _ (Prog.ofExcept ((t s').map Prod.fst)) held
      (⟨.act, s', Prog.committed (t s') s'⟩ :: h) (Prog.committed (t s') s')
  cases ht : t s' with
  | ok r =>
    obtain ⟨hi'', hg, hq⟩ := hok h s' r.1 r.2 hi' hs' ht
    exact ⟨hi'', hg, fun _ he' => ⟨rfl, (hQ _).env hq he'⟩⟩
  | error e =>
    obtain ⟨hg, hq⟩ := herr h s' e hi' hs' ht
    exact ⟨hi', hg, fun _ he' => ⟨rfl, (hQ _).env hq he'⟩⟩

theorem part {γ : Type} (f : σ → Except ε (α × γ)) (put : σ → γ → σ) (hP : Γ.Stable held P)
    (hQ : ∀ r, Γ.Stable held (Q r))
    (hok : ∀ h s a x, Γ.inv s → P h s → f s = .ok (a, x) →
      Γ.inv (put s x) ∧ Γ.guar h held s (put s x) ∧ Q (.ok a) (⟨.act, s, put s x⟩ :: h) (put s x))
    (herr : ∀ h s e, Γ.inv s → P h s → f s = .error e →
      Γ.guar h held s s ∧ Q (.error e) (⟨.act, s, s⟩ :: h) s) :
    Triple Γ held P (Prog.txn fun s => (f s).map fun r => (r.1, put s r.2)) Q := by
  refine txn hP hQ (fun h s a s' hi hs ht => ?_) fun h s e hi hs ht => ?_
  · cases hf : f s with
    | error e => rw [hf] at ht; cases ht
    | ok r =>
      rw [hf] at ht
      cases ht
      exact hok h s r.1 r.2 hi hs hf
  · cases hf : f s with
    | error e' =>
      rw [hf] at ht
      cases ht
      exact herr h s e hi hs hf
    | ok r => rw [hf] at ht; cases ht

theorem readM {f : σ → Except ε α} (hP : Γ.Stable held P) (hQ : ∀ r, Γ.Stable held (Q r))
    (hf : ∀ h s, Γ.inv s → P h s → Γ.guar h held s s ∧ Q (f s) (⟨.act, s, s⟩ :: h) s) :
    Triple Γ held P (Prog.readM f) Q := by
  intro h s hi hs s' he
  obtain ⟨hg, hq⟩ := hf h s' (he.inv hi) (hP.env hs he)
  refine ⟨he.inv hi, hg, ?_⟩
  exact ofExcept (P := Q (f s')) (hQ _) (fun _ _ _ hq => hq) _ _ (he.inv hi) hq

/-- Lock-free code whose every atom keeps an assertion. -/
theorem segment {R : σ → σ → Prop} (hP : Γ.Stable held P) (hp : p.All R)
    (hR : ∀ h s s', Γ.inv s → P h s → R s s' →
      Γ.inv s' ∧ Γ.guar h held s s' ∧ P (⟨.act, s, s'⟩ :: h) s') :
    Triple Γ held P p fun _ => P := by
  intro h s hi hs
  induction p generalizing h s with
  | ret | raise => exact fun s' he => ⟨rfl, hP.env hs he⟩
  | atom act next ih =>
    intro s' he
    obtain ⟨hi', hg, hs'⟩ := hR h s' _ (he.inv hi) (hP.env hs he) (hp s').1
    exact ⟨hi', hg, ih s' (hp s').2 _ _ hi' hs'⟩
  | acquire | release => exact hp.elim

/-- Lock-free code that only reads keeps every assertion that ignores reads. -/
theorem readOnly (hP : Γ.Stable held P) (hp : p.ReadOnly)
    (hR : ∀ h s, Γ.inv s → P h s → Γ.guar h held s s ∧ P (⟨.act, s, s⟩ :: h) s) :
    Triple Γ held P p fun _ => P :=
  segment hP hp fun h s s' hi hs hss => by
    subst hss
    exact ⟨hi, hR h _ hi hs⟩

theorem guard {c : Prop} [Decidable c] {e : ε} (hQ : Γ.Stable held (Q (.error e)))
    (hPQ : ∀ h s, Γ.inv s → P h s → c → Q (.error e) h s) (hp : ¬ c → Triple Γ held P p Q) :
    Triple Γ held P
      (if c then (MonadExcept.throw e : Prog L σ ε PUnit) >>= fun _ => p else p) Q := by
  split
  · exact fun h s hi hs => ofExcept (r := .error e) hQ (fun h s hi hs => hPQ h s hi hs ‹c›) h s hi hs
  · exact hp ‹¬ c›

theorem onOk (hp : Triple Γ held P p fun _ => P') : Triple Γ held P p (OnOk P') :=
  hp.conseq (fun _ _ _ hs => hs) fun r _ _ _ hs => by
    cases r with
    | ok => exact hs
    | error => trivial

/-- Lock-free code that goes on only when a first read accepts. -/
theorem checked {R : σ → σ → Prop} {f : σ → Except ε α} {k : α → Prog L σ ε β}
    (hP : Γ.Stable held P) (hP' : Γ.Stable held P') (hp : (Prog.readM f >>= k).All R)
    (hread : ∀ h s, Γ.inv s → P h s → Γ.guar h held s s ∧
      ∀ a, f s = .ok a → P' (⟨.act, s, s⟩ :: h) s)
    (hR : ∀ h s s', Γ.inv s → P' h s → R s s' →
      Γ.inv s' ∧ Γ.guar h held s s' ∧ P' (⟨.act, s, s'⟩ :: h) s') :
    Triple Γ held P (Prog.readM f >>= k) (OnOk P') := by
  intro h s hi hs s' he
  obtain ⟨hg, hs'⟩ := hread h s' (he.inv hi) (hP.env hs he)
  refine ⟨he.inv hi, hg, ?_⟩
  have hn := (hp s').2
  revert hn
  change ((Prog.ofExcept (f s')).resume (Prog.andThen k)).All R →
    Safe Γ _ ((Prog.ofExcept (f s')).resume (Prog.andThen k)) held _ s'
  cases hf : f s' with
  | error e => exact fun _ _ _ => ⟨rfl, trivial⟩
  | ok a => exact fun hn => (segment hP' hn hR).onOk _ _ (he.inv hi) (hs' a hf)

variable {f : α → Prog L σ ε β}

theorem bind {R : Except ε β → List (Move L σ) → σ → Prop}
    (hp : Triple Γ held P p Q) (hf : ∀ a, Triple Γ held (Q (.ok a)) (f a) R)
    (he : ∀ e h s, Γ.inv s → Q (.error e) h s → R (.error e) h s) :
    Triple Γ held P (p >>= f) R := by
  refine fun h s hi hs => (hp h s hi hs).resume hi fun r held' h s hi' hq => ?_
  obtain ⟨rfl, hq'⟩ := hq s .refl
  cases r with
  | ok a => exact hf a h s hi' hq'
  | error e => exact fun s' hs' => ⟨rfl, he e h s' (hs'.inv hi') (hq s' hs').2⟩

/-- Sequencing where nothing is to be shown of the end. -/
theorem seq (hp : Triple Γ held P p Q)
    (hf : ∀ a, Triple Γ held (Q (.ok a)) (f a) fun _ _ _ => True) :
    Triple Γ held P (p >>= f) fun _ _ _ => True :=
  .bind hp hf fun _ _ _ _ _ => trivial

theorem seqOk {R : List (Move L σ) → σ → Prop} (hp : Triple Γ held P p Q)
    (hf : ∀ a, Triple Γ held (Q (.ok a)) (f a) (OnOk R)) : Triple Γ held P (p >>= f) (OnOk R) :=
  .bind hp hf fun _ _ _ _ _ => trivial

theorem tryCatch {f : ε → Prog L σ ε α} {R : Except ε α → List (Move L σ) → σ → Prop}
    (hp : Triple Γ held P p Q) (hf : ∀ e, Triple Γ held (Q (.error e)) (f e) R)
    (ho : ∀ a h s, Γ.inv s → Q (.ok a) h s → R (.ok a) h s) : Triple Γ held P (tryCatch p f) R := by
  refine fun h s hi hs => (hp h s hi hs).resume hi fun r held' h s hi' hq => ?_
  obtain ⟨rfl, hq'⟩ := hq s .refl
  cases r with
  | ok a => exact fun s' hs' => ⟨rfl, ho a h s' (hs'.inv hi') (hq s' hs').2⟩
  | error e => exact hf e h s hi' hq'

theorem map (hp : Triple Γ held P p Q) (f : α → β) :
    Triple Γ held P (p.map f) fun r h s => ∃ r', r = r'.map f ∧ Q r' h s := by
  refine fun h s hi hs => (hp h s hi hs).resume hi fun r held' h s hi' hq => ?_
  cases r with
  | ok a => exact fun s' he => ⟨(hq s' he).1, .ok a, rfl, (hq s' he).2⟩
  | error e => exact fun s' he => ⟨(hq s' he).1, .error e, rfl, (hq s' he).2⟩

/-- A lock scope: the body is verified with the lock, and may assume of the others
what the rely says of a thread that holds it. -/
theorem withLock {l : L} {err : ε} {A : List (Move L σ) → σ → Prop}
    {R : Except ε α → List (Move L σ) → σ → Prop} (hl : l ∉ held)
    (hP : Γ.Stable held P) (hR : ∀ r, Γ.Stable held (R r))
    (hin : ∀ h s, Γ.inv s → P h s → A (⟨.acquire l, s, s⟩ :: h) s)
    (hp : Triple Γ (insert l held) A p Q)
    (hout : ∀ r h s, Γ.inv s → Q r h s → R r (⟨.release l, s, s⟩ :: h) s)
    (herr : ∀ h s, Γ.inv s → P h s → R (.error err) (⟨.timeout l, s, s⟩ :: h) s) :
    Triple Γ held P (Prog.withLock l err p) R := by
  intro h s hi hs s' he
  have hi' := he.inv hi
  have hs' := hP.env hs he
  constructor
  · intro _
    refine (hp _ s' hi' (hin h s' hi' hs')).resume hi' fun r held' h s hi'' hq => ?_
    obtain ⟨rfl, -⟩ := hq s .refl
    intro s'' he''
    rw [Finset.erase_insert hl]
    exact ofExcept (P := R r) (hR r) (fun _ _ _ hr => hr) _ _ (he''.inv hi'')
      (hout r h s'' (he''.inv hi'') (hq s'' he'').2)
  · exact fun s'' he'' => ⟨rfl, (hR _).env (herr h s' hi' hs') he''⟩

end Triple

end

end VeraMono.Framework
