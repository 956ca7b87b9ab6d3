import VeraMono.Framework.Prog

/-!
# What a program looks at

A program that only reads, and reads only a view `f` of the store, has the same outcome in
every two stores with the same view.
-/

namespace VeraMono.Framework

variable {L σ τ ε α β : Type} {f : σ → τ}

namespace Prog

/-- A program that never writes, and goes on by what it sees through `f`. -/
def Sees (f : σ → τ) : Prog L σ ε α → Prop
  | .ret _ => True
  | .raise _ => True
  | .atom act next => (∀ s, act s = s) ∧ (∀ s s', f s = f s' → next s = next s') ∧ ∀ s, (next s).Sees f
  | .acquire _ _ _ => False
  | .release _ _ => False

theorem Sees.run {p : Prog L σ ε α} (hp : p.Sees f) {s s' : σ} (h : f s = f s') :
    p.run s' = ((p.run s).1, s') := by
  induction p with
  | ret | raise => rfl
  | atom act next ih =>
    obtain ⟨hact, hnext, hsees⟩ := hp
    rw [Prog.run, Prog.run, hact, hact, ← hnext s s' h]
    exact ih s (hsees s)
  | acquire | release => exact hp.elim

theorem Sees.ofExcept (r : Except ε α) : (ofExcept r : Prog L σ ε α).Sees f := by
  cases r <;> trivial

theorem Sees.pure (a : α) : (Pure.pure a : Prog L σ ε α).Sees f := trivial

theorem Sees.throw (e : ε) : (throw e : Prog L σ ε α).Sees f := trivial

theorem Sees.readM {g : σ → Except ε α} (hg : ∀ s s', f s = f s' → g s = g s') :
    (readM g : Prog L σ ε α).Sees f :=
  ⟨fun _ => rfl, fun s s' h => congrArg Prog.ofExcept (hg s s' h), fun _ => .ofExcept _⟩

theorem Sees.read {g : σ → α} (hg : ∀ s s', f s = f s' → g s = g s') :
    (read g : Prog L σ ε α).Sees f := .readM fun s s' h => by rw [hg s s' h]

theorem Sees.bind {p : Prog L σ ε α} {k : α → Prog L σ ε β} (hp : p.Sees f) (hk : ∀ a, (k a).Sees f) :
    (p >>= k).Sees f := by
  induction p with
  | ret a => exact hk a
  | raise e => trivial
  | atom act next ih =>
    exact ⟨hp.1, fun s s' h => congrArg (fun q : Prog L σ ε α => q >>= k) (hp.2.1 s s' h),
      fun s => ih s (hp.2.2 s)⟩
  | acquire | release => exact hp.elim

end Prog

end VeraMono.Framework
