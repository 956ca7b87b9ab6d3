import VeraMono.Framework.Prog

/-!
# What a crash may leave

`Leaves` relates a store to the stores that a crash of a program, run alone, may leave behind.
-/

namespace VeraMono.Framework

variable {L σ ε α : Type}

namespace Prog

/-- The stores a crash of the program, started alone in `s`, may leave. -/
def Leaves : Prog L σ ε α → σ → σ → Prop
  | .ret _, s, t => t = s
  | .raise _, s, t => t = s
  | .atom act next, s, t => t = s ∨ (next s).Leaves (act s) t
  | .acquire _ next _, s, t => next.Leaves s t
  | .release _ next, s, t => next.Leaves s t

theorem leaves_run (p : Prog L σ ε α) (s : σ) : p.Leaves s (p.run s).2 := by
  induction p generalizing s with
  | ret | raise => rfl
  | atom act next ih => exact .inr (ih s (act s))
  | acquire l next timeout ihn _ => exact ihn s
  | release l next ih => exact ih s

theorem leaves_stopAt (p : Prog L σ ε α) (n : Nat) (s : σ) : p.Leaves s (p.stopAt n s) := by
  induction p generalizing n s with
  | ret | raise => cases n <;> rfl
  | atom act next ih =>
    cases n with
    | zero => exact .inl rfl
    | succ n => exact .inr (ih s n (act s))
  | acquire l next timeout ihn _ => cases n <;> exact ihn _ s
  | release l next ih => cases n <;> exact ih _ s

end Prog

end VeraMono.Framework
