import Mathlib.Logic.Basic

/-!
# Checks that raise

A function that validates before it computes is a sequence of guards in `Except`.
These lemmas turn "it returned `b`" into the conjunction of what the guards tested:
`simp only [bind_eq_ok, ite_error_ok, ↓throw_bind, pure_ok]` opens such a function.
-/

namespace VeraMono.Framework

variable {ε α β : Type} {e : ε}

variable {f : α → Except ε β} {x : Except ε α}

theorem bind_eq_ok {b : β} : (x >>= f) = .ok b ↔ ∃ a, x = .ok a ∧ f a = .ok b := by
  cases x <;> simp [bind, Except.bind]

theorem map_eq_ok {r : Except ε α} {f : α → β} {b : β} :
    r.map f = .ok b ↔ ∃ a, r = .ok a ∧ f a = b := by
  cases r <;> simp [Except.map]

theorem ite_error_ok {c : Prop} [Decidable c] {r : α} :
    (if c then Except.error e else x) = .ok r ↔ ¬c ∧ x = .ok r := by
  by_cases h : c <;> simp [h]

theorem ite_throw_ok {c : Prop} [Decidable c] {r : α} :
    (if c then throw e else x) = .ok r ↔ ¬c ∧ x = .ok r := ite_error_ok

theorem throw_bind : ((throw e : Except ε α) >>= f) = .error e := rfl

theorem ok_bind {a : α} : ((.ok a : Except ε α) >>= f) = f a := rfl

theorem throw_ok {a : α} : (throw e : Except ε α) = .ok a ↔ False :=
  iff_false_intro fun h => by cases h

theorem pure_ok {a b : α} : (pure a : Except ε α) = .ok b ↔ b = a := by
  rw [pure, Applicative.toPure, Monad.toApplicative, Except.instMonad]
  simp [Except.pure, eq_comm]

theorem forM_ok {f : α → Except ε Unit} {l : List α} :
    l.forM f = .ok () ↔ ∀ x ∈ l, f x = .ok () := by
  induction l with
  | nil => exact ⟨fun _ _ h => (by cases h), fun _ => rfl⟩
  | cons x xs ih =>
    change (f x >>= fun _ => xs.forM f) = .ok () ↔ _
    rw [bind_eq_ok, List.forall_mem_cons, ← ih]
    exact ⟨fun ⟨_, hx, hxs⟩ => ⟨hx, hxs⟩, fun ⟨hx, hxs⟩ => ⟨(), hx, hxs⟩⟩

theorem exists_unit {p : Prop} : (∃ _ : Unit, p) ↔ p := ⟨fun ⟨_, h⟩ => h, fun h => ⟨(), h⟩⟩

end VeraMono.Framework
