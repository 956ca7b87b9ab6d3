import VeraMono.Framework.Contract

/-!
# Programs that return

`Gives A` is the end of a program that raises nothing and returns a value of which `A` holds. A
program that only reads and keeps its contract ends, when it is run alone, as the contract says, with
a history of moves that all met one store.
-/

namespace VeraMono.Framework

variable {L σ ε α β : Type}

/-- It returns, and `A` holds of what it returns. -/
def Gives (A : α → List (Move L σ) → σ → Prop) : Except ε α → List (Move L σ) → σ → Prop
  | .ok a => A a
  | .error _ => fun _ _ => False

theorem Prog.ofExcept_ok_bind (a : α) (f : α → Prog L σ ε β) : (Prog.ofExcept (.ok a) >>= f) = f a := rfl

variable [DecidableEq L] {Γ : Contract L σ} {held : Finset L} {P : List (Move L σ) → σ → Prop}
  {A : α → List (Move L σ) → σ → Prop}

omit [DecidableEq L] in
theorem Gives.stable (hA : ∀ a, Γ.Stable held (A a)) : ∀ r : Except ε α, Γ.Stable held (Gives A r)
  | .ok a => hA a
  | .error _ => fun _ _ _ _ _ h _ => h.elim

namespace Triple

theorem read {f : σ → α} (hP : Γ.Stable held P) (hA : ∀ a, Γ.Stable held (A a))
    (hf : ∀ h s, Γ.inv s → P h s → Γ.guar h held s s ∧ A (f s) (⟨.act, s, s⟩ :: h) s) :
    Triple Γ held P (Prog.read f : Prog L σ ε α) (Gives A) :=
  .readM hP (Gives.stable hA) hf

/-- A program goes on with what the first one returned. -/
theorem thenGives {p : Prog L σ ε α} {f : α → Prog L σ ε β} {R : Except ε β → List (Move L σ) → σ → Prop}
    (hp : Triple Γ held P p (Gives A)) (hf : ∀ a, Triple Γ held (A a) (f a) R) :
    Triple Γ held P (p >>= f) R :=
  .bind hp hf fun _ _ _ _ h => h.elim

theorem givesPure {a : α} (hA : Γ.Stable held (A a)) (hPA : ∀ h s, Γ.inv s → P h s → A a h s) :
    Triple Γ held P (Pure.pure a : Prog L σ ε α) (Gives A) :=
  .pure hA hPA

/-- A loop whose every pass returns and keeps an assertion. -/
theorem givesForM {f : β → Prog L σ ε PUnit} {xs : List β} (hP : Γ.Stable held P)
    (hf : ∀ x ∈ xs, Triple Γ held P (f x) (Gives fun _ => P)) :
    Triple Γ held P (xs.forM f) (Gives fun _ => P) := by
  induction xs with
  | nil => exact givesPure hP fun _ _ _ h => h
  | cons x xs ih =>
    change Triple Γ held P (f x >>= fun _ => xs.forM f) _
    exact thenGives (hf x List.mem_cons_self) fun _ => ih fun y hy => hf y (List.mem_cons_of_mem x hy)

theorem givesMap {p : Prog L σ ε α} (hp : Triple Γ held P p (Gives A)) (f : α → β) :
    Triple Γ held P (p.map f) (Gives fun b h s => ∃ a, b = f a ∧ A a h s) :=
  (hp.map f).conseq (fun _ _ _ h => h) fun r h s _ hr => by
    obtain ⟨r', rfl, hr'⟩ := hr
    cases r' with
    | ok a => exact ⟨a, rfl, hr'⟩
    | error e => exact hr'.elim

end Triple

omit [DecidableEq L] in
theorem Prog.ReadOnly.forM {f : β → Prog L σ ε PUnit} {xs : List β} (hf : ∀ x, (f x).ReadOnly) :
    (xs.forM f : Prog L σ ε PUnit).ReadOnly := by
  induction xs with
  | nil => trivial
  | cons x xs ih => exact Prog.All.bind (hf x) fun _ => ih

theorem Safe.run_alone {Q : Post L σ ε α} {p : Prog L σ ε α} {h : List (Move L σ)} {s : σ}
    (hro : p.ReadOnly) (hp : Safe Γ Q p held h s) (hh : ∀ m ∈ h, m.before = s) :
    ∃ h', (∀ m ∈ h', m.before = s) ∧ Q (p.run s).1 held h' s := by
  induction p generalizing h with
  | ret a => exact ⟨h, hh, hp s .refl⟩
  | raise e => exact ⟨h, hh, hp s .refl⟩
  | atom act next ih =>
    obtain ⟨hact, hnext⟩ := hro s
    obtain ⟨-, -, hn⟩ := hp s .refl
    rw [hact] at hn
    rw [Prog.run, hact]
    refine ih s hnext hn fun m hm => ?_
    rcases List.mem_cons.1 hm with rfl | hm
    · rfl
    · exact hh m hm
  | acquire | release => exact hro.elim

end VeraMono.Framework
