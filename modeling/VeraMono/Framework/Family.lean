import VeraMono.Framework.Component
import VeraMono.Framework.Lockfree

/-!
# Families of stores

Programs without locks on a component of the store: what is left of such a program after its
moves, and what its next atom does, is what the component sees of it. A family of stores has
a component at each index.
-/

namespace VeraMono.Framework

variable {ι σ τ ε α β : Type}

/-- The store of a family at an index. -/
def Component.at [DecidableEq ι] (i : ι) : Component (ι → τ) τ :=
  ⟨fun s => s i, fun s t => Function.update s i t, fun _ _ => Function.update_self ..⟩

namespace Prog

variable {V : Component σ τ} {p : Prog Empty τ ε α} {h : List (Move Empty σ)} {s s' : σ}

theorem after_on : (p.on V).after h = (p.after (V.moves h)).on V := by
  induction h with
  | nil => rfl
  | cons m h ih =>
    have hm : V.moves (m :: h) = m.on V :: V.moves h := rfl
    rw [hm, after, after, ih]
    cases p.after (V.moves h) with
    | acquire l _ _ | release l _ => exact l.elim
    | _ => rfl

theorem steps_on (hs : (p.on V).Steps s s') : p.Steps (V.get s) (V.get s') := by
  cases p with
  | atom act next => exact (congrArg V.get hs).trans (V.get_put ..)
  | acquire l _ _ | release l _ => exact l.elim
  | _ => exact hs

/-- An atom that changes the whole changes the component. -/
theorem steps_on_ne (hs : (p.on V).Steps s s') (hself : V.put s (V.get s) = s) (hne : s' ≠ s) :
    V.get s' ≠ V.get s := by
  intro heq
  have hget := steps_on hs
  cases p with
  | atom act next =>
    refine hne (hs.trans ?_)
    change V.put s (act (V.get s)) = s
    rw [← show V.get s' = act (V.get s) from hget, heq, hself]
  | acquire l _ _ | release l _ => exact l.elim
  | _ => exact hs

theorem on_eq_ret {a : α} (hp : p.on V = ret a) : p = ret a := by
  cases p with
  | ret b => exact congrArg ret (ret.inj hp)
  | _ => cases hp

theorem ends_on {a : α} (hs : (p.on V).Ends s s' a) : p.Ends (V.get s) (V.get s') a := by
  cases p with
  | atom act next => exact ⟨(congrArg V.get hs.1).trans (V.get_put ..), on_eq_ret hs.2⟩
  | acquire l _ _ | release l _ => exact l.elim
  | _ => exact hs

theorem map_eq_ret {q : Prog Empty σ ε α} {f : α → β} {b : β} (hq : q.map f = ret b) :
    ∃ a, q = ret a ∧ f a = b := by
  cases q with
  | ret a => exact ⟨a, rfl, ret.inj hq⟩
  | _ => cases hq

theorem ends_map {q : Prog Empty σ ε α} {f : α → β} {b : β} (hs : (q.map f).Ends s s' b) :
    ∃ a, q.Ends s s' a ∧ f a = b := by
  cases q with
  | atom act next =>
    obtain ⟨a, ha, hb⟩ := map_eq_ret hs.2
    exact ⟨a, ⟨hs.1, ha⟩, hb⟩
  | acquire l _ _ | release l _ => exact l.elim
  | _ => exact hs.elim

end Prog

end VeraMono.Framework
