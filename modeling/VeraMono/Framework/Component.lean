import VeraMono.Framework.Pool

/-!
# Programs on a component of the store

A store that is made of several ones has programs that work on one of them: `Prog.on`
runs a program of a component in the whole. What is known of the program on the
component alone holds of it there, when the contract of the whole implies that of the
component (`Lifts`): `Triple.on` is that rule, and `Valid.on` reads a trace of the whole
as a trace of the component.
-/

namespace VeraMono.Framework

variable {L σ τ ε α β C C' : Type}

structure Component (σ τ : Type) where
  get : σ → τ
  put : σ → τ → σ
  get_put : ∀ s t, get (put s t) = t

/-- A move of the whole, as the component sees it. -/
def Move.on (V : Component σ τ) (m : Move L σ) : Move L τ := ⟨m.kind, V.get m.before, V.get m.after⟩

/-- The moves of a thread, as the component sees them. -/
def Component.moves (V : Component σ τ) (h : List (Move L σ)) : List (Move L τ) := h.map (Move.on V)

namespace Prog

/-- A program of a component, run in the whole. -/
def on (V : Component σ τ) : Prog L τ ε α → Prog L σ ε α
  | .ret a => .ret a
  | .raise e => .raise e
  | .atom act next => .atom (fun s => V.put s (act (V.get s))) fun s => (next (V.get s)).on V
  | .acquire l next timeout => .acquire l (next.on V) (timeout.on V)
  | .release l next => .release l (next.on V)

end Prog

/-- A contract of the whole under which a component's threads keep a contract of their own. -/
structure Lifts (V : Component σ τ) (Γ : Contract L τ) (Γ' : Contract L σ) : Prop where
  inv : ∀ {s}, Γ'.inv s → Γ.inv (V.get s)
  rely : ∀ {h held s s'}, Γ'.inv s → Γ'.inv s' → Γ'.rely h held s s' →
    Γ.rely (V.moves h) held (V.get s) (V.get s')
  atom : ∀ {h held s t}, Γ'.inv s → Γ.inv t → Γ.guar (V.moves h) held (V.get s) t →
    Γ'.inv (V.put s t) ∧ Γ'.guar h held s (V.put s t)

namespace Lifts

variable {V : Component σ τ} {Γ : Contract L τ} {Γ' : Contract L σ} {h : List (Move L σ)}
  {held : Finset L} {s s' : σ}

theorem env (hV : Lifts V Γ Γ') (he : Γ'.Env h held s s') :
    Γ.Env (V.moves h) held (V.get s) (V.get s') :=
  he.lift V.get fun _ _ ⟨hi, hi', hr⟩ => ⟨hV.inv hi, hV.inv hi', hV.rely hi hi' hr⟩

variable [DecidableEq L]

theorem safe (hV : Lifts V Γ Γ') {Q : Post L τ ε α} {p : Prog L τ ε α}
    (hp : Safe Γ Q p held (V.moves h) (V.get s)) (hi : Γ'.inv s) :
    Safe Γ' (fun r held h s => Q r held (V.moves h) (V.get s)) (p.on V) held h s := by
  induction p generalizing held h s with
  | ret | raise => exact fun s' he => hp _ (hV.env he)
  | atom act next ih =>
    intro s' he
    obtain ⟨hi', hg, hn⟩ := hp _ (hV.env he)
    obtain ⟨hj, hg'⟩ := hV.atom (he.inv hi) hi' hg
    refine ⟨hj, hg', ih _ ?_ hj⟩
    rw [V.get_put]
    have hm : V.moves (⟨.act, s', V.put s' (act (V.get s'))⟩ :: h) =
        ⟨.act, V.get s', act (V.get s')⟩ :: V.moves h := by
      rw [Component.moves, List.map_cons, Move.on, V.get_put, Component.moves]
    rw [hm]
    exact hn
  | acquire l next timeout ihn iht =>
    exact fun s' he => ⟨fun hl => ihn ((hp _ (hV.env he)).1 hl) (he.inv hi),
      iht (hp _ (hV.env he)).2 (he.inv hi)⟩
  | release l next ih => exact fun s' he => ih (hp _ (hV.env he)) (he.inv hi)

end Lifts

namespace Triple

variable [DecidableEq L] {V : Component σ τ} {Γ : Contract L τ} {Γ' : Contract L σ} {held : Finset L}
  {p : Prog L τ ε α}

/-- A program of a component does in the whole what it does alone. -/
theorem on {P : List (Move L τ) → τ → Prop} {Q : Except ε α → List (Move L τ) → τ → Prop}
    (hV : Lifts V Γ Γ') (hp : Triple Γ held P p Q) :
    Triple Γ' held (fun h s => P (V.moves h) (V.get s)) (p.on V)
      fun r h s => Q r (V.moves h) (V.get s) :=
  fun _ _ hi hs => hV.safe (hp _ _ (hV.inv hi) hs) hi

end Triple

/-! ## Two contracts at once -/

def Contract.both (Γ Γ' : Contract L σ) : Contract L σ where
  inv s := Γ.inv s ∧ Γ'.inv s
  rely h held s s' := Γ.rely h held s s' ∧ Γ'.rely h held s s'
  guar h held s s' := Γ.guar h held s s' ∧ Γ'.guar h held s s'

section
variable [DecidableEq L] {Γ Γ' : Contract L σ} {held : Finset L} {h : List (Move L σ)} {s : σ}
  {p : Prog L σ ε α}

theorem Safe.both {Q Q' : Post L σ ε α} (hp : Safe Γ Q p held h s) (hp' : Safe Γ' Q' p held h s) :
    Safe (Γ.both Γ') (fun r held h s => Q r held h s ∧ Q' r held h s) p held h s := by
  have hl {held : Finset L} {h : List (Move L σ)} {s s' : σ} (he : (Γ.both Γ').Env h held s s') :
      Γ.Env h held s s' :=
    Relation.ReflTransGen.mono (fun _ _ ⟨hi, hi', hr⟩ => ⟨hi.1, hi'.1, hr.1⟩) _ _ he
  have hr {held : Finset L} {h : List (Move L σ)} {s s' : σ} (he : (Γ.both Γ').Env h held s s') :
      Γ'.Env h held s s' :=
    Relation.ReflTransGen.mono (fun _ _ ⟨hi, hi', hr⟩ => ⟨hi.2, hi'.2, hr.2⟩) _ _ he
  induction p generalizing held h s with
  | ret | raise => exact fun s' he => ⟨hp s' (hl he), hp' s' (hr he)⟩
  | atom act next ih =>
    intro s' he
    obtain ⟨hi, hg, hn⟩ := hp s' (hl he)
    obtain ⟨hi', hg', hn'⟩ := hp' s' (hr he)
    exact ⟨⟨hi, hi'⟩, ⟨hg, hg'⟩, ih s' hn hn'⟩
  | acquire l next timeout ihn iht =>
    intro s' he
    obtain ⟨hn, ht⟩ := hp s' (hl he)
    obtain ⟨hn', ht'⟩ := hp' s' (hr he)
    exact ⟨fun hl => ihn (hn hl) (hn' hl), iht ht ht'⟩
  | release l next ih => exact fun s' he => ih (hp s' (hl he)) (hp' s' (hr he))

theorem Triple.both {P P' : List (Move L σ) → σ → Prop}
    {Q Q' : Except ε α → List (Move L σ) → σ → Prop} (hp : Triple Γ held P p Q)
    (hp' : Triple Γ' held P' p Q') :
    Triple (Γ.both Γ') held (fun h s => P h s ∧ P' h s) p fun r h s => Q r h s ∧ Q' r h s := by
  intro h s hi hs
  refine ((hp h s hi.1 hs.1).both (hp' h s hi.2 hs.2)).mono hi fun r held' h s _ hq => ?_
  exact ⟨hq.1.1, hq.1.2, hq.2.2⟩

end

/-! ## Frames -/

section
variable [DecidableEq L] {Γ : Contract L σ} {held : Finset L} {h : List (Move L σ)} {s : σ}
  {p : Prog L σ ε α} {F : σ → Prop}

/-- What neither the others nor any promised step breaks is kept by every program. -/
theorem Safe.frame {Q : Post L σ ε α} (hF : ∀ held, Γ.Stable held fun _ => F)
    (hg : ∀ {h held s s'}, Γ.guar h held s s' → F s → F s') (hp : Safe Γ Q p held h s) (hs : F s) :
    Safe Γ (fun r held h s => Q r held h s ∧ F s) p held h s := by
  have henv {held : Finset L} {h : List (Move L σ)} {s s' : σ} (hs : F s) (he : Γ.Env h held s s') :
      F s' := (hF held).env hs he
  induction p generalizing held h s with
  | ret | raise => exact fun s' he => ⟨hp s' he, henv hs he⟩
  | atom act next ih =>
    intro s' he
    obtain ⟨hi, hgs, hn⟩ := hp s' he
    exact ⟨hi, hgs, ih s' hn (hg hgs (henv hs he))⟩
  | acquire l next timeout ihn iht =>
    exact fun s' he => ⟨fun hl => ihn ((hp s' he).1 hl) (henv hs he), iht (hp s' he).2 (henv hs he)⟩
  | release l next ih => exact fun s' he => ih (hp s' he) (henv hs he)

theorem Triple.frame {P : List (Move L σ) → σ → Prop} {Q : Except ε α → List (Move L σ) → σ → Prop}
    (hF : ∀ held, Γ.Stable held fun _ => F)
    (hg : ∀ {h held s s'}, Γ.guar h held s s' → F s → F s') (hp : Triple Γ held P p Q) :
    Triple Γ held (fun h s => P h s ∧ F s) p fun r h s => Q r h s ∧ F s :=
  fun h s hi hs => ((hp h s hi hs.1).frame hF hg hs.2).mono hi fun _ _ _ _ _ hq =>
    ⟨hq.1.1, hq.1.2, hq.2⟩

end

/-! ## Traces -/

/-- A step of the whole, as the component sees it. -/
def Step.on (V : Component σ τ) (f : C → C') (st : Step L σ C) : Step L τ C' :=
  ⟨st.thread, f st.call, st.move.on V⟩

theorem hist_on (V : Component σ τ) (f : C → C') (i : Nat) (trace : List (Step L σ C)) :
    hist i (trace.map (Step.on V f)) = V.moves (hist i trace) := by
  induction trace with
  | nil => rfl
  | cons st trace ih =>
    obtain ⟨j, c, m⟩ := st
    by_cases hij : j = i
    · subst hij
      rw [List.map_cons, Step.on, hist_cons_self, hist_cons_self, ih]
      rfl
    · rw [List.map_cons, Step.on, hist_cons_other hij, hist_cons_other hij, ih]

theorem holding_on [DecidableEq L] (V : Component σ τ) (h : List (Move L σ)) :
    holding (V.moves h) = holding h := by
  induction h with
  | nil => rfl
  | cons m h ih =>
    rw [Component.moves, List.map_cons, ← Component.moves, holding, holding, ih]
    rfl

/-- A trace of the whole is one of the component, whose promises it keeps. -/
theorem Valid.on [DecidableEq L] {D : Discipline L σ C} {D' : Discipline L τ C'}
    {V : Component σ τ} {f : C → C'} (hinv : ∀ s, D.inv s → D'.inv (V.get s))
    (hguar : ∀ c h held s s', D.guar c h held s s' →
      D'.guar (f c) (V.moves h) held (V.get s) (V.get s')) {s₀ s : σ} {trace : List (Step L σ C)}
    (h : Valid D s₀ trace s) : Valid D' (V.get s₀) (trace.map (Step.on V f)) (V.get s) := by
  induction h with
  | init hi => exact .init (hinv _ hi)
  | act i c _ hi hg ih =>
    refine .act i (f c) ih (hinv _ hi) ?_
    rw [hist_on, holding_on]
    exact hguar _ _ _ _ _ hg
  | lock i c k hk _ ih => exact .lock i (f c) k hk ih

end VeraMono.Framework
