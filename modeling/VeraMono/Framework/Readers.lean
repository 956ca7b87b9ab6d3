import VeraMono.Framework.Lockfree

/-!
# Readers in a system without locks

A call that reads a shared store in several atoms sees one state of the store only if nobody
writes between its atoms. `Undisturbed` says that of the moves of one thread, and `Follows.reader`
that such a thread is where it would be had it run alone.
-/

namespace VeraMono.Framework

/-- A value bound for a column of texts: a text, or another one by its literal, with the text that
the affinity of the column makes of it, if it makes one. -/
inductive SqlText
  | text (s : String)
  | other (literal : String) (converted : Option String)
  deriving DecidableEq

namespace SqlText

/-- What the column stores and compares. -/
def stored : SqlText → Option String
  | .text s => some s
  | .other _ converted => converted

def literal : SqlText → String
  | .text s => s
  | .other literal _ => literal

def IsText (v : SqlText) : Prop := ∃ s, v = .text s

theorem isText_iff {v : SqlText} {s : String} (h : v.stored = some s) : v.IsText ↔ v = .text s := by
  constructor
  · rintro ⟨s', rfl⟩
    exact congrArg SqlText.text (Option.some.inj h)
  · rintro rfl
    exact ⟨s, rfl⟩

end SqlText

variable {σ ε α C : Type}

/-- No step between two steps of thread `i` changes the store. -/
def Undisturbed (i : Nat) (trace : List (Step Empty σ C)) : Prop :=
  ∀ later st between st' earlier, trace = later ++ st :: (between ++ st' :: earlier) →
    st.thread = i → st'.thread = i → ∀ w ∈ between, w.move.after = w.move.before

namespace Prog

variable {p : Prog Empty σ ε α} {h : List (Move Empty σ)} {s s' : σ}

theorem All.after {R : σ → σ → Prop} (hp : p.All R) : (p.after h).All R := by
  induction h with
  | nil => exact hp
  | cons m h ih =>
    rw [Prog.after]
    generalize p.after h = q at ih
    cases q with
    | atom act next => exact (ih m.before).2
    | _ => exact ih

theorem All.steps {R : σ → σ → Prop} (hp : p.All R) (hs : p.Steps s s') : R s s' := by
  cases p with
  | atom act next => exact (show s' = act s from hs) ▸ (hp s).1
  | _ => exact hs.elim

/-- A reader whose moves all met one store has come as far as it would alone. -/
theorem ReadOnly.run_after (hp : p.ReadOnly) (hh : ∀ m ∈ h, m.before = s) :
    (p.after h).run s = p.run s := by
  induction h with
  | nil => rfl
  | cons m h ih =>
    have hm : m.before = s := hh m List.mem_cons_self
    have ih := ih fun m' hm' => hh m' (List.mem_cons_of_mem m hm')
    have hro : (p.after h).ReadOnly := All.after hp
    rw [Prog.after]
    generalize p.after h = q at ih hro
    cases q with
    | atom act next =>
      have hact : act s = s := (hro s).1
      rw [← ih, run, hact, hm]
    | _ => exact ih

end Prog

open Prog

namespace Traced

variable {program : C → Prog Empty σ ε α} {s₀ s : σ} {trace : List (Step Empty σ C)} {i : Nat}

/-- Steps that change nothing leave the store as the step before them left it. -/
theorem still {between earlier : List (Step Empty σ C)} {st : Step Empty σ C}
    (h : Traced program s₀ (between ++ st :: earlier) s)
    (hb : ∀ w ∈ between, w.move.after = w.move.before) : s = st.move.after := by
  induction between generalizing s with
  | nil =>
    cases h with
    | step i c ht hc hs => rfl
  | cons w between ih =>
    cases h with
    | @step _ s₁ _ i c ht hc hs =>
      have hw : s = s₁ := hb _ List.mem_cons_self
      exact hw.trans (ih ht fun w' hw' => hb w' (List.mem_cons_of_mem _ hw'))

/-- The invariant of a run all of whose steps meet a condition `G`, in every store it met. -/
theorem invariant_of {I : σ → Prop} {G : Step Empty σ C → Prop} (h : Traced program s₀ trace s)
    (h₀ : I s₀) (hG : ∀ st ∈ trace, G st)
    (hstep : ∀ (st : Step Empty σ C) moves, ((program st.call).after moves).Steps st.move.before st.move.after →
      G st → I st.move.before → I st.move.after) :
    I s ∧ ∀ st ∈ trace, I st.move.before := by
  induction h with
  | init => exact ⟨h₀, fun _ hst => (by cases hst)⟩
  | step i c ht hc hs ih =>
    obtain ⟨hi, hall⟩ := ih fun st hst => hG st (List.mem_cons_of_mem _ hst)
    refine ⟨hstep _ _ hs (hG _ List.mem_cons_self) hi, fun st hst => ?_⟩
    rcases List.mem_cons.1 hst with rfl | hst
    · exact hi
    · exact hall st hst

/-- Of two steps of a run one is the earlier, and what every atom may do at most relates the
stores between them. -/
theorem ordered {R : σ → σ → Prop} {st st' : Step Empty σ C} (hrefl : ∀ s, R s s)
    (htrans : ∀ s s' s'', R s s' → R s' s'' → R s s'')
    (hstep : ∀ c h s s', ((program c).after h).Steps s s' → R s s') (h : Traced program s₀ trace s)
    (hst : st ∈ trace) (hst' : st' ∈ trace) :
    st = st' ∨ R st.move.after st'.move.before ∨ R st'.move.after st.move.before := by
  obtain ⟨later, earlier, rfl⟩ := List.append_of_mem hst
  rcases List.mem_append.1 hst' with hst' | hst'
  · obtain ⟨later', between, rfl⟩ := List.append_of_mem hst'
    rw [List.append_assoc] at h
    exact .inr (.inl (h.split.1.since hrefl htrans hstep (by simp)).2)
  · rcases List.mem_cons.1 hst' with rfl | hst'
    · exact .inl rfl
    · exact .inr (.inr (h.split.1.since hrefl htrans hstep hst').2)

/-- The moves of an undisturbed reader all met one store. -/
theorem before_eq (h : Traced program s₀ trace s) (hu : Undisturbed i trace)
    (hro : ∀ st ∈ trace, st.thread = i → (program st.call).ReadOnly) {m : Move Empty σ}
    {moves : List (Move Empty σ)} (hm : hist i trace = m :: moves) :
    ∀ m' ∈ hist i trace, m'.before = m.before := by
  induction moves generalizing trace s m with
  | nil =>
    intro m' hm'
    rw [hm, List.mem_singleton] at hm'
    rw [hm']
  | cons m₁ moves ih =>
    obtain ⟨later, st, rest, rfl, hst, rfl, hrest⟩ := hist_split hm
    obtain ⟨between, st₁, earlier, rfl, hst₁, rfl, -⟩ := hist_split hrest
    obtain ⟨hbefore, -, -⟩ := h.split
    have hstill := hbefore.still (hu later st between st₁ earlier rfl hst hst₁)
    obtain ⟨-, -, hs₁⟩ := hbefore.split
    have hin : st₁ ∈ later ++ st :: (between ++ st₁ :: earlier) := by simp
    have hread : st₁.move.after = st₁.move.before := (All.after (hro st₁ hin hst₁)).steps hs₁
    have hu' : Undisturbed i (between ++ st₁ :: earlier) := by
      intro l a b a' e heq
      exact hu (later ++ st :: l) a b a' e (by rw [heq]; simp)
    have ih := ih hbefore hu' (fun x hx => hro x (by simp only [List.mem_append, List.mem_cons] at hx ⊢; tauto)) hrest
    intro m' hm'
    rw [hm, List.mem_cons] at hm'
    rcases hm' with rfl | hm'
    · rfl
    · rw [ih m' (hrest ▸ hm'), hstill, hread]

end Traced

namespace Follows

variable {program : C → Prog Empty σ ε α} {s₀ : σ} {P : Pool Empty σ ε α C} {i : Nat} {c : C}
  {p : Prog Empty σ ε α}

/-- What is left of an undisturbed reader does what the reader would do alone, in a store
that the run met. -/
theorem reader (h : Follows program s₀ P) (hc : (program c).ReadOnly) (hu : Undisturbed i P.trace)
    (hi : P.thread i = some ⟨c, some p⟩) :
    ∃ s, (s = s₀ ∨ ∃ st ∈ P.trace, st.move.before = s) ∧ p.run s = (program c).run s := by
  have hp := h.prog i c p hi
  match hm : hist i P.trace with
  | [] =>
    rw [hm] at hp
    exact ⟨s₀, .inl rfl, by rw [hp, Prog.after]⟩
  | m :: moves =>
    have hro (st : Step Empty σ C) (hst : st ∈ P.trace) (hth : st.thread = i) :
        (program st.call).ReadOnly := by
      obtain ⟨t, ht, hcall⟩ := h.calls st hst
      rw [hth, hi] at ht
      cases ht
      exact hcall ▸ hc
    obtain ⟨later, st, earlier, htr, -, rfl, -⟩ := hist_split hm
    refine ⟨st.move.before, .inr ⟨st, htr ▸ (by simp), rfl⟩, ?_⟩
    rw [hp]
    exact ReadOnly.run_after hc (h.traced.before_eq hu hro hm)

/-- A reader that succeeds in every store of an invariant raises nothing where it is undisturbed. -/
theorem undisturbed_ok {I : σ → Prop} (h : Follows program s₀ P) (hc : (program c).ReadOnly)
    (hu : Undisturbed i P.trace) (h₀ : I s₀) (hI : ∀ st ∈ P.trace, I st.move.before)
    (hok : ∀ s, I s → ∃ a, ((program c).run s).1 = .ok a) {e : ε} :
    P.thread i ≠ some ⟨c, some (.raise e)⟩ := by
  intro hi
  obtain ⟨s, hs, hrun⟩ := h.reader hc hu hi
  have hIs : I s := hs.elim (fun hs => hs ▸ h₀) fun ⟨st, hst, hb⟩ => hb ▸ hI st hst
  obtain ⟨a, ha⟩ := hok s hIs
  rw [← hrun] at ha
  cases ha

end Follows

end VeraMono.Framework
