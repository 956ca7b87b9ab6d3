import VeraMono.Framework.Prog

/-!
# Runs of transactions

A system whose calls are transactions: each commits a new store or raises and leaves
the store as it was, so a run is the list of the calls in the order of their commits.
`Run.invariant` is the induction over a run.
-/

namespace VeraMono.Framework

variable {σ ε α C : Type}

/-- The store after a call. -/
def commit (op : C → σ → Except ε (α × σ)) (s : σ) (c : C) : σ := Prog.committed (op c s) s

def runCalls (op : C → σ → Except ε (α × σ)) (s : σ) (cs : List C) : σ := cs.foldl (commit op) s

variable {op : C → σ → Except ε (α × σ)} {s s' : σ} {c : C} {cs : List C}

theorem commit_ok {a : α} (h : op c s = .ok (a, s')) : commit op s c = s' := by
  rw [commit, h, Prog.committed]

theorem commit_error {e : ε} (h : op c s = .error e) : commit op s c = s := by
  rw [commit, h, Prog.committed]

theorem commit_cases {P : σ → Prop} (hs : P s) (hc : ∀ a s', op c s = .ok (a, s') → P s') :
    P (commit op s c) := by
  cases h : op c s with
  | error e => exact (commit_error h).symm ▸ hs
  | ok r => exact (commit_ok (a := r.1) h).symm ▸ hc r.1 r.2 h

theorem runCalls_invariant {P : σ → Prop} (hs : P s)
    (hstep : ∀ s c a s', P s → op c s = .ok (a, s') → P s') : P (runCalls op s cs) := by
  induction cs generalizing s with
  | nil => exact hs
  | cons c cs ih => exact ih (commit_cases hs fun a s' h => hstep s c a s' hs h)

/-- The same where only some calls, chosen by the state they meet, keep it. -/
theorem runCalls_invariant_of {P : σ → Prop} {G : σ → C → Prop} (hs : P s)
    (hstep : ∀ s c a s', P s → G s c → op c s = .ok (a, s') → P s')
    (hG : ∀ before c after, cs = before ++ c :: after → G (runCalls op s before) c) :
    P (runCalls op s cs) := by
  induction cs generalizing s with
  | nil => exact hs
  | cons c cs ih =>
    refine ih (commit_cases hs fun a s' h => hstep s c a s' hs (hG [] c cs rfl) h) ?_
    rintro before c' after rfl
    exact hG (c :: before) c' after rfl

theorem runCalls_append {cs' : List C} :
    runCalls op s (cs ++ cs') = runCalls op (runCalls op s cs) cs' := List.foldl_append

/-- What the calls that commit return, in order. -/
def results (op : C → σ → Except ε (α × σ)) : σ → List C → List α
  | _, [] => []
  | s, c :: cs =>
    match op c s with
    | .ok (a, s') => a :: results op s' cs
    | .error _ => results op s cs

theorem results_ok {a : α} (h : op c s = .ok (a, s')) : results op s (c :: cs) = a :: results op s' cs := by
  rw [results, h]

theorem results_error {e : ε} (h : op c s = .error e) : results op s (c :: cs) = results op s cs := by
  rw [results, h]

/-- What every committed call keeps, of the results so far and the store, holds after a run. -/
theorem results_invariant_of {P : List α → σ → Prop} {G : σ → C → Prop} {before : List α} (hs : P before s)
    (hstep : ∀ as s c a s', P as s → G s c → op c s = .ok (a, s') → P (as ++ [a]) s')
    (hG : ∀ before c after, cs = before ++ c :: after → G (runCalls op s before) c) :
    P (before ++ results op s cs) (runCalls op s cs) := by
  induction cs generalizing s before with
  | nil => rwa [results, List.append_nil]
  | cons c cs ih =>
    have hrest : ∀ before' c' after, cs = before' ++ c' :: after → G (runCalls op (commit op s c) before') c' := by
      rintro before' c' after rfl
      exact hG (c :: before') c' after rfl
    cases h : op c s with
    | error e =>
      rw [commit_error h] at hrest
      rw [results_error h, runCalls, List.foldl_cons, commit_error h]
      exact ih hs hrest
    | ok r =>
      obtain ⟨a, s'⟩ := r
      rw [commit_ok h] at hrest
      rw [results_ok h, runCalls, List.foldl_cons, commit_ok h]
      have hnext := ih (hstep before s c a s' hs (hG [] c cs rfl) h) hrest
      rwa [List.append_assoc] at hnext

/-- The same where every call keeps it. -/
theorem results_invariant {P : List α → σ → Prop} (hs : P [] s)
    (hstep : ∀ as s c a s', P as s → op c s = .ok (a, s') → P (as ++ [a]) s') :
    P (results op s cs) (runCalls op s cs) :=
  results_invariant_of (G := fun _ _ => True) hs (fun as s c a s' hP _ h => hstep as s c a s' hP h)
    fun _ _ _ _ => trivial

end VeraMono.Framework
