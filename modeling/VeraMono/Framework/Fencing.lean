import Mathlib.Order.Lattice

/-!
# Fencing tokens

A registry hands out tokens, each for a key, and at any time each key has at most one
that is live. A step drops or issues: it makes no token live except one above every
token issued so far. Then the tokens of a run increase, and a token that is not live
any more never is again, whatever its key is used for.
-/

namespace VeraMono.Framework

variable {K τ σ : Type} [LinearOrder τ]

/-- What a registry shows of its tokens. -/
structure Fencing (K τ : Type) where
  live : K → τ → Prop
  last : τ

namespace Fencing

variable {f f' : Fencing K τ} {k : K} {t : τ}

inductive Step (f f' : Fencing K τ) : Option τ → Prop
  | drop : (∀ k t, f'.live k t → f.live k t) → f'.last = f.last → Step f f' none
  | issue (k : K) (t : τ) : f.last < t → f'.last = t →
      (∀ k' t', f'.live k' t' → (k' = k ∧ t' = t) ∨ f.live k' t') → Step f f' (some t)

/-- Every live token was issued. -/
def Bounded (f : Fencing K τ) : Prop := ∀ k t, f.live k t → t ≤ f.last

/-- A token that was issued and is not live. -/
def Retired (f : Fencing K τ) (k : K) (t : τ) : Prop := t ≤ f.last ∧ ¬ f.live k t

theorem Step.last_le {o : Option τ} (hs : Step f f' o) : f.last ≤ f'.last := by
  cases hs with
  | drop _ hlast => exact hlast.ge
  | issue k t hlt hlast _ => exact hlast ▸ hlt.le

theorem Step.bounded {o : Option τ} (hs : Step f f' o) (hb : f.Bounded) : f'.Bounded := by
  cases hs with
  | drop hback hlast => exact fun k t ht => hlast ▸ hb k t (hback k t ht)
  | issue k t hlt hlast hback =>
    intro k' t' ht'
    rcases hback k' t' ht' with ⟨-, rfl⟩ | hold
    · exact hlast.ge
    · exact hlast ▸ (hb k' t' hold).trans hlt.le

theorem Step.retired {o : Option τ} (hs : Step f f' o) (hr : f.Retired k t) : f'.Retired k t := by
  refine ⟨hr.1.trans hs.last_le, fun hlive => ?_⟩
  cases hs with
  | drop hback _ => exact hr.2 (hback k t hlive)
  | issue k' t' hlt _ hback =>
    rcases hback k t hlive with ⟨-, rfl⟩ | hold
    · exact absurd hr.1 (not_le.2 hlt)
    · exact hr.2 hold

/-- The end of a token: it was live, and a step left it without. -/
theorem Step.retires {o : Option τ} (hs : Step f f' o) (hb : f.Bounded) (hlive : f.live k t)
    (hgone : ¬ f'.live k t) : f'.Retired k t := ⟨(hb k t hlive).trans hs.last_le, hgone⟩

/-! ## Runs -/

variable {α : Type} {step : σ → α → σ} {issues : σ → α → Option τ} {view : σ → Fencing K τ}

def issued (step : σ → α → σ) (issues : σ → α → Option τ) (s : σ) : List α → List τ
  | [] => []
  | a :: as => (issues s a).toList ++ issued step issues (step s a) as

theorem run_bounded (hstep : ∀ s a, Step (view s) (view (step s a)) (issues s a)) (as : List α) {s : σ}
    (hb : (view s).Bounded) : (view (as.foldl step s)).Bounded := by
  induction as generalizing s with
  | nil => exact hb
  | cons a as ih => exact ih ((hstep s a).bounded hb)

theorem run_retired (hstep : ∀ s a, Step (view s) (view (step s a)) (issues s a)) (as : List α) {s : σ}
    (hr : (view s).Retired k t) : (view (as.foldl step s)).Retired k t := by
  induction as generalizing s with
  | nil => exact hr
  | cons a as ih => exact ih ((hstep s a).retired hr)

theorem lt_of_issued (hstep : ∀ s a, Step (view s) (view (step s a)) (issues s a)) (as : List α) {s : σ}
    (ht : t ∈ issued step issues s as) : (view s).last < t := by
  induction as generalizing s with
  | nil => cases ht
  | cons a as ih =>
    have hs := hstep s a
    rcases List.mem_append.1 ht with ht | ht
    · rw [Option.mem_toList] at ht
      rw [ht] at hs
      cases hs with
      | issue k t hlt _ _ => exact hlt
    · exact hs.last_le.trans_lt (ih ht)

/-- The tokens of a run strictly increase. -/
theorem issued_increasing (hstep : ∀ s a, Step (view s) (view (step s a)) (issues s a)) (as : List α)
    (s : σ) : (issued step issues s as).Pairwise (· < ·) := by
  induction as generalizing s with
  | nil => exact .nil
  | cons a as ih =>
    have hs := hstep s a
    rw [issued]
    cases ho : issues s a with
    | none => exact ih (step s a)
    | some t =>
      rw [ho] at hs
      refine List.pairwise_cons.2 ⟨fun t' ht' => ?_, ih (step s a)⟩
      cases hs with
      | issue k t _ hlast _ => exact hlast ▸ lt_of_issued hstep as ht'

end Fencing

end VeraMono.Framework
