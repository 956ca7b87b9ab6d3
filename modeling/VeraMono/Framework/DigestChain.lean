import Mathlib.Data.List.Forall2
import Mathlib.Data.List.Induction

/-!
# Chains of digests, from their head

A list of entries each of which names the digest of the one before it, and carries a digest of
its own. `same_of_head` compares two such chains from their common head backwards: where no two
entries with one digest differ and none has the digest that a chain starts from, the chains are
the same entry by entry, whatever their lengths were taken to be.
-/

namespace VeraMono.Framework

variable {E D : Type}

/-- What an entry names before it, and the digest that it has. -/
structure Linking (E D : Type) where
  predecessor : E → D
  digest : E → D

namespace Linking

variable (X : Linking E D)

/-- The entries lead from one digest to another. -/
def Leads : D → List E → D → Prop
  | d, [], d' => d = d'
  | d, e :: es, d' => X.predecessor e = d ∧ Leads (X.digest e) es d'

variable {X}

theorem leads_concat {d d' : D} {es : List E} {e : E} :
    X.Leads d (es ++ [e]) d' ↔ X.Leads d es (X.predecessor e) ∧ X.digest e = d' := by
  induction es generalizing d with
  | nil => exact ⟨fun ⟨h, h'⟩ => ⟨h.symm, h'⟩, fun ⟨h, h'⟩ => ⟨h.symm, h'⟩⟩
  | cons f es ih =>
    rw [List.cons_append, Leads, Leads, ih, and_assoc]

theorem same_of_head {r : E → E → Prop} {genesis head : D} {es fs : List E}
    (hsame : ∀ e ∈ es, ∀ f ∈ fs, X.digest e = X.digest f → r e f ∧ X.predecessor e = X.predecessor f)
    (hes : ∀ e ∈ es, X.digest e ≠ genesis) (hfs : ∀ f ∈ fs, X.digest f ≠ genesis)
    (h : X.Leads genesis es head) (h' : X.Leads genesis fs head) : List.Forall₂ r es fs := by
  induction es using List.reverseRecOn generalizing fs head with
  | nil =>
    rcases fs.eq_nil_or_concat with rfl | ⟨fs, f, rfl⟩
    · exact .nil
    · rw [List.concat_eq_append] at h' hfs
      exact absurd ((leads_concat.1 h').2.trans h.symm) (hfs f (by simp))
  | append_singleton es e ih =>
    rcases fs.eq_nil_or_concat with rfl | ⟨fs, f, rfl⟩
    · exact absurd ((leads_concat.1 h).2.trans h'.symm) (hes e (by simp))
    · rw [List.concat_eq_append] at h' hfs hsame ⊢
      obtain ⟨he, hhead⟩ := leads_concat.1 h
      obtain ⟨hf, hhead'⟩ := leads_concat.1 h'
      obtain ⟨hr, hpred⟩ := hsame e (by simp) f (by simp) (hhead.trans hhead'.symm)
      refine List.rel_append (ih ?_ ?_ ?_ he (hpred ▸ hf)) (.cons hr .nil)
      · exact fun x hx y hy => hsame x (List.mem_append_left _ hx) y (List.mem_append_left _ hy)
      · exact fun x hx => hes x (List.mem_append_left _ hx)
      · exact fun y hy => hfs y (List.mem_append_left _ hy)

end Linking

end VeraMono.Framework
