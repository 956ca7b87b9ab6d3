import VeraMono.Model.TaskScope

/-!
# Provider effects

The id that a provider effect has in the effect fence and in the outbound audit is made of the
provider id and the effect id of its binding, and `assess_provider_effect` reports what these say
of that id.
-/

namespace VeraMono

open Framework

variable {D : Type}

namespace ProviderExecutionBinding

def mechanicalEffectId (b : ProviderExecutionBinding D) : String :=
  s!"provider:{b.providerId}:{b.effectId}"

end ProviderExecutionBinding

structure ProviderExecutionRecoveryAssessment where
  effectId : String
  mechanicalEffectId : String
  providerId : String
  operation : String
  fenceState : Option String
  lifecyclePermitCurrent : Bool
  dispatchCandidateAllowed : Bool
  recoveryRequired : Bool
  terminal : Bool
  reason : String
  deriving DecidableEq

/-- What an assessment says of a binding, its receipt in the fence and its permit. -/
def providerAssessment (b : ProviderExecutionBinding D) (receipt : Option (EffectReceipt D))
    (lifecycleCurrent : Bool) : ProviderExecutionRecoveryAssessment :=
  let assessed (dispatchCandidateAllowed recoveryRequired terminal : Bool) (reason : String) :=
    ⟨b.effectId, b.mechanicalEffectId, b.providerId, b.operation, receipt.map fun r => r.state.value,
      lifecycleCurrent, dispatchCandidateAllowed, recoveryRequired, terminal, reason⟩
  match receipt with
  | none =>
    assessed lifecycleCurrent false false
      (if lifecycleCurrent then "provider request is prepared but has no mechanical effect record"
        else "provider request is prepared under a stale lifecycle permit")
  | some receipt =>
    match receipt.state with
    | .reserved =>
      assessed false false false
        "provider effect is durably reserved pre-dispatch; cancel it rather than reusing the effect identity"
    | .executing | .attemptedUnknown =>
      assessed false true false
        ("provider effect may have crossed the dispatch boundary; " ++
          "reconciliation is required before any replacement action")
    | .committed | .reconciledCommitted | .reconciledNoEffect | .cancelledPreDispatch =>
      assessed false false true "provider effect identity has reached a terminal mechanical state"

variable [DecidableEq D] (R : Runtime D)

def permitCurrent (permit : AcceptedLifecyclePermit D) : Op D Bool :=
  tryCatch
    (do
      let _ ← validateActionPermit R permit
      return true)
    (fun e => if e.kind = .lifecycleActionDenied then return false else throw e)

/-- `assess_provider_effect`, on the bindings that are stored. -/
def assessProviderEffect (bindings : ProviderExecutionBindingStore D) (effectId : String) :
    Op D ProviderExecutionRecoveryAssessment :=
  match bindings.get? effectId with
  | none => throw (keyError effectId)
  | some binding => do
    let _ ← OutboundExecutionAudit.verifyFenceConsistency R.hash []
    let receipt ← .read fun s => s.fence.get? binding.mechanicalEffectId
    let current ← permitCurrent R binding.permit
    return providerAssessment binding receipt current

end VeraMono
