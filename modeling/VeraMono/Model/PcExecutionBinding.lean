import VeraMono.Framework.Component
import VeraMono.Model.PcEnvelopes
import VeraMono.Model.StoredLedgers
import VeraMono.Model.System

/-!
# Bound PC executions

`pc_execution_binding.py`: what a dispatch of a PC job is prepared with, the attempt it is
leased to, and the append-only table that binds each attempt to one of them. A row keeps
the data that its exact JSON text writes, so that reading it back is not modelled, and only
rows of the current schema.
-/

namespace VeraMono

open Framework

structure PCExecutionLease where
  jobId : String
  attemptId : String
  claimGeneration : Int
  leaseId : String
  leaseFence : Int
  deriving DecidableEq

def PCExecutionLease.key (lease : PCExecutionLease) : String × String := (lease.jobId, lease.attemptId)

structure TaskDependencyRef where
  taskId : String
  dependencyId : String
  kind : String
  targetId : String
  bindingEventDigest : String
  deriving DecidableEq

structure PreparedPCDispatch (D : Type) where
  permit : AcceptedLifecyclePermit D
  job : JobEnvelope
  authorization : AuthorizationEnvelope
  jobDigest : String
  authorizationDigest : String
  authoritySubject : String
  taskDependency : Option TaskDependencyRef
  deriving DecidableEq

def PreparedPCDispatch.effectId {D : Type} (prepared : PreparedPCDispatch D) : String :=
  "pc:" ++ prepared.job.envelopeId

/-- A row of `pc_execution_bindings`. -/
structure PCExecutionBinding (D : Type) where
  bindingDigest : String
  prepared : PreparedPCDispatch D
  lease : PCExecutionLease
  deriving DecidableEq

def PCExecutionBinding.key {D : Type} (row : PCExecutionBinding D) : String × String := row.lease.key

abbrev PCExecutionBindingStore (D : Type) := Table (PCExecutionBinding.key (D := D))

/-- What the adapter runs on; `bindingDigest` is the hash of the exact JSON of a binding. -/
structure PcRuntime (D : Type) where
  vera : Runtime D
  envelopes : EnvelopeRuntime
  bindingDigest : PreparedPCDispatch D → PCExecutionLease → String

variable {D : Type} [DecidableEq D] (R : PcRuntime D)

/-- The digest that `sha256_hex(canonical_json_bytes(body))` gives of a dictionary. -/
def PcRuntime.digestOf (R : PcRuntime D) (fields : List (String × PyValue)) : Except Failure String :=
  (canonicalJsonBytes R.vera.py (StoredLedger.dictOf fields)).map fun bytes =>
    R.vera.py.bytesDigest bytes.toList

def textValue (text : String) : PyValue := .str (.valid text)

def pcAuthoritySubject (jobDigest authorizationDigest : String) (lifecyclePermitDigest : D) :
    Except Failure String := do
  let digest ← R.digestOf [("job_digest", textValue jobDigest),
    ("authorization_digest", textValue authorizationDigest),
    ("lifecycle_permit_digest", textValue (R.vera.hash.hex lifecyclePermitDigest))]
  return "vera-mono-pc-authority-v1:" ++ digest

namespace PCExecutionBindingStore

def bindingError (message : String) : Failure := ⟨.pcExecutionBindingError, message⟩

/-- What `_decode` asks of a task dependency. -/
def checkDependency (prepared : PreparedPCDispatch D) : Except Failure Unit :=
  match prepared.taskDependency with
  | none => .ok ()
  | some ref =>
    if ref.kind ≠ "EFFECT" ∨ ref.targetId ≠ prepared.effectId ∨ ref.bindingEventDigest.length ≠ 64 then
      .error (bindingError "stored PC task dependency binding mismatch")
    else .ok ()

def decode (row : PCExecutionBinding D) : Except Failure (PCExecutionBinding D) := do
  let prepared := row.prepared
  if R.bindingDigest prepared row.lease ≠ row.bindingDigest then
    throw (bindingError "PC execution binding digest mismatch")
  prepared.job.validate R.envelopes
  prepared.authorization.validate R.envelopes
  let permit := prepared.permit
  if R.vera.hash.sha256 (.lifecyclePermit permit.canonicalBody) ≠ permit.permitDigest then
    throw (bindingError "stored lifecycle permit digest mismatch")
  let jobDigest ← prepared.job.digest R.envelopes
  let authorizationDigest ← prepared.authorization.digest R.envelopes
  if prepared.jobDigest ≠ jobDigest then
    throw (bindingError "stored PC job digest mismatch")
  if prepared.authorizationDigest ≠ authorizationDigest then
    throw (bindingError "stored PC authorization digest mismatch")
  let subject ← pcAuthoritySubject R jobDigest authorizationDigest permit.permitDigest
  if prepared.authoritySubject ≠ subject then
    throw (bindingError "stored PC authority subject mismatch")
  checkDependency prepared
  return row

def bind (prepared : PreparedPCDispatch D) (lease : PCExecutionLease) (t : PCExecutionBindingStore D) :
    Except Failure (PCExecutionBinding D × PCExecutionBindingStore D) := do
  let row : PCExecutionBinding D := ⟨R.bindingDigest prepared lease, prepared, lease⟩
  match t.get? lease.key with
  | some stored =>
    if stored ≠ row then
      throw (bindingError "PC attempt identity already binds different execution evidence")
    let stored ← decode R stored
    return (stored, t)
  | none =>
    if t.rows.any fun other => other.bindingDigest = row.bindingDigest then
      throw ⟨.integrityError, "UNIQUE constraint failed: pc_execution_bindings.binding_digest"⟩
    return (row, t.insert row)

end PCExecutionBindingStore

end VeraMono
