import VeraMono.Model.System

/-!
# A concrete runtime

A runtime to run the model on. `sample` hashes to 256-bit numbers by absorbing
every field of a document into a polynomial hash, so that a run of it computes.
-/

namespace VeraMono

open Framework

/-- A prime below 2^256. -/
def absorbModulus : Nat := 2 ^ 256 - 189

/-- What a polynomial hash can take in. -/
class Absorb (α : Type) where
  absorb : Nat → α → Nat

open Absorb

instance : Absorb Nat := ⟨fun h n => (h * 1000003 + n + 1) % absorbModulus⟩

instance : Absorb Bool := ⟨fun h b => absorb h (if b then 1 else 0 : Nat)⟩

instance : Absorb Int := ⟨fun h i => absorb (absorb h i.natAbs) (decide (i < 0))⟩

instance {α : Type} [Absorb α] : Absorb (List α) := ⟨fun h as => absorb (as.foldl absorb h) as.length⟩

instance {α : Type} [Absorb α] : Absorb (Option α) where
  absorb h
    | none => absorb h (0 : Nat)
    | some a => absorb (absorb h (1 : Nat)) a

instance {α β : Type} [Absorb α] [Absorb β] : Absorb (α × β) :=
  ⟨fun h p => absorb (absorb h p.1) p.2⟩

instance : Absorb String := ⟨fun h s => absorb h (s.toList.map Char.toNat)⟩

mutual

def absorbJson (h : Nat) : Json → Nat
  | .null => absorb h (0 : Nat)
  | .bool b => absorb (absorb h (1 : Nat)) b
  | .int i => absorb (absorb h (2 : Nat)) i
  | .str s => absorb (absorb h (3 : Nat)) s
  | .arr items => absorbItems (absorb h (4 : Nat)) items
  | .obj entries => absorbEntries (absorb h (5 : Nat)) entries

def absorbItems (h : Nat) : List Json → Nat
  | [] => absorb h (6 : Nat)
  | j :: js => absorbItems (absorbJson h j) js

def absorbEntries (h : Nat) : List (String × Json) → Nat
  | [] => absorb h (7 : Nat)
  | (k, j) :: js => absorbEntries (absorbJson (absorb h k) j) js

end

instance : Absorb Json := ⟨absorbJson⟩

instance : Absorb EffectState where
  absorb h s := absorb h (match s with
    | .reserved => 0 | .executing => 1 | .committed => 2 | .attemptedUnknown => 3
    | .reconciledCommitted => 4 | .reconciledNoEffect => 5 | .cancelledPreDispatch => 6 : Nat)

instance : Absorb AuditEventType where
  absorb h s := absorb h (match s with
    | .authorityVerified => 0 | .reserved => 1 | .executing => 2 | .committed => 3
    | .attemptedUnknown => 4 | .cancelledPreDispatch => 5 | .reconciledCommitted => 6
    | .reconciledNoEffect => 7 : Nat)

instance : Absorb JournalEventType where
  absorb h s := absorb h (match s with
    | .candidatePrepared => 0 | .assuranceBlocked => 1 | .assurancePassed => 2
    | .currentnessCommitted => 3 | .restartReconciledCommitted => 4 : Nat)

instance : Absorb DriftStatus where
  absorb h s := absorb h (match s with | .pass => 0 | .warn => 1 | .block => 2 : Nat)

instance : Absorb FindingCode where
  absorb h s := absorb h (match s with
    | .requiredFieldMissing => 0 | .criticalDrift => 1 | .undeclaredDrift => 2 : Nat)

instance : Absorb MemoryClass where
  absorb h s := absorb h (match s with
    | .autobiographical => 0 | .workingProject => 1 | .historicalAudit => 2 : Nat)

instance : Absorb PermitSchema where
  absorb h
    | .acceptedLifecyclePermitV1 => absorb h (0 : Nat)
    | .other name => absorb (absorb h (1 : Nat)) name

instance : Absorb (DigestText Nat) where
  absorb h
    | .lower d => absorb (absorb h (0 : Nat)) d
    | .upper d => absorb (absorb h (1 : Nat)) d
    | .malformed s => absorb (absorb h (2 : Nat)) s

instance : Absorb (PermitBody Nat) where
  absorb h b := absorb h (b.schema, b.projectId, b.identityId, b.runtimeId, b.memoryHeadDigest,
    b.recoveryCheckpointId, b.recoveryCheckpointDigest, b.recoveryCheckpointGeneration,
    b.controlSourceDigest, b.currentnessSubjectId, b.currentnessGeneration,
    b.currentnessSnapshotDigest, b.currentnessPayloadDigest, b.lifecycleJournalHead)

instance : Absorb (AcceptedLifecyclePermit Nat) where
  absorb h p := absorb h (p.canonicalBody, p.permitDigest)

instance : Absorb (AuthorityCurrentnessReceipt Nat) where
  absorb h r := absorb h (r.schema, r.authorityId, r.role, r.providerId, r.authorityGeneration,
    r.revocationEpoch, r.keyId, r.keyDigest, r.registryGeneration, r.registryHeadDigest,
    r.receiptDigest)

instance : Absorb (ReconciliationAuthority Nat) where
  absorb h r := absorb h (r.authorityId, r.authorityGeneration, r.revocationEpoch, r.keyId,
    r.keyDigest, r.registryGeneration, r.registryHeadDigest, r.receiptDigest)

instance : Absorb (AuditPayload Nat) where
  absorb h p := absorb h (p.requestDigest, p.authorityEvidenceDigest, p.mechanicalPermitDigest,
    p.currentnessEvidenceDigest, p.lifecyclePermit, p.authorityDetails, p.resultDigest,
    p.reconciliationEvidenceDigest, p.reconciliationAuthorityCurrentness,
    p.restartReconstructedFromEffectFence)

instance : Absorb (AuditBody Nat) where
  absorb h b := absorb h (b.effectId, b.effectKind, b.eventType, b.payload)

instance : Absorb (JournalPayload Nat) where
  absorb h
    | .prepared d g c e m s => absorb (absorb h (0 : Nat)) (d, g, c, e, m, s)
    | .blocked c b a f => absorb (absorb h (1 : Nat)) (c, b, a, f)
    | .passed c b a s => absorb (absorb h (2 : Nat)) (c, b, a, s)
    | .committed c g s p => absorb (absorb h (3 : Nat)) (c, g, s, p)

instance : Absorb (JournalBody Nat) where
  absorb h b := absorb h (b.transitionId, b.eventType, b.payload)

instance : Absorb (CheckpointBody Nat) where
  absorb h b := absorb h (b.checkpointId, b.projectId, b.identityId, b.runtimeId,
    b.memoryHeadDigest, b.controlSourceDigest, b.createdAt, b.commitments, b.unfinishedWork)

instance : Absorb (CandidateValues Nat) where
  absorb h v := absorb h (v.projectId, v.identityId, v.runtimeId, v.memoryHeadDigest,
    v.recoveryCheckpointDigest, v.recoveryCheckpointGeneration, v.controlSourceDigest)

instance : Absorb AdmissionRequest where
  absorb h r := absorb h (r.recordId, r.text, r.memoryClass, r.sourceActor, r.authorityRef,
    r.privacyRef, r.provenanceRefs, r.operationId, r.projectId, r.governedIdentityId, r.supersedes)

instance : Absorb (CommandBinding Nat) where
  absorb h b := absorb h (b.commandId, b.effectId, b.command, b.actorWorkstream,
    b.lifecyclePermitDigest, b.invocationDigest, b.requestDigest, b.bindingDigest)

instance : Absorb (CommandResult Nat) where
  absorb h r := absorb h (r.commandId, r.resultDigest, r.resultClass, r.databaseWriteConfirmed,
    r.eventId, r.eventSequence, r.resultRecordDigest)

/-- The polynomial hash of a document, from the number of its schema. -/
def sampleSha256 : Body Nat → Nat
  | .effectRequest i k p d => absorb 1 (i, k, p, d)
  | .mechanicalPermit i r d => absorb 2 (i, r, d)
  | .effectResult i k v => absorb 3 (i, k, v)
  | .lifecyclePermit b => absorb 4 b
  | .auditGenesis => absorb 5 (0 : Nat)
  | .auditEvent n d b => absorb 6 (n, d, b)
  | .journalGenesis => absorb 7 (0 : Nat)
  | .journalEvent n d b => absorb 8 (n, d, b)
  | .checkpointGenesis => absorb 9 (0 : Nat)
  | .checkpoint n d b => absorb 10 (n, d, b)
  | .candidateSnapshot s v => absorb 11 (s, v)
  | .snapshot s v => absorb 12 (s, v)
  | .currentnessPayload v => absorb 13 v
  | .currentnessSnapshot s g p => absorb 14 (s, g, p)
  | .lifecycleReceipt v i s g d a b c j => absorb 15 (v, i, s, g, d, a, b, c, j)
  | .memoryGenesis => absorb 16 (0 : Nat)
  | .memoryRequest r => absorb 17 r
  | .memoryRecord r d => absorb 18 (r, d)
  | .memoryHead p g i r s => absorb 19 (p, g, i, r, s)
  | .reconciliationSubject i r s m a c o d => absorb 20 (i, r, s, m, a, c, o, d)
  | .reconciliationEvidence s i j v a => absorb 21 (s, i, j, v, a)
  | .coordinationAuthority a c t => absorb 22 (a, c, t)
  | .coordinationInvocation c a x k => absorb 23 (c, a, x, k)
  | .commandBinding i e c a l v r => absorb 24 (i, e, c, a, l, v, r)
  | .commandResult b r c w e s => absorb 25 (b, r, c, w, e, s)
  | .commandProjection b r => absorb 26 (b, r)

/-- A standard library that knows no timestamp and no representation. -/
def sampleStdlib : Stdlib := ⟨fun _ => "", fun _ => .invalid, fun _ _ => "", fun _ => ""⟩

/-- A runtime that computes. -/
def sample : Runtime Nat := ⟨⟨sampleSha256, Nat.repr⟩, sampleStdlib, ⟨"p", "i", "s"⟩⟩

def moves {D : Type} (i n : Nat) : List (Event (Call D)) := List.replicate n (.step i)

@[simp] theorem mem_moves {D : Type} {i n : Nat} {e : Event (Call D)} :
    e ∈ moves i n ↔ n ≠ 0 ∧ e = .step i := List.mem_replicate

def sampleCheckpoint {D : Type} (id : String) (memoryHead checkpointHead : D)
    (expectedGeneration : Option Int) : CheckpointArgs D where
  checkpointId := id
  runtimeId := "r"
  expectedMemoryHead := .lower memoryHead
  expectedCheckpointHead := .lower checkpointHead
  expectedCurrentnessGeneration := expectedGeneration
  commitments := []
  unfinishedWork := []
  assuranceBaseline := none
  assurancePolicy := none
  createdAt := none
  now := "n"

def firstCheckpoint : CheckpointArgs Nat :=
  sampleCheckpoint "c1" (sampleSha256 .memoryGenesis) (sampleSha256 .checkpointGenesis) none

/-- A first checkpoint, and a permit for what it accepted. -/
def acceptedRun : List (Event (Call Nat)) :=
  .spawn 0 (.checkpoint firstCheckpoint) :: moves 0 25 ++ .spawn 1 .acceptedActionPermit :: moves 1 30

def mintedPermits {D : Type} (world : List (WorldEvent D)) : List (AcceptedLifecyclePermit D) :=
  world.filterMap fun
    | .permitMinted permit => some permit
    | _ => none

def noPermit : AcceptedLifecyclePermit Nat :=
  ⟨⟨.other "", "", "", "", 0, "", 0, 0, 0, "", 0, 0, 0, 0⟩, 0⟩

def samplePermit : AcceptedLifecyclePermit Nat :=
  (mintedPermits (VeraPool.run sample 0 acceptedRun).store.world).headD noPermit

/-- The accepted state, and a further call `2` for `n` moves. -/
def calledRun (call : Call Nat) (n : Nat) : List (Event (Call Nat)) :=
  acceptedRun ++ .spawn 2 call :: moves 2 n

end VeraMono
