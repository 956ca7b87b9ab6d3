import VeraMono.Model.Sample
import VeraMono.Model.TaskCommands

/-!
# A concrete task ledger

`sampleTasks` hashes the documents of the task ledger as `sample` does those of the
lifecycle, so that a run of it computes.
-/

namespace VeraMono

open Framework Absorb

instance : Absorb TaskPacket where
  absorb h p := absorb h (p.purpose, p.subject, p.completionState, p.evidenceRequirements,
    p.writableScope, p.nonTargets, p.forbiddenShortcutsOrEffects, p.priorityOrder, p.unknowns,
    p.returnShape, p.relevantSurfaces)

instance : Absorb (DelegationBinding Nat) where
  absorb h b := absorb h (b.delegationId, b.taskSubject, b.packetDigest, b.repository, b.ref,
    b.subject, b.assigneeRef)

instance : Absorb (TaskCheckpoint Nat) where
  absorb h c := absorb h (c.subject, c.subjectDigest, c.completedEvidence, c.blockers,
    c.protectedEffectsStillGated, c.nextFrontier, c.correctionIdsAddressed, c.methodChange,
    c.regressionGuard, c.blockerClassification, c.lifecycleEvidenceDigest)

instance : Absorb (TaskPayload Nat) where
  absorb h
    | .opened p d l => absorb (absorb h (0 : Nat)) (p, d, l)
    | .dependency i s d k t => absorb (absorb h (1 : Nat)) (i, s, d, k, t)
    | .dependencyCancelled i s d k t r => absorb (absorb h (2 : Nat)) (i, s, d, k, t, r)
    | .delegated b a p s e => absorb (absorb h (3 : Nat)) (b, a, p, s, e)
    | .delegationReassigned b a e => absorb (absorb h (4 : Nat)) (b, a, e)
    | .delegationReturned b s v e => absorb (absorb h (5 : Nat)) (b, s, v, e)
    | .delegationCancelled b r e => absorb (absorb h (6 : Nat)) (b, r, e)
    | .correction i s d u o r w p => absorb (absorb h (7 : Nat)) (i, s, d, u, o, r, w, p)
    | .checkpoint c => absorb (absorb h (8 : Nat)) c
    | .closed s e b c n d => absorb (absorb h (9 : Nat)) (s, e, b, c, n, d)

instance : Absorb (TaskBody Nat) where
  absorb h b := absorb h (b.eventId, b.taskId, b.payload)

/-- The polynomial hash of a document of the task ledger. -/
def taskSha256 : TaskDocument Nat → Nat
  | .genesis => absorb 27 (0 : Nat)
  | .packet p => absorb 28 p
  | .subject s => absorb 29 s
  | .event n d b => absorb 30 (n, d, b)

def sampleTasks : TaskRuntime Nat where
  sha256 := taskSha256
  py := sampleStdlib
  hexInteger v := v.toList.all fun c => c.isDigit || ('a' ≤ c && c ≤ 'f')

def samplePacket : TaskPacket where
  purpose := "p"
  subject := "s"
  completionState := "c"
  evidenceRequirements := []
  writableScope := []
  nonTargets := []
  forbiddenShortcutsOrEffects := []
  priorityOrder := []
  unknowns := []
  returnShape := []
  relevantSurfaces := ["source"]

def sampleDigest : String := String.ofList (List.replicate 64 '0')

/-- A task whose delegation went from `A` to `B` and back. -/
def reassignedRun : List TaskCommand :=
  [.openTask "t" samplePacket sampleDigest,
    .delegateWork "t" "d" "repo" "main" "x" "A" [] [] ["out"] ["e"],
    .reassignDelegation "t" "d" "r1" "B" ["e"],
    .reassignDelegation "t" "d" "r2" "A" ["e"]]

end VeraMono
