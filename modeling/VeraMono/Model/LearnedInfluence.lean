import VeraMono.Framework.Table
import VeraMono.Framework.Transactions
import VeraMono.Model.Canonical

/-!
# Learned influence

`DurableLearnedInfluenceGate` of `learned_influence.py`: the four tables with their keys, and the
three calls on them. Each call is one immediate transaction, so a run is a list of calls in the
order in which they took the database, from whichever process they came.
-/

namespace VeraMono

open Framework

namespace LearnedInfluence

inductive ReviewDisposition
  | admitted | quarantined
  deriving DecidableEq

inductive InfluenceErrorClass
  | valueError | typeError | unicodeEncodeError | integrityError
  | learnedInfluenceBlocked | learnedInfluenceStale | learnedInfluenceReplay
  deriving DecidableEq

structure InfluenceError where
  kind : InfluenceErrorClass
  message : String
  deriving DecidableEq

/-! ## Tables -/

/-- A row of `learned_reviews`. -/
structure InfluenceReview where
  associationId : String
  memoryRevisionId : String
  disposition : ReviewDisposition
  evidenceRef : String
  deriving DecidableEq

/-- A row of `learned_consumptions`. -/
structure Consumption where
  associationId : String
  memoryRevisionId : String
  cueEventId : String
  deriving DecidableEq

inductive InfluenceEvidence
  | calibration | qualification
  deriving DecidableEq

/-- A row of `learned_evidence_bindings`. -/
structure EvidenceBinding where
  associationId : String
  memoryRevisionId : String
  evidenceClass : InfluenceEvidence
  evidenceId : String
  deriving DecidableEq

/-- A row of `learned_use_evidence`. -/
structure UseEvidence where
  associationId : String
  memoryRevisionId : String
  evidenceId : String
  deriving DecidableEq

structure GateState where
  reviews : Table InfluenceReview.associationId
  consumptions : Table (id : Consumption → Consumption)
  bindings : Table (id : EvidenceBinding → EvidenceBinding)
  useEvidence : Table (id : UseEvidence → UseEvidence)

def GateState.empty : GateState := ⟨.empty, .empty, .empty, .empty⟩

def insertRow {V : Type} [DecidableEq V] (fault : InfluenceError) (t : Table (id : V → V)) (v : V) :
    Except InfluenceError (Table (id : V → V)) :=
  if t.get? v = none then .ok (t.insert v) else .error fault

/-! ## Checks -/

/-- A non-empty exact string. -/
def exactText (label : String) : PyValue → Except InfluenceError Text
  | .str t =>
    if t.codePoints = [] then .error ⟨.valueError, s!"{label} must be a non-empty exact string"⟩ else .ok t
  | _ => .error ⟨.valueError, s!"{label} must be a non-empty exact string"⟩

def bindText : Text → Except InfluenceError String
  | .valid s => .ok s
  | .surrogates _ => .error ⟨.unicodeEncodeError, "surrogates not allowed"⟩

/-- One of the values of `_evidence_ids`. -/
def evidenceId (field : String) : PyValue → Except InfluenceError Text
  | .str t =>
    if t.codePoints = [] then .error ⟨.valueError, s!"{field} must contain non-empty exact strings"⟩ else .ok t
  | _ => .error ⟨.valueError, s!"{field} must contain non-empty exact strings"⟩

def evidenceIds (field : String) : PyValue → Except InfluenceError (List Text)
  | .tuple items =>
    if items = [] then .error ⟨.valueError, s!"{field} must be a non-empty tuple"⟩
    else do
      let ids ← items.mapM (evidenceId field)
      if ids.Nodup then .ok ids else .error ⟨.valueError, s!"{field} must not contain duplicates"⟩
  | _ => .error ⟨.valueError, s!"{field} must be a non-empty tuple"⟩

/-- The disposition, which is none where the value is no `ReviewDisposition`. -/
def exactDisposition : Option ReviewDisposition → Except InfluenceError ReviewDisposition
  | some d => .ok d
  | none => .error ⟨.typeError, "disposition must be exact ReviewDisposition"⟩

/-! ## Reviews -/

structure ReviewArgs where
  associationId : PyValue
  memoryRevisionId : PyValue
  disposition : Option ReviewDisposition
  evidenceRef : PyValue

def ReviewArgs.check (a : ReviewArgs) : Except InfluenceError (Text × Text × ReviewDisposition × Text) := do
  let associationId ← exactText "association_id" a.associationId
  let memoryRevisionId ← exactText "memory_revision_id" a.memoryRevisionId
  let evidenceRef ← exactText "evidence_ref" a.evidenceRef
  let disposition ← exactDisposition a.disposition
  return (associationId, memoryRevisionId, disposition, evidenceRef)

/-- The row of `learned_reviews` as it is bound. -/
def bindReview (checked : Text × Text × ReviewDisposition × Text) : Except InfluenceError InfluenceReview := do
  let associationId ← bindText checked.1
  let memoryRevisionId ← bindText checked.2.1
  let evidenceRef ← bindText checked.2.2.2
  return ⟨associationId, memoryRevisionId, checked.2.2.1, evidenceRef⟩

/-- The review takes the place of the one before, whose evidence is deleted. -/
def GateState.reviewed (s : GateState) (r : InfluenceReview) : GateState :=
  { s with reviews := s.reviews.upsert r
           bindings := s.bindings.filter fun b => b.associationId ≠ r.associationId }

abbrev CommittedReview : Type := InfluenceReview × List EvidenceBinding

def review (a : ReviewArgs) (s : GateState) : Except InfluenceError (CommittedReview × GateState) := do
  let checked ← a.check
  let r ← bindReview checked
  return ((r, []), s.reviewed r)

/-- The rows that `executemany` inserts. -/
def bindEvidence (r : InfluenceReview) (evidenceClass : InfluenceEvidence) (ids : List Text) :
    Except InfluenceError (List EvidenceBinding) :=
  ids.mapM fun t => (bindText t).map fun i => ⟨r.associationId, r.memoryRevisionId, evidenceClass, i⟩

def reviewQualified (a : ReviewArgs) (calibrationEvidenceIds qualificationEvidenceIds : PyValue) (s : GateState) :
    Except InfluenceError (CommittedReview × GateState) := do
  let checked ← a.check
  let calibration ← evidenceIds "calibration_evidence_ids" calibrationEvidenceIds
  let qualification ← evidenceIds "qualification_evidence_ids" qualificationEvidenceIds
  if ∃ t ∈ calibration, t ∈ qualification then
    throw ⟨.valueError, "calibration and qualification evidence identities must be disjoint"⟩
  let r ← bindReview checked
  let fitting ← bindEvidence r .calibration calibration
  let judging ← bindEvidence r .qualification qualification
  let bindings ← (fitting ++ judging).foldlM (insertRow ⟨.integrityError, "UNIQUE constraint failed"⟩)
    (s.reviewed r).bindings
  return ((r, fitting ++ judging), { s.reviewed r with bindings := bindings })

/-! ## Consumption -/

structure LearnedRevision where
  associationId : Text
  memoryRevisionId : Text
  associationId_ne : associationId.codePoints ≠ []
  memoryRevisionId_ne : memoryRevisionId.codePoints ≠ []

structure LearnedInfluenceReceipt where
  associationId : String
  memoryRevisionId : String
  cueEventId : String
  reviewDisposition : ReviewDisposition
  reviewEvidenceRef : String
  evidenceSplitQualified : Bool
  useEvidenceId : Option String
  deriving DecidableEq

structure ConsumeArgs where
  /-- The revision, which is none where the value is no `LearnedRevision`. -/
  revision : Option LearnedRevision
  cueEventId : PyValue
  useEvidenceId : PyValue
  requireQualified : Bool

def admittedReview (requireQualified : Bool) (associationId : String) (memoryRevisionId : Text) (s : GateState) :
    Except InfluenceError InfluenceReview :=
  match s.reviews.get? associationId with
  | none => .error ⟨.learnedInfluenceBlocked, "learned revision requires explicit review before influence"⟩
  | some r =>
    if requireQualified ∧ r.evidenceRef.length > 256 then
      .error ⟨.learnedInfluenceBlocked, "local chat review evidence reference exceeds bounded context"⟩
    else if .valid r.memoryRevisionId ≠ memoryRevisionId then
      .error ⟨.learnedInfluenceStale, "learned revision changed after its latest review"⟩
    else if r.disposition = .quarantined then
      .error ⟨.learnedInfluenceBlocked, "learned revision is quarantined by current review"⟩
    else .ok r

def evidenceRows (r : InfluenceReview) (s : GateState) : List EvidenceBinding :=
  s.bindings.rows.filter fun b => b.associationId = r.associationId ∧ b.memoryRevisionId = r.memoryRevisionId

def recordUse (r : InfluenceReview) (rows : List EvidenceBinding) (useEvidenceId : PyValue) (s : GateState) :
    Except InfluenceError (Option String × Table (id : UseEvidence → UseEvidence)) :=
  if rows = [] then
    match useEvidenceId with
    | .none => .ok (none, s.useEvidence)
    | _ => .error ⟨.learnedInfluenceBlocked, "later-use evidence identity supplied without qualified review"⟩
  else
    match useEvidenceId with
    | .str t => do
      if t.codePoints = [] then
        throw ⟨.learnedInfluenceBlocked, "qualified learned revision requires later-use evidence identity"⟩
      if rows.any fun b => .valid b.evidenceId = t then
        throw ⟨.learnedInfluenceBlocked,
          "later-use evidence identity must be disjoint from calibration and qualification evidence"⟩
      let i ← bindText t
      let useEvidence ← insertRow
        ⟨.learnedInfluenceReplay, "later-use evidence identity already consumed for this learned revision"⟩
        s.useEvidence ⟨r.associationId, r.memoryRevisionId, i⟩
      return (some i, useEvidence)
    | _ => .error ⟨.learnedInfluenceBlocked, "qualified learned revision requires later-use evidence identity"⟩

def consume (a : ConsumeArgs) (s : GateState) : Except InfluenceError (LearnedInfluenceReceipt × GateState) := do
  let revision ← a.revision.elim (.error ⟨.typeError, "revision must be exact LearnedRevision"⟩) .ok
  let cue ← exactText "cue_event_id" a.cueEventId
  let associationId ← bindText revision.associationId
  let r ← admittedReview a.requireQualified associationId revision.memoryRevisionId s
  let rows := evidenceRows r s
  if a.requireQualified ∧ ¬ ((∃ b ∈ rows, b.evidenceClass = .calibration) ∧
      ∃ b ∈ rows, b.evidenceClass = .qualification) then
    throw ⟨.learnedInfluenceBlocked, "local chat influence requires complete qualified evidence split"⟩
  let (useEvidenceId, useEvidence) ← recordUse r rows a.useEvidenceId s
  let cueEventId ← bindText cue
  let consumptions ← insertRow
    ⟨.learnedInfluenceReplay, "cue event already consumed for this learned revision"⟩
    s.consumptions ⟨r.associationId, r.memoryRevisionId, cueEventId⟩
  return (⟨r.associationId, r.memoryRevisionId, cueEventId, r.disposition, r.evidenceRef, rows ≠ [], useEvidenceId⟩,
    { s with consumptions := consumptions, useEvidence := useEvidence })

/-! ## Calls -/

inductive GateCall
  | review (a : ReviewArgs)
  | reviewQualified (a : ReviewArgs) (calibrationEvidenceIds qualificationEvidenceIds : PyValue)
  | consume (a : ConsumeArgs)

/-- What a call leaves: the review it committed, or a receipt. -/
inductive GateResult
  | reviewed (r : CommittedReview)
  | influenced (receipt : LearnedInfluenceReceipt)

def perform : GateCall → GateState → Except InfluenceError (GateResult × GateState)
  | .review a, s => (review a s).map fun r => (.reviewed r.1, r.2)
  | .reviewQualified a calibration qualification, s =>
    (reviewQualified a calibration qualification s).map fun r => (.reviewed r.1, r.2)
  | .consume a, s => (consume a s).map fun r => (.influenced r.1, r.2)

end LearnedInfluence

end VeraMono
