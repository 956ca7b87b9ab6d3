import VeraMono.Model.FeedbackLearner

/-!
# The supervised feedback journal

`SupervisedFeedbackJournal` of `supervised_feedback.py`: the events of the database and their
replay, the verification of a review, and the operations. An operation that writes does so in
one transaction (`BEGIN IMMEDIATE`), which it rolls back when it raises; `stage` replays the
journal once more before that, on a connection of its own.
-/

namespace VeraMono

open Framework

namespace Feedback

open LearningError

/-! ## Events -/

def projectId : String := "vera-mono"

def purpose : String := "vera.synthetic-supervised-feedback.v1"

def actions : List String := ["APPROVE", "ROLLBACK", "REVOKE"]

def maxEvents : Nat := 512

def maxPayloadText : Nat := 300000

structure ReviewDecision where
  purpose : String
  projectId : String
  installationId : String
  journalId : String
  reviewerKeySha256 : String
  action : String
  candidateRevision : String
  baselineRevision : String
  heldoutSha256 : String
  evaluationSha256 : String
  expectedJournalHead : String
  approvalRef : String
  nonce : String
  issuedAt : Int
  expiresAt : Int
  signature : String
  deriving DecidableEq

/-- The fields of a review but its signature, around which they stand. -/
def ReviewDecision.entries (review : ReviewDecision) (signature : List (String × Json)) : List (String × Json) :=
  [("action", .str review.action), ("approval_ref", .str review.approvalRef),
    ("baseline_revision", .str review.baselineRevision), ("candidate_revision", .str review.candidateRevision),
    ("evaluation_sha256", .str review.evaluationSha256), ("expected_journal_head", .str review.expectedJournalHead),
    ("expires_at", .int review.expiresAt), ("heldout_sha256", .str review.heldoutSha256),
    ("installation_id", .str review.installationId), ("issued_at", .int review.issuedAt),
    ("journal_id", .str review.journalId), ("nonce", .str review.nonce), ("project_id", .str review.projectId),
    ("purpose", .str review.purpose), ("reviewer_key_sha256", .str review.reviewerKeySha256)] ++ signature

/-- `ReviewDecision.signable_bytes`. -/
def ReviewDecision.signableText (review : ReviewDecision) : String := canonical (.obj (review.entries []))

/-- `asdict` of a review. -/
def ReviewDecision.document (review : ReviewDecision) : Json :=
  .obj (review.entries [("signature", .str review.signature)])

/-- What an event carries: staged samples, cases and their evaluation, or a review. -/
inductive Payload
  | stage (samples : List FeedbackSample) (holdout : List HeldoutCase) (evaluation : Json)
  | review (decision : ReviewDecision)

/-- The dictionary of a payload, its keys in the order of `sort_keys`. -/
def Payload.document : Payload → Json
  | .stage samples holdout evaluation =>
    .obj [("evaluation", evaluation), ("holdout", .arr (holdout.map HeldoutCase.document)),
      ("samples", .arr (samples.map FeedbackSample.document))]
  | .review decision => .obj [("review", decision.document)]

def sampleOfRow : Json → Option FeedbackSample
  | .obj [("answer", .str answer), ("consent_ref", .str consentRef), ("cue", .str cue),
      ("privacy_review_ref", .str privacyReviewRef), ("provenance_ref", .str provenanceRef),
      ("sample_id", .str sampleId), ("source_id", .str sourceId)] =>
    some ⟨sampleId, sourceId, cue, answer, consentRef, privacyReviewRef, provenanceRef⟩
  | _ => none

def caseOfRow : Json → Option HeldoutCase
  | .obj [("case_id", .str caseId), ("cue", .str cue), ("expected", .str expected), ("source_id", .str sourceId)] =>
    some ⟨caseId, sourceId, cue, expected⟩
  | _ => none

def reviewOfRow : Json → Option ReviewDecision
  | .obj [("action", .str action), ("approval_ref", .str approvalRef), ("baseline_revision", .str baselineRevision),
      ("candidate_revision", .str candidateRevision), ("evaluation_sha256", .str evaluationSha256),
      ("expected_journal_head", .str expectedJournalHead), ("expires_at", .int expiresAt),
      ("heldout_sha256", .str heldoutSha256), ("installation_id", .str installationId),
      ("issued_at", .int issuedAt), ("journal_id", .str journalId), ("nonce", .str nonce),
      ("project_id", .str projectId), ("purpose", .str purpose),
      ("reviewer_key_sha256", .str reviewerKeySha256), ("signature", .str signature)] =>
    some ⟨purpose, projectId, installationId, journalId, reviewerKeySha256, action, candidateRevision,
      baselineRevision, heldoutSha256, evaluationSha256, expectedJournalHead, approvalRef, nonce, issuedAt, expiresAt,
      signature⟩
  | _ => none

def invalidEvent : LearningError := learningBlocked "journal integrity: invalid event, schema, or replay"

/-- What the event of a kind carries, of the dictionary that its text spells. -/
def readPayload (kind : String) (document : Json) : Except LearningError Payload :=
  if kind = "STAGE" then
    match document with
    | .obj [("evaluation", evaluation), ("holdout", .arr holdout), ("samples", .arr samples)] =>
      match samples.mapM sampleOfRow, holdout.mapM caseOfRow with
      | some samples, some holdout => .ok (.stage samples holdout evaluation)
      | _, _ => .error invalidEvent
    | _ => .error (learningBlocked "journal integrity: invalid stage fields")
  else
    match document with
    | .obj [("review", review)] =>
      match reviewOfRow review with
      | some review => .ok (.review review)
      | none => .error invalidEvent
    | _ => .error (learningBlocked "journal integrity: review envelope missing")

/-- A row of `feedback_events`. -/
structure EventRow where
  sequence : Nat
  kind : String
  priorHead : String
  payloadJson : String
  eventHash : String
  deriving DecidableEq

/-- `feedback_meta`. -/
structure JournalMeta where
  schema : String
  projectId : String
  installationId : String
  journalId : String
  reviewerKeySha256 : String

structure Database where
  info : JournalMeta
  events : List EventRow

/-- What a journal is opened with: its installation and the trusted reviewer key. -/
structure Config where
  installationId : String
  key : List UInt8

structure State where
  learner : Learner
  head : String
  journalId : String
  pendingEvaluation : Option LocalFeedbackEvaluation
  approvedOrder : List String
  revoked : List String
  usedRefs : List String
  usedNonces : List String
  eventCount : Nat

/-- `int(time.time())`, before the year 10000. -/
structure Instant where
  seconds : Nat
  bounded : seconds < 253402300800

variable (rt : Runtime)

def eventHash (prior kind : String) (payload : Json) : String :=
  hash rt (.obj [("domain", .str (purpose ++ ".event")), ("kind", .str kind), ("payload", payload), ("prior", .str prior)])

/-- The head of a journal without events. -/
def genesisHead (journalId : String) : String :=
  hash rt (.obj [("domain", .str (purpose ++ ".genesis")), ("journal_id", .str journalId)])

/-! ## Reviews -/

def isLowerHex (c : Char) : Bool := ('0' ≤ c && c ≤ '9') || ('a' ≤ c && c ≤ 'f')

/-- `_text`. -/
def requireText (name : String) (limit : Nat) (value : String) : Except LearningError Unit :=
  if ¬ nonblank value ∨ limit < value.length then
    .error (learningBlocked s!"{name} must be a bounded non-empty Unicode scalar string")
  else .ok ()

/-- `SupervisedFeedbackJournal._verify_review`; a historical review has no time to be checked at. -/
def verifyReview (cfg : Config) (state : State) (kind : String) (review : ReviewDecision) (now : Option Instant) :
    Except LearningError Unit := do
  if kind ∉ actions ∨ review.action ≠ kind then
    throw (learningBlocked "review action mismatch")
  if review.purpose ≠ purpose ∨ review.projectId ≠ projectId ∨ review.installationId ≠ cfg.installationId ∨
      review.journalId ≠ state.journalId ∨ review.reviewerKeySha256 ≠ rt.keyDigest cfg.key then
    throw (learningBlocked "review scope/key identity mismatch")
  if review.expectedJournalHead ≠ state.head ∨ review.baselineRevision ≠ state.learner.activeRevision then
    throw (learningBlocked "review is stale or bound to another journal head")
  requireText "approval_ref" 256 review.approvalRef
  if review.approvalRef ∈ state.usedRefs then
    throw (learningBlocked "review reference has been consumed")
  if review.nonce.length ≠ 32 ∨ ¬ review.nonce.toList.all isLowerHex then
    throw (learningBlocked "review nonce is invalid")
  if review.nonce ∈ state.usedNonces then
    throw (learningBlocked "review nonce has already been consumed")
  if ¬ (0 < review.expiresAt - review.issuedAt ∧ review.expiresAt - review.issuedAt ≤ 600) then
    throw (learningBlocked "review timestamp window is invalid")
  if now.any fun t => review.issuedAt > t.seconds + 30 || review.expiresAt < t.seconds then
    throw (learningBlocked "review timestamp expired or from the future")
  if review.signature.length ≠ 128 then
    throw (learningBlocked "review signature missing or malformed")
  if ¬ rt.verify cfg.key review.signature review.signableText then
    throw (learningBlocked "review signature verification failed")
  if kind = "APPROVE" then
    match state.pendingEvaluation with
    | none => throw (learningBlocked "review has no current qualified candidate")
    | some evidence =>
      if ¬ evidence.qualified ∨ review.candidateRevision ≠ evidence.candidateRevision then
        throw (learningBlocked "review has no current qualified candidate")
      if review.heldoutSha256 ≠ evidence.heldoutSha256 ∨ review.evaluationSha256 ≠ hash rt evidence.document then
        throw (learningBlocked "review heldout/evaluation hash mismatch")
      if review.candidateRevision ∈ state.revoked then
        throw (learningBlocked "revoked correction cannot be promoted")
  else
    if review.heldoutSha256 ≠ "" ∨ review.evaluationSha256 ≠ "" then
      throw (learningBlocked "rollback/revoke must not include stale evaluation")
    if ¬ (review.candidateRevision ∈ state.approvedOrder ∨
        (kind = "ROLLBACK" ∧ review.candidateRevision = state.learner.firstVersion)) ∨
        review.candidateRevision ∈ state.revoked then
      throw (learningBlocked "target is not an unrevoked approved revision")
    if kind = "ROLLBACK" ∧ review.candidateRevision = state.learner.activeRevision then
      throw (learningBlocked "rollback must change active revision")

/-- The revision that is active once the active one is revoked: the last approval that stands. -/
def State.fallback (state : State) : String :=
  (state.approvedOrder.reverse.find? fun revision => revision ∉ state.revoked).getD state.learner.firstVersion

def State.consume (state : State) (review : ReviewDecision) : State :=
  { state with
    usedRefs := state.usedRefs ++ [review.approvalRef], usedNonces := state.usedNonces ++ [review.nonce] }

def applyReviewed (state : State) (kind : String) (review : ReviewDecision) : Except LearningError State := do
  if kind = "APPROVE" then
    match state.pendingEvaluation with
    | none => throw (learningBlocked "review lacks staged evaluation")
    | some evidence =>
      let learner ← state.learner.approve evidence review.approvalRef
      return { state with
        learner, approvedOrder := state.approvedOrder ++ [review.candidateRevision], pendingEvaluation := none }
  else if kind = "ROLLBACK" then
    let learner ← state.learner.rollback review.candidateRevision review.approvalRef
    return { state with learner, pendingEvaluation := none }
  else
    let state := { state with revoked := state.revoked ++ [review.candidateRevision] }
    if state.learner.activeRevision = review.candidateRevision then
      let learner ← state.learner.rollback state.fallback review.approvalRef
      return { state with learner, pendingEvaluation := none }
    return { state with pendingEvaluation := none }

def applyEvent (cfg : Config) (state : State) (kind : String) (payload : Payload) (now : Option Instant) :
    Except LearningError State := do
  if kind = "STAGE" then
    match payload with
    | .stage samples holdout evaluation =>
      let (candidate, learner) ← state.learner.stage rt samples
      let (evidence, learner) ← learner.evaluate rt candidate holdout
      if ¬ evidence.qualified ∨ evidence.document ≠ evaluation then
        throw (learningBlocked "journal integrity: staged evidence failed deterministic replay")
      return { state with learner, pendingEvaluation := some evidence }
    | .review _ => throw (learningBlocked "journal integrity: invalid stage fields")
  else
    match payload with
    | .stage _ _ _ => throw (learningBlocked "journal integrity: review envelope missing")
    | .review review =>
      verifyReview rt cfg state kind review now
      return (← applyReviewed state kind review).consume review

/-! ## Replay -/

def LearningError.inReplay : LearningError → LearningError
  | .learningBlocked message => .learningBlocked message
  | .valueError _ => invalidEvent

/-- The event of a row, of the dictionary that its text spells. -/
def readEvent (cfg : Config) (state : State) (row : EventRow) : Except LearningError State := do
  match rt.loads row.payloadJson with
  | none => throw invalidEvent
  | some document =>
    if canonical document ≠ row.payloadJson ∨ row.priorHead ≠ state.head then
      throw (learningBlocked "journal integrity: noncanonical payload or broken link")
    if row.eventHash ≠ eventHash rt row.priorHead row.kind document then
      throw (learningBlocked "journal integrity: event hash mismatch")
    let payload ← readPayload row.kind document
    let state ← (applyEvent rt cfg state row.kind payload none).mapError LearningError.inReplay
    return { state with head := row.eventHash, eventCount := state.eventCount + 1 }

def replayEvent (cfg : Config) (state : State) (row : EventRow) : Except LearningError State := do
  if row.sequence ≠ state.eventCount + 1 ∨ row.kind ∉ "STAGE" :: actions then
    throw (learningBlocked "journal integrity: noncontiguous or unknown event")
  if maxPayloadText < row.payloadJson.length then
    throw (learningBlocked "journal integrity: malformed payload size")
  readEvent rt cfg state row

/-- The state of a journal without events. -/
def State.initial (journalId : String) : State :=
  ⟨.new rt, genesisHead rt journalId, journalId, none, [], [], [], [], 0⟩

def replay (cfg : Config) (db : Database) (checkpoint : Option String) : Except LearningError State := do
  if db.info.schema ≠ "1" ∨ db.info.projectId ≠ projectId then
    throw (learningBlocked "journal integrity: invalid metadata schema or project")
  if db.info.installationId ≠ cfg.installationId then
    throw (learningBlocked "journal scope/installation mismatch")
  if db.info.reviewerKeySha256 ≠ rt.keyDigest cfg.key then
    throw (learningBlocked "trusted review key mismatch; rotation requires external migration")
  requireText "journal_id" 128 db.info.journalId
  if db.info.journalId.length ≠ 32 ∨ ¬ db.info.journalId.toList.all isLowerHex then
    throw (learningBlocked "journal integrity: invalid journal id")
  if maxEvents < db.events.length then
    throw (learningBlocked "journal integrity: event bound exceeded")
  let state ← db.events.foldlM (replayEvent rt cfg) (State.initial rt db.info.journalId)
  if checkpoint.any fun head => state.head ≠ head then
    throw (learningBlocked "journal checkpoint mismatch: truncated, altered or stale history")
  return state

/-! ## Operations -/

/-- The row that `_append` inserts; no row is ever deleted. -/
def Database.insert (db : Database) (kind prior : String) (payload : Json) (hash : String) : Database :=
  { db with events := db.events ++ [⟨db.events.length + 1, kind, prior, canonical payload, hash⟩] }

/-- `SupervisedFeedbackJournal._append` of a journal in a state: its new state, and the database. -/
def append (cfg : Config) (own : State) (kind : String) (payload : Payload) (now : Instant) (db : Database) :
    Except LearningError State × Database :=
  if maxEvents ≤ own.eventCount then (.error (learningBlocked "journal event bound exceeded"), db)
  else
    let hash := eventHash rt own.head kind payload.document
    let body : Except LearningError State := do
      let current ← replay rt cfg db (some own.head)
      if current.head ≠ own.head ∨ current.eventCount ≠ own.eventCount then
        throw (learningBlocked "concurrent journal update; reopen from trusted checkpoint")
      applyEvent rt cfg current kind payload (some now)
    match body with
    -- `db.rollback()`.
    | .error e => (.error e, db)
    | .ok current =>
      (.ok { current with head := hash, eventCount := current.eventCount + 1 },
        db.insert kind own.head payload.document hash)

/-- What `stage` does before `_append`: the evaluation, and the payload to append. -/
def prepareStage (cfg : Config) (own : State) (samples : List FeedbackSample) (holdout : List HeldoutCase)
    (db : Database) : Except LearningError (LocalFeedbackEvaluation × Payload) := do
  let provisional ← replay rt cfg db (some own.head)
  let (candidate, learner) ← provisional.learner.stage rt samples
  let (evidence, _) ← learner.evaluate rt candidate holdout
  if ¬ evidence.qualified then
    throw (learningBlocked "candidate failed holdout; no journal write or review allowed")
  return (evidence, .stage samples holdout evidence.document)

def applyReview (cfg : Config) (own : State) (review : ReviewDecision) (now : Instant) (db : Database) :
    Except LearningError State × Database :=
  append rt cfg own review.action (.review review) now db

def lookup (cfg : Config) (own : State) (cue : String) (db : Database) : Except LearningError (Option String) := do
  let _ ← replay rt cfg db (some own.head)
  own.learner.lookup rt cue

/-! ## Runs -/

/-- A `SupervisedFeedbackJournal`, and the payload that a call of `stage` is about to append. -/
structure Journal where
  cfg : Config
  state : State
  staging : Option Payload

/-- The database and the journals opened on it. -/
structure World where
  db : Database
  journals : Nat → Option Journal

def World.put (w : World) (i : Nat) (journal : Journal) : World :=
  { w with journals := Function.update w.journals i (some journal) }

/-- What may happen next; an operation that raises leaves everything as it was, and `staging`
is dropped. -/
inductive Step : World → World → Prop
  /-- `__init__`: the journal that creates the file has no checkpoint. -/
  | opened {w : World} (i : Nat) {cfg : Config} {checkpoint : Option String} {state : State}
      (h : replay rt cfg w.db checkpoint = .ok state) : Step w (w.put i ⟨cfg, state, none⟩)
  | prepared {w : World} (i : Nat) {journal : Journal} {samples : List FeedbackSample} {holdout : List HeldoutCase}
      {evidence : LocalFeedbackEvaluation} {payload : Payload} (hi : w.journals i = some journal)
      (h : prepareStage rt journal.cfg journal.state samples holdout w.db = .ok (evidence, payload)) :
      Step w (w.put i { journal with staging := some payload })
  | staged {w : World} (i : Nat) {journal : Journal} {payload : Payload} {now : Instant} {state : State}
      {db : Database} (hi : w.journals i = some journal) (hpayload : journal.staging = some payload)
      (h : append rt journal.cfg journal.state "STAGE" payload now w.db = (.ok state, db)) :
      Step w (World.put { w with db } i ⟨journal.cfg, state, none⟩)
  | refused {w : World} (i : Nat) {journal : Journal} {payload : Payload} {now : Instant} {error : LearningError}
      {db : Database} (hi : w.journals i = some journal) (hpayload : journal.staging = some payload)
      (h : append rt journal.cfg journal.state "STAGE" payload now w.db = (.error error, db)) :
      Step w (World.put { w with db } i { journal with staging := none })
  | reviewed {w : World} (i : Nat) {journal : Journal} {review : ReviewDecision} {now : Instant} {state : State}
      {db : Database} (hi : w.journals i = some journal)
      (h : applyReview rt journal.cfg journal.state review now w.db = (.ok state, db)) :
      Step w (World.put { w with db } i { journal with state })

/-- A journal file as `__init__` creates it. -/
structure Created (cfg : Config) (db : Database) : Prop where
  schema : db.info.schema = "1"
  project : db.info.projectId = projectId
  installation : db.info.installationId = cfg.installationId
  key : db.info.reviewerKeySha256 = rt.keyDigest cfg.key
  /-- `secrets.token_hex(16)`. -/
  journalId : db.info.journalId.length = 32 ∧ db.info.journalId.toList.all isLowerHex = true
  events : db.events = []

/-- A state of a run from a new journal file. -/
inductive Reachable (cfg : Config) : World → Prop
  | created {db : Database} (h : Created rt cfg db) : Reachable cfg ⟨db, fun _ => none⟩
  | step {w w' : World} (h : Reachable cfg w) (hstep : Step rt w w') : Reachable cfg w'

end Feedback

end VeraMono
