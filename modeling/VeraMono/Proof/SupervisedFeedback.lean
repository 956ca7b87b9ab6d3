import VeraMono.Framework.DigestChain
import VeraMono.Proof.FeedbackDocuments

/-!
# Replays of the feedback journal

What an event that applied did is `Applied`, one case for each branch of `_apply_event`. The
database of a run holds the rows of events that applied one after the other (`History`), so that
reading them again ends in the state they led to (`History.recorded`); what a replay checks
besides is the length of each payload text (`replay_iff`), which no writer checks.
-/

namespace VeraMono

namespace Feedback

open Framework

variable {rt : Runtime} {cfg : Config} {st st' : State} {kind : String} {payload : Payload} {now : Option Instant}

/-! ## Applying an event -/

/-- What `_apply_event` did. -/
inductive Applied (rt : Runtime) (cfg : Config) (st : State) (now : Option Instant) : String → Payload → State → Prop
  | staged {samples : List FeedbackSample} {holdout : List HeldoutCase} {candidate : String}
      {staged learner : Learner}
      {evidence : LocalFeedbackEvaluation} (hstage : st.learner.stage rt samples = .ok (candidate, staged))
      (hevaluate : staged.evaluate rt candidate holdout = .ok (evidence, learner))
      (hqualified : evidence.qualified = true) :
      Applied rt cfg st now "STAGE" (.stage samples holdout evidence.document)
        { st with learner, pendingEvaluation := some evidence }
  | reviewed {kind : String} {review : ReviewDecision} {after : State} (hkind : kind ≠ "STAGE")
      (hverify : verifyReview rt cfg st kind review now = .ok ())
      (hafter : applyReviewed st kind review = .ok after) :
      Applied rt cfg st now kind (.review review) (after.consume review)

theorem applied (h : applyEvent rt cfg st kind payload now = .ok st') : Applied rt cfg st now kind payload st' := by
  unfold applyEvent at h
  split at h
  · rename_i hkind
    subst hkind
    cases payload with
    | review decision => cases h
    | stage samples holdout evaluation =>
      obtain ⟨⟨candidate, staged⟩, hstage, h⟩ := bind_eq_ok.1 h
      obtain ⟨⟨evidence, learner⟩, hevaluate, h⟩ := bind_eq_ok.1 h
      simp only [↓throw_bind, ite_error_ok, pure_ok, not_or, Decidable.not_not] at h
      obtain ⟨⟨hqualified, rfl⟩, rfl⟩ := h
      exact .staged hstage hevaluate hqualified
  · rename_i hkind
    cases payload with
    | stage samples holdout evaluation => cases h
    | review decision =>
      obtain ⟨⟨⟩, hverify, h⟩ := bind_eq_ok.1 h
      obtain ⟨after, hafter, h⟩ := bind_eq_ok.1 h
      cases h
      exact .reviewed hkind hverify hafter

/-! ## Verifying a review -/

structure ApprovalTarget (rt : Runtime) (st : State) (review : ReviewDecision) (evidence : LocalFeedbackEvaluation) :
    Prop where
  pending : st.pendingEvaluation = some evidence
  qualified : evidence.qualified = true
  candidate : review.candidateRevision = evidence.candidateRevision
  heldout : review.heldoutSha256 = evidence.heldoutSha256
  evaluation : review.evaluationSha256 = hash rt evidence.document
  unrevoked : review.candidateRevision ∉ st.revoked

/-- What a rollback or a revocation is checked against. -/
structure StandingTarget (st : State) (kind : String) (review : ReviewDecision) : Prop where
  heldout : review.heldoutSha256 = ""
  evaluation : review.evaluationSha256 = ""
  approved : review.candidateRevision ∈ st.approvedOrder ∨
    kind = "ROLLBACK" ∧ review.candidateRevision = st.learner.firstVersion
  unrevoked : review.candidateRevision ∉ st.revoked
  changes : kind = "ROLLBACK" → review.candidateRevision ≠ st.learner.activeRevision

/-- The review was signed for the state that it is applied to, and consumes a new reference and a
new nonce. -/
structure Verified (rt : Runtime) (cfg : Config) (st : State) (kind : String) (review : ReviewDecision)
    (now : Option Instant) : Prop where
  action : kind ∈ actions
  sameAction : review.action = kind
  scope : review.purpose = purpose ∧ review.projectId = projectId ∧ review.installationId = cfg.installationId ∧
    review.journalId = st.journalId ∧ review.reviewerKeySha256 = rt.keyDigest cfg.key
  head : review.expectedJournalHead = st.head
  baseline : review.baselineRevision = st.learner.activeRevision
  reference : requireText "approval_ref" 256 review.approvalRef = .ok ()
  freshReference : review.approvalRef ∉ st.usedRefs
  nonce : review.nonce.length = 32 ∧ review.nonce.toList.all isLowerHex = true
  freshNonce : review.nonce ∉ st.usedNonces
  window : 0 < review.expiresAt - review.issuedAt ∧ review.expiresAt - review.issuedAt ≤ 600
  time : ∀ t ∈ now, review.issuedAt ≤ t.seconds + 30 ∧ t.seconds ≤ review.expiresAt
  signature : review.signature.length = 128
  verified : rt.verify cfg.key review.signature review.signableText = true
  approval : kind = "APPROVE" → ∃ evidence, ApprovalTarget rt st review evidence
  standing : kind ≠ "APPROVE" → StandingTarget st kind review

theorem any_eq_false_iff {p : Instant → Bool} : ¬ now.any p = true ↔ ∀ t ∈ now, p t = false := by
  cases now <;> simp

theorem verifyReview_iff {review : ReviewDecision} :
    verifyReview rt cfg st kind review now = .ok () ↔ Verified rt cfg st kind review now := by
  unfold verifyReview
  simp only [↓throw_bind, ite_error_ok, bind_eq_ok, any_eq_false_iff, not_or, not_not, ne_eq, Bool.or_eq_false_iff,
    decide_eq_false_iff_not, not_lt, gt_iff_lt]
  constructor
  · rintro ⟨⟨haction, hsame⟩, hscope, ⟨hhead, hbaseline⟩, ⟨⟩, hreference, hfresh, hnonce, hfreshNonce, hwindow, htime,
      hsignature, hverified, htarget⟩
    refine ⟨haction, hsame, hscope, hhead, hbaseline, hreference, hfresh, hnonce, hfreshNonce, hwindow, htime,
      hsignature, hverified, fun hkind => ?_, fun hkind => ?_⟩
    · rw [if_pos hkind] at htarget
      cases hpending : st.pendingEvaluation with
      | none => simp only [hpending, throw_ok] at htarget
      | some evidence =>
        simp only [hpending, ite_error_ok, ite_throw_ok, not_or, not_not] at htarget
        obtain ⟨⟨hqualified, hcandidate⟩, ⟨hheldout, hevaluation⟩, hunrevoked, -⟩ := htarget
        exact ⟨evidence, hpending, hqualified, hcandidate, hheldout, hevaluation, hunrevoked⟩
    · simp only [if_neg hkind, ite_error_ok, ite_throw_ok, not_or, not_not] at htarget
      obtain ⟨⟨hheldout, hevaluation⟩, ⟨happroved, hunrevoked⟩, hchanges, -⟩ := htarget
      exact ⟨hheldout, hevaluation, or_iff_not_and_not.2 happroved, hunrevoked,
        fun hrollback hactive => hchanges ⟨hrollback, hactive⟩⟩
  · rintro ⟨haction, hsame, hscope, hhead, hbaseline, hreference, hfresh, hnonce, hfreshNonce, hwindow, htime,
      hsignature, hverified, happroval, hstanding⟩
    refine ⟨⟨haction, hsame⟩, hscope, ⟨hhead, hbaseline⟩, ⟨⟩, hreference, hfresh, hnonce, hfreshNonce, hwindow, htime,
      hsignature, hverified, ?_⟩
    split
    · rename_i hkind
      obtain ⟨evidence, htarget⟩ := happroval hkind
      simp only [htarget.pending, ite_error_ok, ite_throw_ok, not_or, not_not]
      exact ⟨⟨htarget.qualified, htarget.candidate⟩, ⟨htarget.heldout, htarget.evaluation⟩, htarget.unrevoked, rfl⟩
    · rename_i hkind
      have htarget := hstanding hkind
      simp only [ite_error_ok, ite_throw_ok, not_or, not_not]
      exact ⟨⟨htarget.heldout, htarget.evaluation⟩, ⟨or_iff_not_and_not.1 htarget.approved, htarget.unrevoked⟩,
        fun hchange => htarget.changes hchange.1 hchange.2, rfl⟩

theorem verifyReview_historical {review : ReviewDecision} (h : verifyReview rt cfg st kind review now = .ok ()) :
    verifyReview rt cfg st kind review none = .ok () :=
  verifyReview_iff.2 { verifyReview_iff.1 h with time := fun _ h => nomatch h }

theorem applyEvent_historical (h : applyEvent rt cfg st kind payload now = .ok st') :
    applyEvent rt cfg st kind payload none = .ok st' := by
  unfold applyEvent at h ⊢
  split
  · rename_i hkind
    rwa [if_pos hkind] at h
  · rename_i hkind
    rw [if_neg hkind] at h
    cases payload with
    | stage samples holdout evaluation => exact h
    | review decision =>
      obtain ⟨⟨⟩, hverify, h⟩ := bind_eq_ok.1 h
      exact bind_eq_ok.2 ⟨⟨⟩, verifyReview_historical hverify, h⟩

/-! ## The learner's operations -/

def evaluationOf (rt : Runtime) (learner : Learner) (revision : String) (holdout : List HeldoutCase)
    (scores : Scores) :
    LocalFeedbackEvaluation where
  candidateRevision := revision
  baselineRevision := learner.activeRevision
  heldoutSha256 := hash rt (.arr ((learner.approvedCanaries ++ holdout).map HeldoutCase.document))
  heldoutCases := (learner.approvedCanaries ++ holdout).length
  baselinePasses := scores.baselinePasses
  candidatePasses := scores.candidatePasses
  regressions := scores.regressions
  qualified := scores.regressions.isEmpty && scores.candidatePasses == (learner.approvedCanaries ++ holdout).length &&
    scores.candidatePasses > scores.baselinePasses

theorem evaluate_ok {learner after : Learner} {revision : String} {holdout : List HeldoutCase}
    {evidence : LocalFeedbackEvaluation} (h : learner.evaluate rt revision holdout = .ok (evidence, after)) :
    ∃ candidate scores, learner.pending = some (revision, candidate) ∧
      scoreAll rt (learner.version learner.activeRevision) candidate learner.approvedCanaries.length
        (learner.approvedCanaries ++ holdout) 0 {} = .ok scores ∧
      (learner.approvedCanaries ++ holdout).length ≤ maxHoldout ∧
      evidence = evaluationOf rt learner revision holdout scores ∧
      after = { learner with
        lastEvaluation := some evidence, lastEvaluatedCases := some (learner.approvedCanaries ++ holdout) } := by
  unfold Learner.evaluate at h
  cases hpending : learner.pending with
  | none => simp only [hpending, throw_ok] at h
  | some pending =>
    obtain ⟨pendingRevision, candidate⟩ := pending
    simp only [hpending, ↓throw_bind, ite_error_ok, bind_eq_ok, pure_ok, not_not, not_lt] at h
    obtain ⟨rfl, -, hbound, scores, hscores, hresult⟩ := h
    obtain ⟨rfl, rfl⟩ := Prod.mk.inj hresult
    exact ⟨candidate, scores, rfl, hscores, hbound, rfl, rfl⟩

/-- A qualified candidate passes every case, and more of them than the active version. -/
theorem qualified_iff {learner : Learner} {revision : String} {holdout : List HeldoutCase} {scores : Scores} :
    (evaluationOf rt learner revision holdout scores).qualified = true ↔ scores.regressions = [] ∧
      scores.candidatePasses = (learner.approvedCanaries ++ holdout).length ∧
      scores.baselinePasses < scores.candidatePasses := by
  simp only [evaluationOf, Bool.and_eq_true, List.isEmpty_iff, beq_iff_eq, decide_eq_true_eq, and_assoc, gt_iff_lt]

/-! ## What an event leaves as it was -/

theorem applyReviewed_frame {review : ReviewDecision} (h : applyReviewed st kind review = .ok st') :
    st'.head = st.head ∧ st'.eventCount = st.eventCount ∧ st'.journalId = st.journalId := by
  unfold applyReviewed at h
  split at h
  · split at h
    · cases h
    · obtain ⟨learner, -, h⟩ := bind_eq_ok.1 h
      cases h
      exact ⟨rfl, rfl, rfl⟩
  · split at h
    · obtain ⟨learner, -, h⟩ := bind_eq_ok.1 h
      cases h
      exact ⟨rfl, rfl, rfl⟩
    · dsimp only at h
      split at h
      · obtain ⟨learner, -, h⟩ := bind_eq_ok.1 h
        cases h
        exact ⟨rfl, rfl, rfl⟩
      · cases h
        exact ⟨rfl, rfl, rfl⟩

theorem applied_frame (h : Applied rt cfg st now kind payload st') :
    st'.head = st.head ∧ st'.eventCount = st.eventCount ∧ st'.journalId = st.journalId := by
  cases h with
  | staged => exact ⟨rfl, rfl, rfl⟩
  | reviewed _ _ hafter =>
    obtain ⟨hhead, hcount, hjournal⟩ := applyReviewed_frame hafter
    exact ⟨hhead, hcount, hjournal⟩

/-! ## Documents -/

theorem applied_plain {t : Instant} (h : Applied rt cfg st (some t) kind payload st') : Plain payload.document := by
  cases h with
  | staged hstage hevaluate hqualified =>
    obtain ⟨candidate, scores, -, -, hbound, rfl, -⟩ := evaluate_ok hevaluate
    obtain ⟨-, hpasses, hmore⟩ := qualified_iff.1 hqualified
    refine plain_stage _ _ (plain_evaluation hbound ?_ ?_)
    · exact (hmore.le.trans hpasses.le).trans hbound
    · exact hpasses.le.trans hbound
  | reviewed hkind hverify hafter =>
    -- The window and the clock bound the times of a review.
    have hreview := verifyReview_iff.1 hverify
    obtain ⟨hissued, hexpires⟩ := hreview.time t rfl
    have hwindow := hreview.window
    have hclock := t.bounded
    refine plain_reviewed (plain_review ?_ ?_) <;> simp only [maxSafeInteger] <;> omega

theorem applied_kind (h : Applied rt cfg st now kind payload st') : kind ∈ "STAGE" :: actions := by
  cases h with
  | staged => exact List.mem_cons_self
  | reviewed _ hverify _ => exact List.mem_cons_of_mem _ (verifyReview_iff.1 hverify).action

theorem applied_readPayload (h : Applied rt cfg st now kind payload st') :
    readPayload kind payload.document = .ok payload := by
  cases h with
  | staged => exact readPayload_stage _ _ _
  | reviewed hkind _ _ => exact readPayload_review hkind _

/-! ## Histories -/

/-- The row that `_append` inserts. -/
def rowOf (rt : Runtime) (n : Nat) (st : State) (kind : String) (payload : Payload) : EventRow :=
  ⟨n + 1, kind, st.head, canonical payload.document, eventHash rt st.head kind payload.document⟩

/-- A state once the event that led to it is committed. -/
def State.committed (st : State) (hash : String) : State := { st with head := hash, eventCount := st.eventCount + 1 }

/-- Rows of events that applied one after the other, and the state they led to. -/
inductive History (rt : Runtime) (cfg : Config) (journalId : String) : List EventRow → State → Prop
  | created : History rt cfg journalId [] (.initial rt journalId)
  | appended {rows : List EventRow} {st after : State} {kind : String} {payload : Payload} {t : Instant}
      (h : History rt cfg journalId rows st) (hcount : rows.length < maxEvents)
      (happly : Applied rt cfg st (some t) kind payload after)
      (hevent : applyEvent rt cfg st kind payload (some t) = .ok after) :
      History rt cfg journalId (rows ++ [rowOf rt rows.length st kind payload])
        (after.committed (eventHash rt st.head kind payload.document))

variable {journalId : String} {rows : List EventRow}

/-- The events of a database, read without a bound on their texts. -/
def recorded (rt : Runtime) (cfg : Config) (journalId : String) (rows : List EventRow) : Except LearningError State :=
  rows.foldlM (readEvent rt cfg) (State.initial rt journalId)

theorem History.eventCount (h : History rt cfg journalId rows st) : st.eventCount = rows.length := by
  induction h with
  | created => rfl
  | appended h _ happly _ ih =>
    rw [List.length_append, List.length_singleton, State.committed, (applied_frame happly).2.1, ih]

theorem History.bounded (h : History rt cfg journalId rows st) : rows.length ≤ maxEvents := by
  cases h with
  | created => exact Nat.zero_le _
  | appended _ hcount _ _ =>
    rw [List.length_append, List.length_singleton]
    exact hcount

theorem readEvent_row (hloads : FaithfulLoads rt) {after : State} {t : Instant} {n : Nat}
    (happly : Applied rt cfg st (some t) kind payload after)
    (hevent : applyEvent rt cfg st kind payload (some t) = .ok after) :
    readEvent rt cfg st (rowOf rt n st kind payload) =
      .ok (after.committed (eventHash rt st.head kind payload.document)) := by
  have hplain := applied_plain happly
  unfold readEvent
  simp only [rowOf, hplain.loads hloads, ne_eq, not_true_eq_false, or_self, if_false,
    applied_readPayload happly]
  rw [ok_bind, applyEvent_historical hevent]
  rfl

theorem History.recorded (hloads : FaithfulLoads rt) (h : History rt cfg journalId rows st) :
    recorded rt cfg journalId rows = .ok st := by
  induction h with
  | created => rfl
  | appended h hcount happly hevent ih =>
    rw [Feedback.recorded] at ih ⊢
    rw [List.foldlM_append, ih, ok_bind, List.foldlM_cons, readEvent_row hloads happly hevent]
    rfl

theorem History.unique (hloads : FaithfulLoads rt) (h : History rt cfg journalId rows st)
    (h' : History rt cfg journalId rows st') : st = st' :=
  Except.ok.inj ((h.recorded hloads).symm.trans (h'.recorded hloads))

/-- What a replay checks of a row besides. -/
theorem replayEvent_ok {row : EventRow} (h : replayEvent rt cfg st row = .ok st') :
    row.payloadJson.length ≤ maxPayloadText ∧ readEvent rt cfg st row = .ok st' := by
  simp only [replayEvent, ↓throw_bind, ite_error_ok, not_lt] at h
  exact ⟨h.2.1, h.2.2⟩

theorem fits_of_replayed : ∀ {rows : List EventRow} {st : State}, rows.foldlM (replayEvent rt cfg) st = .ok st' →
    (∀ row ∈ rows, row.payloadJson.length ≤ maxPayloadText) ∧ rows.foldlM (readEvent rt cfg) st = .ok st'
  | [], _, h => ⟨fun _ h => absurd h List.not_mem_nil, h⟩
  | row :: rows, st, h => by
    rw [List.foldlM_cons] at h
    obtain ⟨after, hevent, h⟩ := bind_eq_ok.1 h
    obtain ⟨hfits, hread⟩ := replayEvent_ok hevent
    obtain ⟨hrest, hfold⟩ := fits_of_replayed h
    exact ⟨List.forall_mem_cons.2 ⟨hfits, hrest⟩, by rw [List.foldlM_cons, hread]; exact hfold⟩

/-- Where every text fits, a replay reads the history. -/
theorem History.replayed (hloads : FaithfulLoads rt) (h : History rt cfg journalId rows st)
    (hfits : ∀ row ∈ rows, row.payloadJson.length ≤ maxPayloadText) :
    rows.foldlM (replayEvent rt cfg) (State.initial rt journalId) = .ok st := by
  induction h with
  | created => rfl
  | appended h hcount happly hevent ih =>
    rename_i rows st after kind payload t
    have hrow : replayEvent rt cfg st (rowOf rt rows.length st kind payload) =
        .ok (after.committed (eventHash rt st.head kind payload.document)) := by
      have hfit := hfits _ (List.mem_append_right _ (List.mem_singleton_self _))
      rw [replayEvent, if_neg (by rw [h.eventCount, not_or, not_not, not_not]; exact ⟨rfl, applied_kind happly⟩),
        if_neg (not_lt.2 hfit), readEvent_row hloads happly hevent]
    rw [List.foldlM_append, ih fun row hrow => hfits row (List.mem_append_left _ hrow), ok_bind,
      List.foldlM_cons, hrow]
    rfl

/-! ## The chain of heads -/

/-- An event names the head before it and has its own. -/
def heads : Linking EventRow String := ⟨EventRow.priorHead, EventRow.eventHash⟩

theorem History.leads (h : History rt cfg journalId rows st) :
    heads.Leads (genesisHead rt journalId) rows st.head := by
  induction h with
  | created => rfl
  | appended _ _ _ _ ih => exact Linking.leads_concat.2 ⟨ih, rfl⟩

theorem History.row (h : History rt cfg journalId rows st) : ∀ row ∈ rows, ∃ payload : Json, Plain payload ∧
    row.eventHash = eventHash rt row.priorHead row.kind payload := by
  induction h with
  | created => exact fun _ h => absurd h List.not_mem_nil
  | appended _ _ happly _ ih =>
    intro row hrow
    rcases List.mem_append.1 hrow with hrow | hrow
    · exact ih row hrow
    · rw [List.mem_singleton.1 hrow]
      exact ⟨_, applied_plain happly, rfl⟩

theorem History.length_eq (hsha : Function.Injective rt.sha256) {rows' : List EventRow}
    (h : History rt cfg journalId rows st) (h' : History rt cfg journalId rows' st') (hhead : st.head = st'.head) :
    rows.length = rows'.length := by
  have hgenesis {rows : List EventRow} {st : State} (h : History rt cfg journalId rows st) :
      ∀ row ∈ rows, heads.digest row ≠ genesisHead rt journalId := fun row hrow => by
    obtain ⟨payload, hplain, heq⟩ := h.row row hrow
    rw [show heads.digest row = row.eventHash from rfl, heq]
    exact eventHash_ne_genesisHead hsha hplain
  refine (Linking.same_of_head (r := fun _ _ => True) (fun row hrow row' hrow' heq => ⟨trivial, ?_⟩) (hgenesis h)
    (hgenesis h') h.leads (hhead ▸ h'.leads)).length_eq
  obtain ⟨payload, hplain, hhash⟩ := h.row row hrow
  obtain ⟨payload', hplain', hhash'⟩ := h'.row row' hrow'
  exact (eventHash_injective hsha hplain hplain' (hhash.symm.trans (heq.trans hhash'))).1

end Feedback

end VeraMono
