import VeraMono.Proof.FeedbackReviews

/-!
# Governed corrections

The main result is `reviews_governed`: in every run, by any number of journals on one database,
the active revision is one that stands, a signed revocation of it goes through, an answer comes
from it only, no reference or nonce is consumed twice, and what is approved answers every case of
the approvals before it.
-/

namespace VeraMono

namespace Feedback

open Framework

variable {rt : Runtime} {cfg : Config} {st st' : State} {w : World} {journalId : String} {rows : List EventRow}

/-! ## Approvals -/

/-- What an approval did: its version answers every case of its evaluation, and of those before. -/
theorem approval_event (hloads : FaithfulLoads rt) (hsha : Function.Injective rt.sha256)
    (h : History rt cfg journalId rows st) {n : Nat} {row : EventRow} {review : ReviewDecision}
    (hn : rows[n]? = some row) (hkind : row.kind = "APPROVE") (hreview : reviewOf rt row = some review) :
    ∃ before next cases samples, History rt cfg journalId (rows.take n) before ∧
      History rt cfg journalId (rows.take (n + 1)) next ∧ before.learner.lastEvaluatedCases = some cases ∧
      before.learner.approvedCanaries ⊆ cases ∧ next.learner.approvedCanaries = cases ∧
      next.learner.Has review.candidateRevision samples ∧
      ∀ case ∈ cases, lookupIn rt samples case.cue = .ok (some case.expected) := by
  obtain ⟨before, after, kind, payload, t, hbefore, happly, rfl, hnext⟩ := h.event hn
  obtain ⟨rfl, hverified⟩ := reviewOf_row hloads happly hreview
  have happrove : kind = "APPROVE" := hkind
  have hsound := hbefore.sound hsha
  cases happly with
  | reviewed hstage hverify hafter =>
    cases reviewed hverified.action hafter with
    | approved hpending hsamples hcases hevidence hqualified =>
      rename_i evidence samples cases
      obtain ⟨evidence', htarget⟩ := hverified.approval rfl
      obtain rfl := Option.some.inj (htarget.pending.symm.trans hpending)
      obtain ⟨hcanaries, hpass⟩ := hsound.evaluated _ _ hevidence hcases
      refine ⟨before, _, cases, samples, hbefore, hnext, hcases, hcanaries, rfl, ?_, hpass hqualified _ _ hsamples⟩
      rw [htarget.candidate]
      exact Table.get?_upsert_self
    | rolledBack => exact absurd happrove (by decide)
    | revoked => exact absurd happrove (by decide)
    | revokedActive => exact absurd happrove (by decide)

theorem approval_answers (hloads : FaithfulLoads rt) (hsha : Function.Injective rt.sha256)
    (h : History rt cfg journalId rows st) {m n : Nat} (hmn : m ≤ n) {row row' : EventRow}
    {review review' : ReviewDecision}
    (hm : rows[m]? = some row) (hkind : row.kind = "APPROVE") (hreview : reviewOf rt row = some review)
    (hn : rows[n]? = some row') (hkind' : row'.kind = "APPROVE") (hreview' : reviewOf rt row' = some review') :
    ∃ before cases, recorded rt cfg journalId (rows.take m) = .ok before ∧
      before.learner.lastEvaluatedCases = some cases ∧ ∀ case ∈ cases,
        lookupIn rt (st.learner.version review'.candidateRevision) case.cue = .ok (some case.expected) := by
  obtain ⟨before, next, cases, samples, hbefore, hnext, hcases, -, hcanaries, -, -⟩ :=
    approval_event hloads hsha h hm hkind hreview
  obtain ⟨before', next', cases', samples', hbefore', hnext', hcases', hsubset, hcanaries', hhas, hpass⟩ :=
    approval_event hloads hsha h hn hkind' hreview'
  have hlast : next'.learner.version review'.candidateRevision = samples' := hhas.version
  have hfinal : Extends next' st := by
    refine History.extends hloads hsha (le_max_left _ rows.length) hnext' ?_
    rwa [List.take_of_length_le (le_max_right _ _)]
  refine ⟨before, cases, hbefore.recorded hloads, hcases, fun case hcase => ?_⟩
  rw [(hfinal.versions _ _ hhas).version]
  refine hpass case ?_
  rcases Nat.lt_or_eq_of_le hmn with hlt | rfl
  · exact hsubset ((History.extends hloads hsha hlt hnext hbefore').canaries (hcanaries ▸ hcase))
  · obtain rfl := hbefore.unique hloads hbefore'
    rwa [Option.some.inj (hcases'.symm.trans hcases)]

/-! ## Revocations -/

structure SignedRevocation (rt : Runtime) (cfg : Config) (st : State) (review : ReviewDecision)
    (now : Instant) : Prop where
  action : review.action = "REVOKE"
  candidate : review.candidateRevision = st.learner.activeRevision
  scope : review.purpose = purpose ∧ review.projectId = projectId ∧ review.installationId = cfg.installationId ∧
    review.journalId = st.journalId ∧ review.reviewerKeySha256 = rt.keyDigest cfg.key
  head : review.expectedJournalHead = st.head
  baseline : review.baselineRevision = st.learner.activeRevision
  reference : requireText "approval_ref" 256 review.approvalRef = .ok ()
  freshReference : review.approvalRef ∉ st.usedRefs
  nonce : review.nonce.length = 32 ∧ review.nonce.toList.all isLowerHex = true
  freshNonce : review.nonce ∉ st.usedNonces
  window : 0 < review.expiresAt - review.issuedAt ∧ review.expiresAt - review.issuedAt ≤ 600
  time : review.issuedAt ≤ now.seconds + 30 ∧ now.seconds ≤ review.expiresAt
  signature : review.signature.length = 128
  verified : rt.verify cfg.key review.signature review.signableText = true
  evaluation : review.heldoutSha256 = "" ∧ review.evaluationSha256 = ""

/-- A signed revocation of an approved revision that is active applies, and leaves one that stands. -/
theorem revocation_applies (hsound : Sound rt st) {review : ReviewDecision} {now : Instant}
    (hsigned : SignedRevocation rt cfg st review now) (hgenesis : st.learner.activeRevision ≠ genesisRevision rt) :
    ∃ after, applyEvent rt cfg st "REVOKE" (.review review) (some now) = .ok after ∧
      after.learner.activeRevision ∉ after.revoked ∧ review.candidateRevision ∈ after.revoked := by
  have happroved : review.candidateRevision ∈ st.approvedOrder := by
    rw [hsigned.candidate]
    exact hsound.active.resolve_left hgenesis
  have hverify : verifyReview rt cfg st "REVOKE" review (some now) = .ok () := verifyReview_iff.2 {
    action := by decide
    sameAction := hsigned.action
    scope := hsigned.scope
    head := hsigned.head
    baseline := hsigned.baseline
    reference := hsigned.reference
    freshReference := hsigned.freshReference
    nonce := hsigned.nonce
    freshNonce := hsigned.freshNonce
    window := hsigned.window
    time := fun t ht => Option.some.inj ht ▸ hsigned.time
    signature := hsigned.signature
    verified := hsigned.verified
    approval := fun h => absurd h (by decide)
    standing := fun _ => ⟨hsigned.evaluation.1, hsigned.evaluation.2, .inl happroved,
      hsigned.candidate ▸ hsound.unrevoked, fun h => absurd h (by decide)⟩ }
  obtain ⟨hfallback, hstands⟩ := hsound.fallback happroved
  have hrevoked : review.candidateRevision ∈ (st.revoke review.candidateRevision).revoked := by simp [State.revoke]
  have hhas : st.learner.versions.get? (st.revoke review.candidateRevision).fallback ≠ none := by
    rcases hfallback with heq | hmem
    · rw [heq, hsound.genesis]
      exact Option.some_ne_none _
    · obtain ⟨samples, hsamples⟩ := hsound.approved _ hmem
      rw [hsamples]
      exact Option.some_ne_none _
  have hchanges : (st.revoke review.candidateRevision).fallback ≠ st.learner.activeRevision := fun heq => by
    rw [heq, ← hsigned.candidate] at hstands
    exact hstands hrevoked
  have hrollback : (st.revoke review.candidateRevision).learner.rollback (st.revoke review.candidateRevision).fallback
      review.approvalRef = .ok (st.learner.backTo (st.revoke review.candidateRevision).fallback review.approvalRef) :=
    rollback_iff.2 ⟨checkReference_of hsigned.reference fun hmem => hsigned.freshReference (hsound.references _ hmem),
      ⟨hhas, hchanges⟩, rfl⟩
  have hafter : applyReviewed st "REVOKE" review = .ok { st.revoke review.candidateRevision with
      learner := st.learner.backTo (st.revoke review.candidateRevision).fallback review.approvalRef
      pendingEvaluation := none } := by
    rw [applyReviewed, if_neg (by decide), if_neg (by decide)]
    dsimp only
    rw [if_pos hsigned.candidate.symm]
    exact bind_eq_ok.2 ⟨_, hrollback, rfl⟩
  refine ⟨State.consume { st.revoke review.candidateRevision with
      learner := st.learner.backTo (st.revoke review.candidateRevision).fallback review.approvalRef
      pendingEvaluation := none } review, ?_, hstands, hrevoked⟩
  rw [applyEvent, if_neg (by decide)]
  exact bind_eq_ok.2 ⟨⟨⟩, hverify, bind_eq_ok.2 ⟨_, hafter, rfl⟩⟩

/-! ## Runs -/

/-- What holds of a database, of the state that its events lead to, and of the journals on it. -/
structure Governed (rt : Runtime) (cfg : Config) (w : World) (st : State) : Prop where
  /-- The active revision is the empty one, or was approved by the review of an event. -/
  active : st.learner.activeRevision = genesisRevision rt ∨
    ∃ (n : Nat) (row : EventRow) (review : ReviewDecision), w.db.events[n]? = some row ∧ row.kind = "APPROVE" ∧
      reviewOf rt row = some review ∧ review.candidateRevision = st.learner.activeRevision
  /-- No event revokes it. -/
  unrevoked : ∀ (n : Nat) row review, w.db.events[n]? = some row → row.kind = "REVOKE" →
    reviewOf rt row = some review → review.candidateRevision ≠ st.learner.activeRevision
  /-- A signed revocation of it succeeds, where it was approved, the journal has room for an event
  and can be read, and leaves a revision that stands. -/
  revocation : ∀ i journal review now, w.journals i = some journal → journal.state.head = st.head →
    (∃ st', replay rt journal.cfg w.db none = .ok st') → w.db.events.length < maxEvents →
      st.learner.activeRevision ≠ genesisRevision rt → SignedRevocation rt cfg st review now →
        ∃ st' db, applyReview rt journal.cfg journal.state review now w.db = (.ok st', db) ∧
          st'.learner.activeRevision ∉ st'.revoked ∧ review.candidateRevision ∈ st'.revoked
  /-- A journal answers from it, or not at all once its own head is not the last. -/
  answers : ∀ i journal cue answer, w.journals i = some journal →
    lookup rt journal.cfg journal.state cue w.db = .ok answer →
      journal.state.head = st.head ∧ st.learner.lookup rt cue = .ok answer
  /-- Two events do not consume one reference or one nonce. -/
  consumed : ∀ (m n : Nat) row row' review review', w.db.events[m]? = some row → w.db.events[n]? = some row' →
    reviewOf rt row = some review → reviewOf rt row' = some review' →
      review.approvalRef = review'.approvalRef ∨ review.nonce = review'.nonce → m = n
  /-- The review of an event was signed for the state before it. -/
  signed : ∀ (n : Nat) row review, w.db.events[n]? = some row → reviewOf rt row = some review →
    ∃ before, recorded rt cfg w.db.info.journalId (w.db.events.take n) = .ok before ∧
      Verified rt cfg before row.kind review none
  /-- What is approved answers every case of its own approval and those before. -/
  canaries : ∀ (m n : Nat) row row' review review', m ≤ n → w.db.events[m]? = some row → row.kind = "APPROVE" →
    reviewOf rt row = some review → w.db.events[n]? = some row' → row'.kind = "APPROVE" →
      reviewOf rt row' = some review' → ∃ before cases,
        recorded rt cfg w.db.info.journalId (w.db.events.take m) = .ok before ∧
        before.learner.lastEvaluatedCases = some cases ∧ ∀ case ∈ cases,
          lookupIn rt (st.learner.version review'.candidateRevision) case.cue = .ok (some case.expected)
  /-- An operation that raises leaves the database as it was. -/
  refused : ∀ i journal kind payload now error db, w.journals i = some journal →
    append rt journal.cfg journal.state kind payload now w.db = (.error error, db) → db = w.db

theorem consumed_before (hloads : FaithfulLoads rt) (hsha : Function.Injective rt.sha256)
    (h : History rt cfg journalId rows st) {m n : Nat} (hmn : m < n) {row row' : EventRow}
    {review review' : ReviewDecision}
    (hm : rows[m]? = some row) (hn : rows[n]? = some row') (hreview : reviewOf rt row = some review)
    (hreview' : reviewOf rt row' = some review') :
    review.approvalRef ≠ review'.approvalRef ∧ review.nonce ≠ review'.nonce := by
  obtain ⟨before, after, kind, payload, t, hbefore, happly, rfl, hnext⟩ := h.event hm
  obtain ⟨rfl, -⟩ := reviewOf_row hloads happly hreview
  obtain ⟨before', after', kind', payload', t', hbefore', happly', rfl, -⟩ := h.event hn
  obtain ⟨rfl, hverified'⟩ := reviewOf_row hloads happly' hreview'
  obtain ⟨href, hnonce, -⟩ := consumed happly
  have hextends := History.extends hloads hsha hmn hnext hbefore'
  exact ⟨fun heq => hverified'.freshReference (heq ▸ hextends.usedRefs href),
    fun heq => hverified'.freshNonce (heq ▸ hextends.usedNonces hnonce)⟩

/-- In every run the corrections are governed by the reviews. -/
theorem reviews_governed (hloads : FaithfulLoads rt) (hkeys : Function.Injective rt.keyDigest)
    (hsha : Function.Injective rt.sha256) (h : Reachable rt cfg w) :
    ∃ st, recorded rt cfg w.db.info.journalId w.db.events = .ok st ∧ Governed rt cfg w st := by
  have hw := reachable_lineage hloads hkeys h
  obtain ⟨st, hst⟩ := hw.history
  have hsound := hst.sound hsha
  refine ⟨st, hst.recorded hloads, ?_, ?_, ?_, ?_, ?_, ?_, ?_, ?_⟩
  · exact hsound.active.imp id fun hmem => hst.approved hloads _ hmem
  · intro n row review hn hkind hreview heq
    obtain ⟨before, after, kind, payload, t, -, happly, rfl, hnext⟩ := hst.event hn
    obtain ⟨rfl, -⟩ := reviewOf_row hloads happly hreview
    obtain ⟨-, -, hrevoked⟩ := consumed happly
    have hextends : Extends (after.committed (eventHash rt before.head kind (Payload.review review).document))
        st := by
      refine History.extends hloads hsha (le_max_left _ w.db.events.length) hnext ?_
      rwa [List.take_of_length_le (le_max_right _ _)]
    exact hsound.unrevoked (heq ▸ hextends.revoked (hrevoked hkind))
  · rintro i journal review now hi hhead ⟨st', hreplay⟩ hcount hgenesis hsigned
    have hstate := hw.current hloads hsha hi hst hhead
    rw [(hw.journals i journal hi).1] at hreplay ⊢
    obtain ⟨-, rfl⟩ := (replay_iff hloads hw.scope hst).1 hreplay
    obtain ⟨after, hevent, hstands, hrevoked⟩ := revocation_applies hsound hsigned hgenesis
    have happend := append_commits (hst.eventCount ▸ hcount) hreplay hevent
    refine ⟨after.committed (eventHash rt st'.head "REVOKE" (Payload.review review).document),
      w.db.insert "REVOKE" st'.head (Payload.review review).document
        (eventHash rt st'.head "REVOKE" (Payload.review review).document), ?_, hstands, hrevoked⟩
    rw [applyReview, hsigned.action, hstate]
    exact happend
  · intro i journal cue answer hi hlookup
    rw [(hw.journals i journal hi).1] at hlookup
    obtain ⟨current, hreplay, hanswer⟩ := bind_eq_ok.1 hlookup
    obtain ⟨hreplay, hhead⟩ := replay_checkpoint.1 hreplay
    obtain ⟨-, rfl⟩ := (replay_iff hloads hw.scope hst).1 hreplay
    rw [hw.current hloads hsha hi hst hhead.symm] at hanswer
    exact ⟨hhead.symm, hanswer⟩
  · intro m n row row' review review' hm hn hreview hreview' hsame
    rcases Nat.lt_trichotomy m n with hlt | heq | hgt
    · obtain ⟨href, hnonce⟩ := consumed_before hloads hsha hst hlt hm hn hreview hreview'
      exact absurd hsame (not_or.2 ⟨href, hnonce⟩)
    · exact heq
    · obtain ⟨href, hnonce⟩ := consumed_before hloads hsha hst hgt hn hm hreview' hreview
      exact absurd hsame (not_or.2 ⟨href.symm, hnonce.symm⟩)
  · intro n row review hn hreview
    obtain ⟨before, after, kind, payload, t, hbefore, happly, rfl, -⟩ := hst.event hn
    obtain ⟨rfl, hverified⟩ := reviewOf_row hloads happly hreview
    exact ⟨before, hbefore.recorded hloads, { hverified with time := fun _ h => (by cases h) }⟩
  · intro m n row row' review review' hmn hm hkind hreview hn hkind' hreview'
    exact approval_answers hloads hsha hst hmn hm hkind hreview hn hkind' hreview'
  · exact fun i journal kind payload now error db _ happend => append_error happend

def demoWorld : World := ⟨demoDatabase, fun _ => none⟩

theorem demoWorld_reachable : Reachable demoRuntime demoConfig demoWorld := .created demoDatabase_created

theorem reviews_governed_new :
    ∃ st, recorded demoRuntime demoConfig demoWorld.db.info.journalId demoWorld.db.events = .ok st ∧
      Governed demoRuntime demoConfig demoWorld st :=
  reviews_governed demoRuntime_loads demoRuntime_keyDigest demoRuntime_sha256 demoWorld_reachable

/-- A revocation of the empty revision, signed for a new journal. -/
def genesisRevocation : ReviewDecision where
  purpose := purpose
  projectId := projectId
  installationId := "installation"
  journalId := demoDatabase.info.journalId
  reviewerKeySha256 := demoRuntime.keyDigest [1]
  action := "REVOKE"
  candidateRevision := genesisRevision demoRuntime
  baselineRevision := genesisRevision demoRuntime
  heldoutSha256 := ""
  evaluationSha256 := ""
  expectedJournalHead := genesisHead demoRuntime demoDatabase.info.journalId
  approvalRef := "review-1"
  nonce := repeated 32 'a'
  issuedAt := 1767225600
  expiresAt := 1767225900
  signature := repeated 128 '0'

theorem demoRuntime_verify (key : List UInt8) (text : String) :
    demoRuntime.verify key (repeated 128 '0') text = true := by simp only [demoRuntime, decide_true]

/-- The active revision of a new journal cannot be revoked: it was never approved. -/
theorem genesis_not_revoked :
    SignedRevocation demoRuntime demoConfig (.initial demoRuntime demoDatabase.info.journalId) genesisRevocation
      demoNow ∧
    ∀ st db, applyReview demoRuntime demoConfig (.initial demoRuntime demoDatabase.info.journalId)
      genesisRevocation demoNow demoDatabase ≠ (.ok st, db) := by
  have hnonce : (repeated 32 'a').toList.all isLowerHex = true := by
    rw [repeated, String.toList_ofList]
    decide
  have hblank : nonblank genesisRevocation.approvalRef = true := by decide
  have hlength : genesisRevocation.approvalRef.length ≤ 256 := by decide
  refine ⟨{
    action := rfl
    candidate := rfl
    scope := ⟨rfl, rfl, rfl, rfl, rfl⟩
    head := rfl
    baseline := rfl
    reference := if_neg (by rw [not_or, not_not, not_lt]; exact ⟨hblank, hlength⟩)
    freshReference := List.not_mem_nil
    nonce := ⟨length_repeated 32 'a', hnonce⟩
    freshNonce := List.not_mem_nil
    window := by decide
    time := by decide
    signature := length_repeated 128 '0'
    verified := demoRuntime_verify _ _
    evaluation := ⟨rfl, rfl⟩ }, fun st db h => ?_⟩
  obtain ⟨-, current, after, hreplay, -, -, hevent, -, -⟩ := append_ok h
  have hw := reachable_lineage demoRuntime_loads demoRuntime_keyDigest demoWorld_reachable
  obtain ⟨-, rfl⟩ := (replay_iff demoRuntime_loads hw.scope .created).1 hreplay
  rw [applyEvent, if_neg (by decide)] at hevent
  obtain ⟨⟨⟩, hverify, -⟩ := bind_eq_ok.1 hevent
  have htarget := (verifyReview_iff.1 hverify).standing (by decide)
  rcases htarget.approved with hmem | ⟨hrollback, -⟩
  · exact absurd hmem List.not_mem_nil
  · exact absurd hrollback (by decide)

end Feedback

end VeraMono
