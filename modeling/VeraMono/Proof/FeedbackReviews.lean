import VeraMono.Proof.FeedbackRuns

/-!
# Reviewed corrections

What holds of the state that a history leads to (`Sound`), and of two states one after the other in
it (`Extends`): each is kept by every event that applies, so that both hold of every run.
`Sound.upsert` and `Sound.fallback` are the steps for an approval and a revocation;
`History.extends` compares two states of one history.
-/

namespace VeraMono

namespace Feedback

open Framework

variable {rt : Runtime} {cfg : Config} {st st' : State} {kind : String} {payload : Payload} {now : Option Instant}

/-! ## Samples from their documents -/

theorem sample_document_injective : Function.Injective FeedbackSample.document := fun a b h => by
  cases a
  cases b
  simp only [FeedbackSample.document, Json.obj.injEq, List.cons.injEq, Prod.mk.injEq, Json.str.injEq, true_and,
    and_true] at h
  obtain ⟨rfl, rfl, rfl, rfl, rfl, rfl, rfl⟩ := h
  rfl

theorem versionDocument_injective : Function.Injective versionDocument := fun a b h => by
  simp only [versionDocument, Json.obj.injEq, List.cons.injEq, Prod.mk.injEq, Json.arr.injEq, true_and, and_true] at h
  exact List.map_injective_iff.2 sample_document_injective h

theorem version_unique (hsha : Function.Injective rt.sha256) {a b : List FeedbackSample}
    (h : hash rt (versionDocument a) = hash rt (versionDocument b)) : a = b :=
  versionDocument_injective (hash_injective hsha (plain_version a) (plain_version b) h)

/-! ## The learner's operations -/

theorem submit_nonempty : ∀ {rows : List FeedbackSample} {ids cues : List String} {candidate after : Candidate},
    submit rt rows ids cues candidate = .ok after → candidate.rows ≠ [] ∨ rows ≠ [] → after.rows ≠ []
  | [], _, _, candidate, _, h, hne => by
    obtain rfl := Except.ok.inj h
    exact hne.resolve_right fun h => h rfl
  | row :: rows, ids, cues, candidate, after, h, _ => by
    obtain ⟨⟨⟩, -, h⟩ := bind_eq_ok.1 h
    obtain ⟨cue, -, h⟩ := bind_eq_ok.1 h
    simp only [↓throw_bind, ite_error_ok] at h
    exact submit_nonempty h.2 (.inl (List.ne_nil_of_mem (Table.mem_of_get? Table.get?_upsert_self)))

variable {samples : List FeedbackSample} {evidence : LocalFeedbackEvaluation}
  {review : ReviewDecision} {learner after : Learner} {n : Nat}

/-- What a batch stages: samples that are not none, under the hash of their document. -/
theorem stage_ok {digest : String}
    (h : learner.stage rt samples = .ok (digest, after)) : ∃ candidate, candidate ≠ [] ∧
      digest = hash rt (versionDocument candidate) ∧
      after = { learner with
        pending := some (digest, candidate), lastEvaluation := none, lastEvaluatedCases := none } := by
  obtain ⟨⟨hnonempty, -⟩, start, -, candidate, hsubmit, -, -, -, heq⟩ := stage_iff.1 h
  obtain ⟨rfl, rfl⟩ := Prod.mk.inj heq
  refine ⟨ordered candidate, fun hnil => ?_, rfl, rfl⟩
  have hlength := (ordered_perm candidate).length_eq
  rw [hnil, List.length_map] at hlength
  exact submit_nonempty hsubmit (.inr hnonempty) (List.eq_nil_of_length_eq_zero hlength.symm)

theorem score_passes {active candidate : List FeedbackSample} {canaries index : Nat} {before after : Scores}
    {case : HeldoutCase} (h : score rt active candidate canaries index before case = .ok after) :
    after.candidatePasses ≤ before.candidatePasses + 1 ∧ (after.candidatePasses = before.candidatePasses + 1 →
      lookupIn rt candidate case.cue = .ok (some case.expected)) := by
  obtain ⟨⟨⟩, -, h⟩ := bind_eq_ok.1 h
  obtain ⟨cue, -, h⟩ := bind_eq_ok.1 h
  simp only [↓throw_bind, ite_error_ok, bind_eq_ok, pure_ok] at h
  obtain ⟨-, first, -, second, hsecond, rfl⟩ := h
  by_cases hpass : second = some case.expected
  · exact ⟨by simp [hpass], fun _ => hpass ▸ hsecond⟩
  · exact ⟨by simp [hpass], fun hmore => by simp [hpass] at hmore⟩

/-- A candidate that passes as many cases as there are answers each of them. -/
theorem scoreAll_passes {active candidate : List FeedbackSample} {canaries : Nat} :
    ∀ {cases : List HeldoutCase} {index : Nat} {before after : Scores},
      scoreAll rt active candidate canaries cases index before = .ok after →
        after.candidatePasses ≤ before.candidatePasses + cases.length ∧
          (after.candidatePasses = before.candidatePasses + cases.length →
            ∀ case ∈ cases, lookupIn rt candidate case.cue = .ok (some case.expected))
  | [], _, _, _, h => by
    obtain rfl := Except.ok.inj h
    exact ⟨le_rfl, fun _ _ h => absurd h List.not_mem_nil⟩
  | case :: cases, index, before, after, h => by
    obtain ⟨scores, hscore, h⟩ := bind_eq_ok.1 h
    obtain ⟨hle, hpass⟩ := score_passes hscore
    obtain ⟨hrest, hall⟩ := scoreAll_passes h
    rw [List.length_cons]
    refine ⟨by omega, fun htotal => List.forall_mem_cons.2 ⟨hpass (by omega), hall (by omega)⟩⟩

/-- A reference that the journal takes is one that the learner takes, while it is new to it. -/
theorem checkReference_of {learner : Learner} {name ref : String} (h : requireText name 256 ref = .ok ())
    (hfresh : ref ∉ learner.reviews.map (·.2.2)) : learner.checkReference ref = .ok () := by
  unfold requireText at h
  split at h
  · cases h
  · rename_i htext
    rw [Learner.checkReference, bounded, if_neg htext, ok_bind, if_neg hfresh]
    rfl

theorem approve_ok {ref : String}
    (h : learner.approve evidence ref = .ok after) : ∃ samples cases,
      learner.pending = some (evidence.candidateRevision, samples) ∧ learner.lastEvaluatedCases = some cases ∧
      learner.lastEvaluation = some evidence ∧ evidence.baselineRevision = learner.activeRevision ∧
      evidence.qualified = true ∧
      after = ⟨learner.versions.upsert (evidence.candidateRevision, samples), evidence.candidateRevision, none, none,
        none, cases, learner.reviews ++ [("APPROVE", evidence.candidateRevision, ref)]⟩ := by
  obtain ⟨⟨⟩, -, h⟩ := bind_eq_ok.1 h
  split at h
  · rename_i revision samples cases hpending hcases
    simp only [↓throw_bind, ite_error_ok, pure_ok, not_or, not_not, ne_eq] at h
    obtain ⟨⟨hlast, rfl, hbaseline, hqualified⟩, rfl⟩ := h
    exact ⟨samples, cases, hpending, hcases, hlast, hbaseline, hqualified, rfl⟩
  · cases h

theorem rollback_iff {revision ref : String} :
    learner.rollback revision ref = .ok after ↔ learner.checkReference ref = .ok () ∧
      (learner.versions.get? revision ≠ none ∧ revision ≠ learner.activeRevision) ∧
      after = { learner with
        activeRevision := revision, pending := none, lastEvaluation := none, lastEvaluatedCases := none
        reviews := learner.reviews ++ [("ROLLBACK", revision, ref)] } := by
  simp only [Learner.rollback, ↓throw_bind, ite_error_ok, bind_eq_ok, pure_ok, not_or, ne_eq]
  constructor
  · rintro ⟨⟨⟩, h⟩
    exact h
  · exact fun h => ⟨⟨⟩, h⟩

/-! ## Versions -/

/-- The version of a revision, as it is in the table. -/
def Learner.Has (learner : Learner) (revision : String) (samples : List FeedbackSample) : Prop :=
  learner.versions.get? revision = some (revision, samples)

theorem Learner.Has.version {learner : Learner} {revision : String}
    (h : learner.Has revision samples) : learner.version revision = samples := by
  rw [Learner.version, h]
  rfl

theorem head_upsert {t : Table (Prod.fst : Entry (List FeedbackSample) → String)} {v : Entry (List FeedbackSample)}
    (h : t.rows ≠ []) : (t.upsert v).rows.head?.map Prod.fst = t.rows.head?.map Prod.fst := by
  unfold Table.upsert
  split
  · rename_i hnone
    obtain ⟨first, rest, hrows⟩ := List.exists_cons_of_ne_nil h
    rw [Table.rows_insert hnone, hrows]
    rfl
  · rw [← List.head?_map, Table.map_key_update, List.head?_map]

/-! ## States of a history -/

/-- What holds of every state of a journal. -/
structure Sound (rt : Runtime) (st : State) : Prop where
  genesis : st.learner.Has (genesisRevision rt) []
  first : st.learner.firstVersion = genesisRevision rt
  approved : ∀ revision ∈ st.approvedOrder, ∃ samples, st.learner.Has revision samples
  /-- A revision is the hash of its samples. -/
  digest : ∀ revision samples, st.learner.Has revision samples → revision = hash rt (versionDocument samples)
  genesisUnapproved : genesisRevision rt ∉ st.approvedOrder
  active : st.learner.activeRevision = genesisRevision rt ∨ st.learner.activeRevision ∈ st.approvedOrder
  unrevoked : st.learner.activeRevision ∉ st.revoked
  revoked : ∀ revision ∈ st.revoked, revision ∈ st.approvedOrder
  references : ∀ ref ∈ st.learner.reviews.map (·.2.2), ref ∈ st.usedRefs
  pending : ∀ revision samples, st.learner.pending = some (revision, samples) →
    samples ≠ [] ∧ revision = hash rt (versionDocument samples)
  /-- A qualified candidate answers every case of its evaluation, those of the approvals before included. -/
  evaluated : ∀ evidence cases, st.learner.lastEvaluation = some evidence →
    st.learner.lastEvaluatedCases = some cases →
    st.learner.approvedCanaries ⊆ cases ∧ (evidence.qualified = true → ∀ revision samples,
      st.learner.pending = some (revision, samples) →
        ∀ case ∈ cases, lookupIn rt samples case.cue = .ok (some case.expected))

theorem sound_initial (journalId : String) : Sound rt (.initial rt journalId) where
  genesis := Table.get?_insert_self (v := (genesisRevision rt, [])) Table.get?_empty
  first := by
    rw [Learner.firstVersion,
      show (State.initial rt journalId).learner.versions.rows = [(genesisRevision rt, [])] from
      Table.rows_insert Table.get?_empty]
    rfl
  approved _ h := absurd h List.not_mem_nil
  digest revision samples h := by
    have hmem := Table.mem_of_get? h
    rw [show (State.initial rt journalId).learner.versions.rows = [(genesisRevision rt, [])] from
      Table.rows_insert Table.get?_empty, List.mem_singleton] at hmem
    obtain ⟨rfl, rfl⟩ := Prod.mk.inj hmem
    rfl
  genesisUnapproved := List.not_mem_nil
  active := .inl rfl
  unrevoked := List.not_mem_nil
  revoked _ h := absurd h List.not_mem_nil
  references _ h := absurd h List.not_mem_nil
  pending _ _ h := nomatch h
  evaluated _ _ h := nomatch h

/-- What one state of a history says of a later one. -/
structure Extends (st st' : State) : Prop where
  usedRefs : st.usedRefs ⊆ st'.usedRefs
  usedNonces : st.usedNonces ⊆ st'.usedNonces
  revoked : st.revoked ⊆ st'.revoked
  canaries : st.learner.approvedCanaries ⊆ st'.learner.approvedCanaries
  versions : ∀ revision samples, st.learner.Has revision samples → st'.learner.Has revision samples

theorem Extends.refl (st : State) : Extends st st :=
  ⟨List.Subset.refl _, List.Subset.refl _, List.Subset.refl _, List.Subset.refl _, fun _ _ h => h⟩

theorem Extends.trans {st'' : State} (h : Extends st st') (h' : Extends st' st'') : Extends st st'' :=
  ⟨List.Subset.trans h.usedRefs h'.usedRefs, List.Subset.trans h.usedNonces h'.usedNonces,
    List.Subset.trans h.revoked h'.revoked, List.Subset.trans h.canaries h'.canaries,
    fun _ _ hhas => h'.versions _ _ (h.versions _ _ hhas)⟩

/-! ## Staging -/

theorem staged_learner {learner staged after : Learner} {holdout : List HeldoutCase}
    {candidate : String}
    (hstage : learner.stage rt samples = .ok (candidate, staged))
    (hevaluate : staged.evaluate rt candidate holdout = .ok (evidence, after))
    (hqualified : evidence.qualified = true) :
    ∃ rows, rows ≠ [] ∧ evidence.candidateRevision = hash rt (versionDocument rows) ∧
      (∀ case ∈ learner.approvedCanaries ++ holdout, lookupIn rt rows case.cue = .ok (some case.expected)) ∧
      after = { learner with
        pending := some (evidence.candidateRevision, rows), lastEvaluation := some evidence
        lastEvaluatedCases := some (learner.approvedCanaries ++ holdout) } := by
  obtain ⟨rows, hnonempty, rfl, rfl⟩ := stage_ok hstage
  obtain ⟨rows', scores, hpending, hscores, -, rfl, rfl⟩ := evaluate_ok hevaluate
  obtain ⟨-, rfl⟩ := Prod.mk.inj (Option.some.inj hpending)
  obtain ⟨-, hpasses, -⟩ := qualified_iff.1 hqualified
  refine ⟨rows, hnonempty, rfl, (scoreAll_passes hscores).2 ?_, rfl⟩
  rw [hpasses]
  exact (Nat.zero_add _).symm

/-! ## Reviews -/

def Learner.backTo (learner : Learner) (revision ref : String) : Learner :=
  { learner with
    activeRevision := revision, pending := none, lastEvaluation := none, lastEvaluatedCases := none
    reviews := learner.reviews ++ [("ROLLBACK", revision, ref)] }

def State.revoke (st : State) (revision : String) : State := { st with revoked := st.revoked ++ [revision] }

inductive Reviewed (st : State) (review : ReviewDecision) : String → State → Prop
  | approved {evidence : LocalFeedbackEvaluation} {samples : List FeedbackSample} {cases : List HeldoutCase}
      (hpending : st.pendingEvaluation = some evidence)
      (hsamples : st.learner.pending = some (evidence.candidateRevision, samples))
      (hcases : st.learner.lastEvaluatedCases = some cases) (hevidence : st.learner.lastEvaluation = some evidence)
      (hqualified : evidence.qualified = true) :
      Reviewed st review "APPROVE" { st with
        learner := ⟨st.learner.versions.upsert (evidence.candidateRevision, samples), evidence.candidateRevision,
          none, none, none, cases,
          st.learner.reviews ++ [("APPROVE", evidence.candidateRevision, review.approvalRef)]⟩
        approvedOrder := st.approvedOrder ++ [review.candidateRevision], pendingEvaluation := none }
  | rolledBack (hchanges : review.candidateRevision ≠ st.learner.activeRevision) :
      Reviewed st review "ROLLBACK" { st with
        learner := st.learner.backTo review.candidateRevision review.approvalRef, pendingEvaluation := none }
  | revoked (hinactive : st.learner.activeRevision ≠ review.candidateRevision) :
      Reviewed st review "REVOKE" { st.revoke review.candidateRevision with pendingEvaluation := none }
  | revokedActive (hactive : st.learner.activeRevision = review.candidateRevision) :
      Reviewed st review "REVOKE" { st.revoke review.candidateRevision with
        learner := st.learner.backTo (st.revoke review.candidateRevision).fallback review.approvalRef
        pendingEvaluation := none }

theorem reviewed (haction : kind ∈ actions) (h : applyReviewed st kind review = .ok st') :
    Reviewed st review kind st' := by
  unfold applyReviewed at h
  split at h
  · rename_i hkind
    subst hkind
    split at h
    · cases h
    · rename_i evidence hpending
      obtain ⟨learner, happrove, h⟩ := bind_eq_ok.1 h
      cases h
      obtain ⟨samples, cases, hsamples, hcases, hevidence, -, hqualified, rfl⟩ := approve_ok happrove
      exact .approved hpending hsamples hcases hevidence hqualified
  · rename_i happrove
    split at h
    · rename_i hkind
      subst hkind
      obtain ⟨learner, hrollback, h⟩ := bind_eq_ok.1 h
      cases h
      obtain ⟨-, ⟨-, hchanges⟩, rfl⟩ := rollback_iff.1 hrollback
      exact .rolledBack hchanges
    · rename_i hrollback
      have hkind : kind = "REVOKE" := by
        simp only [actions, List.mem_cons, List.not_mem_nil, or_false, happrove, hrollback, false_or] at haction
        exact haction
      subst hkind
      dsimp only at h
      split at h
      · rename_i hactive
        obtain ⟨learner, hrollback, h⟩ := bind_eq_ok.1 h
        cases h
        obtain ⟨-, -, rfl⟩ := rollback_iff.1 hrollback
        exact .revokedActive hactive
      · rename_i hinactive
        cases h
        exact .revoked hinactive

/-! ## The fallback of a revocation -/

theorem fallback_cases (st : State) :
    (st.fallback ∈ st.approvedOrder ∧ st.fallback ∉ st.revoked) ∨ st.fallback = st.learner.firstVersion := by
  unfold State.fallback
  cases hfind : st.approvedOrder.reverse.find? fun revision => revision ∉ st.revoked with
  | none => exact .inr rfl
  | some revision =>
    refine .inl ⟨List.mem_reverse.1 (List.mem_of_find?_eq_some hfind), ?_⟩
    simpa using List.find?_some hfind

/-- Once an approved revision is revoked, the fallback is a revision that stands. -/
theorem Sound.fallback (h : Sound rt st) {revision : String} (happroved : revision ∈ st.approvedOrder) :
    ((st.revoke revision).fallback = genesisRevision rt ∨ (st.revoke revision).fallback ∈ st.approvedOrder) ∧
      (st.revoke revision).fallback ∉ (st.revoke revision).revoked := by
  rcases fallback_cases (st.revoke revision) with ⟨hmem, hstands⟩ | hfirst
  · exact ⟨.inr hmem, hstands⟩
  · rw [hfirst, show (st.revoke revision).learner.firstVersion = genesisRevision rt from h.first]
    refine ⟨.inl rfl, fun hrevoked => h.genesisUnapproved ?_⟩
    rcases List.mem_append.1 hrevoked with hrevoked | hrevoked
    · exact h.revoked _ hrevoked
    · rwa [List.mem_singleton.1 hrevoked]

/-! ## What every event keeps -/

theorem Sound.staged (h : Sound rt st) {holdout : List HeldoutCase} {candidate : String}
    {staged learner : Learner} (hstage : st.learner.stage rt samples = .ok (candidate, staged))
    (hevaluate : staged.evaluate rt candidate holdout = .ok (evidence, learner))
    (hqualified : evidence.qualified = true) :
    Sound rt { st with learner, pendingEvaluation := some evidence } := by
  obtain ⟨rows, hnonempty, hrevision, hpass, rfl⟩ := staged_learner hstage hevaluate hqualified
  refine { h with pending := fun revision samples hpending => ?_, evaluated := fun _ cases hevidence hcases => ?_ }
  · obtain ⟨rfl, rfl⟩ := Prod.mk.inj (Option.some.inj hpending)
    exact ⟨hnonempty, hrevision⟩
  · obtain rfl := Option.some.inj hcases
    refine ⟨List.subset_append_left _ _, fun _ revision samples hpending => ?_⟩
    obtain ⟨-, rfl⟩ := Prod.mk.inj (Option.some.inj hpending)
    exact hpass

theorem Sound.backTo (h : Sound rt st) {revision ref : String} {revoked refs : List String}
    (happroved : revision = genesisRevision rt ∨ revision ∈ st.approvedOrder) (hstands : revision ∉ revoked)
    (hrevoked : ∀ r ∈ revoked, r ∈ st.approvedOrder) (hrefs : st.usedRefs ⊆ refs) (href : ref ∈ refs) :
    Sound rt { st with learner := st.learner.backTo revision ref, revoked, usedRefs := refs } where
  genesis := h.genesis
  first := h.first
  approved := h.approved
  digest := h.digest
  genesisUnapproved := h.genesisUnapproved
  active := happroved
  unrevoked := hstands
  revoked := hrevoked
  references r hr := by
    rw [Learner.backTo, List.map_append] at hr
    rcases List.mem_append.1 hr with hr | hr
    · exact hrefs (h.references r hr)
    · rwa [List.mem_singleton.1 hr]
  pending _ _ h := nomatch h
  evaluated _ _ h := nomatch h

/-- An approval adds a version under the hash of its samples, and leaves the others. -/
theorem Sound.upsert (hsha : Function.Injective rt.sha256) (h : Sound rt st)
    {revision revision' : String} {samples' : List FeedbackSample}
    (hdigest : revision = hash rt (versionDocument samples))
    (hhas : st.learner.Has revision' samples') :
    (st.learner.versions.upsert (revision, samples)).get? revision' = some (revision', samples') := by
  by_cases heq : revision' = revision
  · subst heq
    obtain rfl := version_unique hsha (hdigest.symm.trans (h.digest _ _ hhas))
    exact Table.get?_upsert_self
  · rw [Table.get?_upsert_other heq]
    exact hhas

theorem Sound.approve (hsha : Function.Injective rt.sha256) (h : Sound rt st)
    {cases : List HeldoutCase}
    (htarget : ApprovalTarget rt st review evidence)
    (hsamples : st.learner.pending = some (evidence.candidateRevision, samples)) :
    Sound rt (State.consume { st with
      learner := ⟨st.learner.versions.upsert (evidence.candidateRevision, samples), evidence.candidateRevision, none,
        none, none, cases, st.learner.reviews ++ [("APPROVE", evidence.candidateRevision, review.approvalRef)]⟩
      approvedOrder := st.approvedOrder ++ [review.candidateRevision], pendingEvaluation := none } review) := by
  obtain ⟨hnonempty, hdigest⟩ := h.pending _ _ hsamples
  have hne : genesisRevision rt ≠ evidence.candidateRevision := fun heq =>
    hnonempty (version_unique hsha ((heq.trans hdigest).symm : _ = hash rt (versionDocument [])))
  have hcandidate := htarget.candidate
  refine {
    genesis := h.upsert hsha hdigest h.genesis
    first := ?_
    approved := fun revision hrevision => ?_
    digest := fun revision rows hhas => ?_
    genesisUnapproved := fun hmem => ?_
    active := .inr (List.mem_append_right _ (by rw [hcandidate]; exact List.mem_singleton_self _))
    unrevoked := hcandidate ▸ htarget.unrevoked
    revoked := fun revision hrevoked => List.mem_append_left _ (h.revoked revision hrevoked)
    references := fun ref href => ?_
    pending := fun _ _ h => nomatch h
    evaluated := fun _ _ h => nomatch h }
  · exact (congrArg (Option.getD · "") (head_upsert (List.ne_nil_of_mem (Table.mem_of_get? h.genesis)))).trans h.first
  · rcases List.mem_append.1 hrevision with hrevision | hrevision
    · obtain ⟨rows, hrows⟩ := h.approved revision hrevision
      exact ⟨rows, h.upsert hsha hdigest hrows⟩
    · rw [List.mem_singleton.1 hrevision, hcandidate]
      exact ⟨samples, Table.get?_upsert_self⟩
  · by_cases heq : revision = evidence.candidateRevision
    · subst heq
      have hself := hhas.symm.trans (Table.get?_upsert_self (t := st.learner.versions)
        (v := (evidence.candidateRevision, samples)))
      obtain ⟨-, rfl⟩ := Prod.mk.inj (Option.some.inj hself)
      exact hdigest
    · exact h.digest revision rows ((Table.get?_upsert_other (t := st.learner.versions)
        (v := (evidence.candidateRevision, samples)) heq).symm.trans hhas)
  · rcases List.mem_append.1 hmem with hmem | hmem
    · exact h.genesisUnapproved hmem
    · exact hne ((List.mem_singleton.1 hmem).trans hcandidate)
  · rw [State.consume, List.map_append] at *
    rcases List.mem_append.1 href with href | href
    · exact List.mem_append_left _ (h.references ref href)
    · exact List.mem_append_right _ href

theorem Sound.applied (hsha : Function.Injective rt.sha256) (h : Sound rt st)
    (happly : Applied rt cfg st now kind payload st') : Sound rt st' := by
  cases happly with
  | staged hstage hevaluate hqualified => exact h.staged hstage hevaluate hqualified
  | reviewed hkind hverify hafter =>
    rename_i review after
    have hverified := verifyReview_iff.1 hverify
    have hconsumed : st.usedRefs ⊆ st.usedRefs ++ [review.approvalRef] := List.subset_append_left _ _
    have href : review.approvalRef ∈ st.usedRefs ++ [review.approvalRef] := by simp
    cases reviewed hverified.action hafter with
    | approved hpending hsamples hcases hevidence hqualified =>
      obtain ⟨evidence', htarget⟩ := hverified.approval rfl
      obtain rfl := Option.some.inj (htarget.pending.symm.trans hpending)
      exact h.approve hsha htarget hsamples
    | rolledBack hchanges =>
      have htarget := hverified.standing (by decide)
      have happroved : review.candidateRevision = genesisRevision rt ∨ review.candidateRevision ∈ st.approvedOrder :=
        htarget.approved.symm.imp (fun hfirst => hfirst.2.trans h.first) id
      have hback := h.backTo happroved htarget.unrevoked h.revoked hconsumed href
      exact { hback with }
    | revoked hinactive =>
      have htarget := hverified.standing (by decide)
      have happroved := htarget.approved.resolve_right fun h => by simp at h
      refine { h with
        unrevoked := fun hmem => ?_
        revoked := fun revision hrevoked => ?_
        references := fun ref hmem => hconsumed (h.references ref hmem) }
      · rcases List.mem_append.1 hmem with hmem | hmem
        · exact h.unrevoked hmem
        · exact hinactive (List.mem_singleton.1 hmem)
      · rcases List.mem_append.1 hrevoked with hrevoked | hrevoked
        · exact h.revoked revision hrevoked
        · rwa [List.mem_singleton.1 hrevoked]
    | revokedActive hactive =>
      have htarget := hverified.standing (by decide)
      have happroved := htarget.approved.resolve_right fun h => by simp at h
      obtain ⟨hfallback, hstands⟩ := h.fallback happroved
      have hrevoked : ∀ r ∈ (st.revoke review.candidateRevision).revoked, r ∈ st.approvedOrder := fun r hr => by
        rcases List.mem_append.1 hr with hr | hr
        · exact h.revoked r hr
        · rwa [List.mem_singleton.1 hr]
      have hback := h.backTo hfallback hstands hrevoked hconsumed href
      exact { hback with }

theorem Sound.extends (hsha : Function.Injective rt.sha256) (h : Sound rt st)
    (happly : Applied rt cfg st now kind payload st') : Extends st st' := by
  cases happly with
  | staged hstage hevaluate hqualified =>
    obtain ⟨rows, -, -, -, rfl⟩ := staged_learner hstage hevaluate hqualified
    exact { Extends.refl st with }
  | reviewed hkind hverify hafter =>
    rename_i review after
    have hverified := verifyReview_iff.1 hverify
    have hrefs : st.usedRefs ⊆ st.usedRefs ++ [review.approvalRef] := List.subset_append_left _ _
    have hnonces : st.usedNonces ⊆ st.usedNonces ++ [review.nonce] := List.subset_append_left _ _
    have hrevoked : st.revoked ⊆ (st.revoke review.candidateRevision).revoked := List.subset_append_left _ _
    cases reviewed hverified.action hafter with
    | approved hpending hsamples hcases hevidence hqualified =>
      exact ⟨hrefs, hnonces, List.Subset.refl _, (h.evaluated _ _ hevidence hcases).1,
        fun revision rows hhas => h.upsert hsha (h.pending _ _ hsamples).2 hhas⟩
    | rolledBack hchanges => exact ⟨hrefs, hnonces, List.Subset.refl _, List.Subset.refl _, fun _ _ h => h⟩
    | revoked hinactive => exact ⟨hrefs, hnonces, hrevoked, List.Subset.refl _, fun _ _ h => h⟩
    | revokedActive hactive => exact ⟨hrefs, hnonces, hrevoked, List.Subset.refl _, fun _ _ h => h⟩

/-! ## Histories -/

variable {journalId : String} {rows : List EventRow}

def reviewOf (rt : Runtime) (row : EventRow) : Option ReviewDecision :=
  (rt.loads row.payloadJson).bind fun document =>
    match readPayload row.kind document with
    | .ok (.review review) => some review
    | _ => none

theorem State.committed_sound {hash : String} (h : Sound rt st) : Sound rt (st.committed hash) := { h with }

theorem History.sound (hsha : Function.Injective rt.sha256) (h : History rt cfg journalId rows st) : Sound rt st := by
  induction h with
  | created => exact sound_initial journalId
  | appended _ _ happly _ ih => exact State.committed_sound (ih.applied hsha happly)

/-- The first events of a history are a history, which the state extends. -/
theorem History.take (hsha : Function.Injective rt.sha256) (h : History rt cfg journalId rows st)
    (hn : n ≤ rows.length) : ∃ before, History rt cfg journalId (rows.take n) before ∧ Extends before st := by
  induction h with
  | created => exact ⟨_, by rw [List.take_nil]; exact .created, .refl _⟩
  | appended h hcount happly hevent ih =>
    rename_i rows st after kind payload t
    rcases Nat.lt_or_eq_of_le hn with hlt | heq
    · rw [List.length_append, List.length_singleton] at hlt
      obtain ⟨before, hbefore, hextends⟩ := ih (Nat.le_of_lt_succ hlt)
      refine ⟨before, ?_, hextends.trans { (h.sound hsha).extends hsha happly with }⟩
      rwa [List.take_append_of_le_length (Nat.le_of_lt_succ hlt)]
    · refine ⟨_, ?_, .refl _⟩
      rw [heq, List.take_length]
      exact .appended h hcount happly hevent

theorem History.event (h : History rt cfg journalId rows st) {row : EventRow} (hn : rows[n]? = some row) :
    ∃ before after kind payload, ∃ t : Instant, History rt cfg journalId (rows.take n) before ∧
      Applied rt cfg before (some t) kind payload after ∧ row = rowOf rt n before kind payload ∧
      History rt cfg journalId (rows.take (n + 1))
        (after.committed (eventHash rt before.head kind payload.document)) := by
  induction h with
  | created => simp at hn
  | appended h hcount happly hevent ih =>
    rename_i rows st after kind payload t
    rcases Nat.lt_trichotomy n rows.length with hlt | heq | hgt
    · rw [List.getElem?_append_left hlt] at hn
      rw [List.take_append_of_le_length hlt.le, List.take_append_of_le_length hlt]
      exact ih hn
    · subst heq
      rw [List.getElem?_append_right le_rfl, Nat.sub_self] at hn
      obtain rfl := Option.some.inj hn
      refine ⟨st, after, kind, payload, t, ?_, happly, rfl, ?_⟩
      · rwa [List.take_append_of_le_length le_rfl, List.take_length]
      · rw [List.take_of_length_le (by simp)]
        exact .appended h hcount happly hevent
    · rw [List.getElem?_eq_none (by rw [List.length_append, List.length_singleton]; omega)] at hn
      cases hn

/-- The review of a committed event, which was verified against the state before it. -/
theorem reviewOf_row (hloads : FaithfulLoads rt) {after : State} {t : Instant}
    (happly : Applied rt cfg st (some t) kind payload after)
    (hreview : reviewOf rt (rowOf rt n st kind payload) = some review) :
    payload = .review review ∧ Verified rt cfg st kind review (some t) := by
  have hplain := applied_plain happly
  rw [reviewOf, show (rowOf rt n st kind payload).payloadJson = canonical payload.document from rfl,
    hplain.loads hloads,
    Option.bind_some, show (rowOf rt n st kind payload).kind = kind from rfl, applied_readPayload happly] at hreview
  cases happly with
  | staged => cases hreview
  | reviewed hkind hverify hafter =>
    obtain rfl := Option.some.inj hreview
    exact ⟨rfl, verifyReview_iff.1 hverify⟩

theorem reviewOf_reviewed (hloads : FaithfulLoads rt) {after : State} {t : Instant}
    (happly : Applied rt cfg st (some t) kind (.review review) after) :
    reviewOf rt (rowOf rt n st kind (.review review)) = some review := by
  have hplain := applied_plain happly
  rw [reviewOf,
    show (rowOf rt n st kind (.review review)).payloadJson = canonical (Payload.review review).document from rfl,
    hplain.loads hloads, Option.bind_some, show (rowOf rt n st kind (.review review)).kind = kind from rfl,
    applied_readPayload happly]

theorem History.approved (hloads : FaithfulLoads rt) (h : History rt cfg journalId rows st) :
    ∀ revision ∈ st.approvedOrder, ∃ (n : Nat) (row : EventRow) (review : ReviewDecision), rows[n]? = some row ∧
      row.kind = "APPROVE" ∧ reviewOf rt row = some review ∧ review.candidateRevision = revision := by
  induction h with
  | created => exact fun _ h => absurd h List.not_mem_nil
  | appended h hcount happly hevent ih =>
    rename_i rows st after kind payload t
    have hold {row : EventRow} : ∀ revision ∈ st.approvedOrder,
        ∃ (n : Nat) (row' : EventRow) (review : ReviewDecision),
        (rows ++ [row])[n]? = some row' ∧ row'.kind = "APPROVE" ∧ reviewOf rt row' = some review ∧
        review.candidateRevision = revision := fun revision hrevision => by
      obtain ⟨n, row', review, hn, hrest⟩ := ih revision hrevision
      refine ⟨n, row', review, ?_, hrest⟩
      rw [List.getElem?_append_left (List.getElem?_eq_some_iff.1 hn).1, hn]
    intro revision hrevision
    cases happly with
    | staged => exact hold revision hrevision
    | reviewed hkind hverify hafter =>
      rename_i review after
      have hrow := reviewOf_reviewed (n := rows.length) hloads (.reviewed hkind hverify hafter)
      cases reviewed (verifyReview_iff.1 hverify).action hafter with
      | approved =>
        rcases List.mem_append.1 hrevision with hrevision | hrevision
        · exact hold revision hrevision
        · refine ⟨rows.length, _, review, ?_, rfl, hrow, (List.mem_singleton.1 hrevision).symm⟩
          rw [List.getElem?_append_right le_rfl, Nat.sub_self]
          rfl
      | rolledBack => exact hold revision hrevision
      | revoked => exact hold revision hrevision
      | revokedActive => exact hold revision hrevision

/-- A later part of a history extends the state of an earlier part. -/
theorem History.extends (hloads : FaithfulLoads rt) (hsha : Function.Injective rt.sha256) {m n : Nat} (hmn : m ≤ n)
    (h : History rt cfg journalId (rows.take m) st)
    (h' : History rt cfg journalId (rows.take n) st') : Extends st st' := by
  rcases le_total n rows.length with hn | hn
  · obtain ⟨before, hbefore, hextends⟩ := h'.take hsha (n := m) (by rw [List.length_take]; omega)
    rw [List.take_take, min_eq_left hmn] at hbefore
    exact hbefore.unique hloads h ▸ hextends
  · rw [List.take_of_length_le hn] at h'
    rcases le_total m rows.length with hm | hm
    · obtain ⟨before, hbefore, hextends⟩ := h'.take hsha hm
      exact hbefore.unique hloads h ▸ hextends
    · rw [List.take_of_length_le hm] at h
      exact h.unique hloads h' ▸ .refl _

/-- What a committed review leaves behind. -/
theorem consumed {after : State}
    (happly : Applied rt cfg st now kind (.review review) after) :
    review.approvalRef ∈ after.usedRefs ∧ review.nonce ∈ after.usedNonces ∧
      (kind = "REVOKE" → review.candidateRevision ∈ after.revoked) := by
  cases happly with
  | reviewed hkind hverify hafter =>
    cases reviewed (verifyReview_iff.1 hverify).action hafter with
    | approved => exact ⟨by simp [State.consume], by simp [State.consume], fun h => absurd h (by decide)⟩
    | rolledBack => exact ⟨by simp [State.consume], by simp [State.consume], fun h => absurd h (by decide)⟩
    | revoked =>
      exact ⟨by simp [State.consume, State.revoke], by simp [State.consume, State.revoke],
        fun _ => by simp [State.consume, State.revoke]⟩
    | revokedActive =>
      exact ⟨by simp [State.consume, State.revoke], by simp [State.consume, State.revoke],
        fun _ => by simp [State.consume, State.revoke]⟩

end Feedback

end VeraMono
