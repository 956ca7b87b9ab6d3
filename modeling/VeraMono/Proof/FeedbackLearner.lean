import VeraMono.Proof.SupervisedFeedback
import Mathlib.Algebra.GroupWithZero.Nat
import Mathlib.Algebra.Order.BigOperators.Group.List

/-!
# The feedback learner

What a batch stages on the empty version (`stage_first`), and that a batch of answers that agree
passes a case it has the cue of (`evaluate_first`). The text of a payload is at least as long as
the answers in it (`stage_text_length`).
-/

namespace VeraMono

namespace Feedback

open Framework

variable {rt : Runtime}

/-! ## Submitting -/

/-- Samples with cues that differ, each valid and with its own id. -/
structure Distinct (rt : Runtime) (samples : List FeedbackSample) (key : FeedbackSample → String) : Prop where
  valid : ∀ row ∈ samples, row.validate rt = .ok ()
  cue : ∀ row ∈ samples, cueOf rt row.cue = .ok (key row)
  ids : (samples.map FeedbackSample.sampleId).Nodup
  keys : (samples.map key).Nodup

theorem submit_fresh {key : FeedbackSample → String} : ∀ (rows : List FeedbackSample) (ids cues : List String)
    (candidate : Candidate), (∀ row ∈ rows, row.validate rt = .ok ()) →
      (∀ row ∈ rows, cueOf rt row.cue = .ok (key row)) → (ids ++ rows.map FeedbackSample.sampleId).Nodup →
      (cues ++ rows.map key).Nodup → candidate.rows.map Prod.fst = cues →
      ∃ after, submit rt rows ids cues candidate = .ok after ∧
        after.rows = candidate.rows ++ rows.map fun row => (key row, row)
  | [], _, _, candidate, _, _, _, _, _ => ⟨candidate, rfl, (List.append_nil _).symm⟩
  | row :: rows, ids, cues, candidate, hvalid, hcue, hids, hkeys, hcandidate => by
    obtain ⟨hrow, hvalid⟩ := List.forall_mem_cons.1 hvalid
    obtain ⟨hrowCue, hcue⟩ := List.forall_mem_cons.1 hcue
    rw [List.map_cons, List.append_cons] at hids hkeys
    have hid : row.sampleId ∉ ids := fun hmem => by
      have hnodup := (List.nodup_append.1 (List.nodup_append.1 hids).1).2.2
      exact hnodup _ hmem _ (List.mem_singleton_self _) rfl
    have hkey : key row ∉ cues := fun hmem => by
      have hnodup := (List.nodup_append.1 (List.nodup_append.1 hkeys).1).2.2
      exact hnodup _ hmem _ (List.mem_singleton_self _) rfl
    have hnew : candidate.get? (key row) = none := Table.get?_eq_none.2 (hcandidate ▸ hkey)
    have hrows : (candidate.upsert (key row, row)).rows = candidate.rows ++ [(key row, row)] := by
      rw [Table.upsert, if_pos hnew]
      exact Table.rows_insert hnew
    obtain ⟨after, hsubmit, hafter⟩ := submit_fresh rows _ _ _ hvalid hcue hids hkeys
      (show (candidate.upsert (key row, row)).rows.map Prod.fst = cues ++ [key row] by
        rw [hrows, List.map_append, hcandidate]; rfl)
    refine ⟨after, ?_, ?_⟩
    · rw [submit, hrow, ok_bind, hrowCue, ok_bind, if_neg (by rw [not_or]; exact ⟨hid, hkey⟩)]
      exact hsubmit
    · rw [hafter, hrows, List.append_assoc]
      rfl

/-- The candidate of a version without samples. -/
theorem version_new : (Learner.new rt).version (genesisRevision rt) = [] := by
  have hget : (Learner.new rt).versions.get? (genesisRevision rt) = some (genesisRevision rt, []) :=
    Table.get?_insert_self (v := (genesisRevision rt, [])) Table.get?_empty
  rw [Learner.version, hget]
  rfl

theorem ordered_perm (candidate : Candidate) : (ordered candidate).Perm (candidate.rows.map Prod.snd) :=
  (List.perm_insertionSort _ _).map _

/-- What `stage` makes of a batch that it takes. -/
theorem stage_iff {learner after : Learner} {samples : List FeedbackSample} {digest : String} :
    learner.stage rt samples = .ok (digest, after) ↔ (samples ≠ [] ∧ samples.length ≤ maxSamples) ∧
      ∃ start, candidateOf rt (learner.version learner.activeRevision) .empty = .ok start ∧
      ∃ candidate, submit rt samples [] [] start = .ok candidate ∧ candidate.rows.length ≤ maxSamples ∧
        ((ordered candidate).map FeedbackSample.sampleId).Nodup ∧
        hash rt (versionDocument (ordered candidate)) ≠ learner.activeRevision ∧
        (digest, after) = (hash rt (versionDocument (ordered candidate)), { learner with
          pending := some (hash rt (versionDocument (ordered candidate)), ordered candidate)
          lastEvaluation := none, lastEvaluatedCases := none }) := by
  simp only [Learner.stage, ↓throw_bind, ite_error_ok, bind_eq_ok, not_or, not_lt, not_not, pure_ok, ne_eq]

/-- What distinct samples stage on the empty version: themselves, in the order of their cues. -/
theorem stage_first (hsha : Function.Injective rt.sha256) {samples : List FeedbackSample}
    {key : FeedbackSample → String}
    (hsamples : Distinct rt samples key) (hnonempty : samples ≠ []) (hbound : samples.length ≤ maxSamples) :
    ∃ candidate, candidate.Perm samples ∧
      (Learner.new rt).stage rt samples = .ok
      (hash rt (versionDocument candidate),
        { Learner.new rt with pending := some (hash rt (versionDocument candidate), candidate) }) := by
  obtain ⟨after, hsubmit, hafter⟩ := submit_fresh samples [] [] .empty hsamples.valid hsamples.cue
    hsamples.ids hsamples.keys rfl
  have hrows : after.rows = samples.map fun row => (key row, row) := hafter
  have hperm : (ordered after).Perm samples := by
    refine (ordered_perm after).trans ?_
    rw [hrows, List.map_map, show (Prod.snd ∘ fun row => (key row, row)) = id from rfl, List.map_id]
  have hdigest : hash rt (versionDocument (ordered after)) ≠ genesisRevision rt := fun heq => by
    have hdocument := hash_injective hsha (plain_version _) (plain_version []) heq
    simp only [versionDocument, Json.obj.injEq, List.cons.injEq, Prod.mk.injEq, Json.arr.injEq, List.map_nil,
      List.map_eq_nil_iff, and_true, true_and] at hdocument
    exact hnonempty (List.perm_nil.1 (hdocument ▸ hperm).symm)
  refine ⟨ordered after, hperm, stage_iff.2 ⟨⟨hnonempty, hbound⟩, .empty, ?_, after, hsubmit, ?_, ?_, hdigest, rfl⟩⟩
  · rw [show (Learner.new rt).version (Learner.new rt).activeRevision = [] from version_new, candidateOf]
  · rwa [hrows, List.length_map]
  · exact (hperm.map _).nodup_iff.2 hsamples.ids

/-! ## Looking up -/

/-- Samples with one answer give it to a cue that one of them has. -/
theorem answerOf_one {normalized answer : String} : ∀ {samples : List FeedbackSample},
    (∀ row ∈ samples, ∃ cue, cueOf rt row.cue = .ok cue) → (∀ row ∈ samples, row.answer = answer) →
      (∃ row ∈ samples, cueOf rt row.cue = .ok normalized) → answerOf rt normalized samples = .ok (some answer)
  | [], _, _, ⟨_, h, _⟩ => absurd h List.not_mem_nil
  | row :: rows, hcue, hanswer, ⟨other, hmem, hother⟩ => by
    obtain ⟨⟨cue, hrow⟩, hcue⟩ := List.forall_mem_cons.1 hcue
    obtain ⟨hsame, hanswer⟩ := List.forall_mem_cons.1 hanswer
    rw [answerOf, hrow, ok_bind]
    by_cases hmatch : cue = normalized
    · rw [if_pos hmatch, hsame]
      rfl
    · rw [if_neg hmatch]
      refine answerOf_one hcue hanswer ⟨other, ?_, hother⟩
      rcases List.mem_cons.1 hmem with rfl | hmem
      · exact absurd (Except.ok.inj (hrow.symm.trans hother)) hmatch
      · exact hmem

/-- A first case that the candidate has the cue of, and one answer to. -/
theorem evaluate_first (rt : Runtime) (learner : Learner) (case : HeldoutCase) {revision : String}
    {candidate : List FeedbackSample} {cue : String} (hpending : learner.pending = some (revision, candidate))
    (hcanaries : learner.approvedCanaries = [])
    (hactive : learner.version learner.activeRevision = []) (hvalid : case.validate rt = .ok ())
    (hcue : cueOf rt case.cue = .ok cue) (hids : case.caseId ∉ candidate.map FeedbackSample.sampleId)
    (hsources : case.sourceId ∉ candidate.map FeedbackSample.sourceId)
    (hrows : ∀ row ∈ candidate, ∃ cue, cueOf rt row.cue = .ok cue)
    (hanswer : ∀ row ∈ candidate, row.answer = case.expected)
    (hmatch : ∃ row ∈ candidate, cueOf rt row.cue = .ok cue) :
    ∃ evidence after, learner.evaluate rt revision [case] = .ok (evidence, after) ∧ evidence.qualified = true := by
  have hlookup : lookupIn rt candidate case.cue = .ok (some case.expected) := by
    rw [lookupIn, hcue, ok_bind, answerOf_one hrows hanswer hmatch]
  have hnone : lookupIn rt [] case.cue = .ok none := by
    rw [lookupIn, hcue, ok_bind, answerOf]
  have hscore : scoreAll rt [] candidate 0 [case] 0 {} = .ok ⟨[case.caseId], [case.sourceId], [cue], 0, 1, []⟩ := by
    rw [scoreAll, score, hvalid, ok_bind, hcue, ok_bind, List.append_nil, if_neg (by simp [hids, hsources]), hnone,
      ok_bind, hlookup, ok_bind]
    simp [scoreAll, pure, Except.pure, ok_bind]
  have hevaluate : learner.evaluate rt revision [case] =
      .ok (evaluationOf rt learner revision [case] ⟨[case.caseId], [case.sourceId], [cue], 0, 1, []⟩, { learner with
        lastEvaluation := some (evaluationOf rt learner revision [case]
          ⟨[case.caseId], [case.sourceId], [cue], 0, 1, []⟩)
        lastEvaluatedCases := some (learner.approvedCanaries ++ [case]) }) := by
    unfold Learner.evaluate
    simp only [hpending, hcanaries, hactive, List.nil_append, List.length_singleton, List.length_nil, hscore,
      ↓throw_bind, ite_error_ok, bind_eq_ok, pure_ok]
    refine ⟨fun h => h rfl, ?_, ?_, _, rfl, ?_⟩
    · simp [maxHoldout]
    · simp [maxHoldout]
    · simp only [evaluationOf, hcanaries, List.nil_append, List.length_singleton]
  refine ⟨_, _, hevaluate, qualified_iff.2 ⟨rfl, ?_, Nat.one_pos⟩⟩
  rw [hcanaries]
  rfl

/-! ## The length of a payload -/

theorem dumpsMoreItems_length (items : List Json) :
    (items.map fun j => j.dumps.length).sum ≤ (Json.dumpsMoreItems items).length := by
  induction items with
  | nil => exact Nat.zero_le _
  | cons j js ih =>
    rw [Json.dumpsMoreItems, List.map_cons, List.sum_cons, List.length_cons, List.length_append]
    omega

theorem dumps_arr_length (items : List Json) :
    (items.map fun j => j.dumps.length).sum ≤ (Json.arr items).dumps.length := by
  cases items with
  | nil => exact Nat.zero_le _
  | cons j js =>
    have hmore := dumpsMoreItems_length js
    rw [Json.dumps, Json.dumpsItems, List.map_cons, List.sum_cons, List.length_cons, List.length_append]
    omega

theorem dumpsMoreEntries_length {entries : List (String × Json)} {k : String} {j : Json} (h : (k, j) ∈ entries) :
    j.dumps.length ≤ (Json.dumpsMoreEntries entries).length := by
  induction entries with
  | nil => exact absurd h List.not_mem_nil
  | cons entry entries ih =>
    rw [Json.dumpsMoreEntries, List.length_cons, List.length_append, List.length_cons, List.length_append]
    rcases List.mem_cons.1 h with rfl | h
    · dsimp only
      omega
    · have := ih h
      omega

/-- The text of an object is at least as long as that of each of its values. -/
theorem dumps_obj_length {entries : List (String × Json)} {k : String} {j : Json} (h : (k, j) ∈ entries) :
    j.dumps.length ≤ (Json.obj entries).dumps.length := by
  cases entries with
  | nil => exact absurd h List.not_mem_nil
  | cons entry entries =>
    rw [Json.dumps, Json.dumpsEntries, List.length_cons, List.length_append, List.length_cons, List.length_append]
    rcases List.mem_cons.1 h with rfl | h
    · dsimp only
      omega
    · have := dumpsMoreEntries_length h
      omega

/-- The text of a staged payload is at least as long as the texts of its answers. -/
theorem stage_text_length (samples : List FeedbackSample) (holdout : List HeldoutCase) {evaluation : Json}
    (h : Plain evaluation) : (samples.map fun row => (dumpsString row.answer).length).sum ≤
      (canonical (Payload.stage samples holdout evaluation).document).length := by
  rw [(plain_stage samples holdout h).canonical_eq, String.length_ofList]
  have hsamples : (Json.arr (samples.map FeedbackSample.document)).dumps.length ≤
      (Payload.stage samples holdout evaluation).document.dumps.length :=
    dumps_obj_length (k := "samples") (by simp)
  refine le_trans ?_ hsamples
  refine le_trans ?_ (dumps_arr_length _)
  rw [List.map_map]
  refine List.sum_le_sum fun row _ => ?_
  exact dumps_obj_length (k := "answer") (j := .str row.answer) List.mem_cons_self

end Feedback

end VeraMono
