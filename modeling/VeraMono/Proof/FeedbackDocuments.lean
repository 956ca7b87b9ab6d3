import VeraMono.Model.SupervisedFeedback
import VeraMono.Proof.IntranelJson

/-!
# The documents of the feedback journal

The keys of every document stand in their order, so that its canonical text is the text
`json.dumps` writes of it as it is: what is read back from it is the document
(`FaithfulLoads`), and no other document has that text (`canonical_injective`).
-/

namespace VeraMono

namespace Feedback

open Framework
open Intranel (Sorted SortedItems SortedEntries sortedEntries_iff readableEntries_iff)

variable {rt : Runtime}

/-- `json.loads` gives back what `json.dumps` wrote. -/
def FaithfulLoads (rt : Runtime) : Prop := ∀ j : Json, j.Readable → rt.loads (String.ofList j.dumps) = some j

/-! ## Sorted documents -/

mutual

theorem sortKeys_sorted : ∀ j : Json, Sorted j → Intranel.sortKeys j = j
  | .null, _ | .bool _, _ | .str _, _ | .int _, _ => rfl
  | .arr items, h => congrArg Json.arr (sortItems_sorted items h)
  | .obj entries, ⟨_, hpairwise, h⟩ => by
    rw [Intranel.sortKeys, sortEntries_sorted entries h]
    exact congrArg Json.obj (List.Pairwise.insertionSort_eq hpairwise)

theorem sortItems_sorted : ∀ js : List Json, SortedItems js → Intranel.sortItems js = js
  | [], _ => rfl
  | j :: js, ⟨hj, hjs⟩ => congrArg₂ List.cons (sortKeys_sorted j hj) (sortItems_sorted js hjs)

theorem sortEntries_sorted : ∀ es : List (String × Json), SortedEntries es → Intranel.sortEntries es = es
  | [], _ => rfl
  | (k, j) :: es, ⟨hj, hes⟩ => by rw [Intranel.sortEntries, sortKeys_sorted j hj, sortEntries_sorted es hes]

end

/-- A document that can be read back from its text. -/
structure Plain (j : Json) : Prop where
  sorted : Sorted j
  readable : j.Readable

theorem Plain.canonical_eq {j : Json} (h : Plain j) : canonical j = String.ofList j.dumps := by
  rw [canonical, sortKeys_sorted j h.sorted]

theorem Plain.loads {j : Json} (h : Plain j) (hloads : FaithfulLoads rt) : rt.loads (canonical j) = some j := by
  rw [h.canonical_eq, hloads j h.readable]

theorem canonical_injective {j k : Json} (hj : Plain j) (hk : Plain k) (h : canonical j = canonical k) : j = k := by
  rw [hj.canonical_eq, hk.canonical_eq] at h
  exact dumps_injective hj.readable hk.readable (String.ofList_injective h)

@[simp] theorem plain_str (s : String) : Plain (.str s) := ⟨trivial, trivial⟩

@[simp] theorem plain_bool (b : Bool) : Plain (.bool b) := ⟨trivial, trivial⟩

theorem plain_int {i : Int} (h : i.natAbs ≤ maxSafeInteger) : Plain (.int i) := ⟨trivial, h⟩

theorem plain_arr {items : List Json} (h : ∀ j ∈ items, Plain j) : Plain (.arr items) := by
  constructor
  · change SortedItems items
    induction items with
    | nil => exact trivial
    | cons j js ih => exact ⟨(h j List.mem_cons_self).sorted, ih fun k hk => h k (List.mem_cons_of_mem _ hk)⟩
  · change Json.ReadableItems items
    induction items with
    | nil => exact trivial
    | cons j js ih => exact ⟨(h j List.mem_cons_self).readable, ih fun k hk => h k (List.mem_cons_of_mem _ hk)⟩

theorem plain_map {α : Type} {f : α → Json} {as : List α} (h : ∀ a, Plain (f a)) : Plain (.arr (as.map f)) :=
  plain_arr fun _ hj => by
    obtain ⟨a, -, rfl⟩ := List.mem_map.1 hj
    exact h a

theorem plain_obj {entries : List (String × Json)}
    (hkeys : ((entries.map Prod.fst).Pairwise (· < ·))) (h : ∀ e ∈ entries, Plain e.2) : Plain (.obj entries) := by
  have hnodup : (entries.map Prod.fst).Nodup := hkeys.imp fun hlt => ne_of_lt hlt
  have hle : entries.Pairwise fun a b => a.1 ≤ b.1 := (List.pairwise_map.1 hkeys).imp fun hlt => le_of_lt hlt
  exact ⟨⟨hnodup, hle, sortedEntries_iff.2 fun e he => (h e he).sorted⟩,
    hnodup, readableEntries_iff.2 fun e he => (h e he).readable⟩

/-! ## Payloads -/

theorem plain_sample (row : FeedbackSample) : Plain row.document := by
  refine plain_obj (show List.Pairwise _ ["answer", "consent_ref", "cue", "privacy_review_ref", "provenance_ref",
    "sample_id", "source_id"] by decide) ?_
  simp

theorem plain_case (case : HeldoutCase) : Plain case.document := by
  refine plain_obj (show List.Pairwise _ ["case_id", "cue", "expected", "source_id"] by decide) ?_
  simp

theorem plain_version (samples : List FeedbackSample) : Plain (versionDocument samples) := by
  refine plain_obj (show List.Pairwise _ ["local_feedback_schema", "samples"] by decide) ?_
  simp only [List.forall_mem_cons, List.not_mem_nil, false_implies, implies_true, and_true]
  exact ⟨plain_int (by decide), plain_map plain_sample⟩

theorem plain_evaluation {evidence : LocalFeedbackEvaluation} (hcases : evidence.heldoutCases ≤ maxHoldout)
    (hbaseline : evidence.baselinePasses ≤ maxHoldout) (hcandidate : evidence.candidatePasses ≤ maxHoldout) :
    Plain evidence.document := by
  have hcount {n : Nat} (h : n ≤ maxHoldout) : Plain (.int n) :=
    plain_int (by simp only [maxHoldout, maxSafeInteger, Int.natAbs_natCast] at h ⊢; omega)
  refine plain_obj (show List.Pairwise _ ["authorization_effect", "baseline_passes", "baseline_revision",
    "candidate_passes", "candidate_revision", "heldout_cases", "heldout_sha256", "memory_admission", "qualified",
    "regressions"] by decide) ?_
  simp only [List.forall_mem_cons, List.not_mem_nil, false_implies, implies_true, and_true, plain_str, plain_bool,
    true_and]
  exact ⟨hcount hbaseline, hcount hcandidate, hcount hcases, plain_map plain_str⟩

theorem plain_review {review : ReviewDecision} (hissued : review.issuedAt.natAbs ≤ maxSafeInteger)
    (hexpires : review.expiresAt.natAbs ≤ maxSafeInteger) : Plain review.document := by
  refine plain_obj (show List.Pairwise _ ["action", "approval_ref", "baseline_revision", "candidate_revision",
    "evaluation_sha256", "expected_journal_head", "expires_at", "heldout_sha256", "installation_id", "issued_at",
    "journal_id", "nonce", "project_id", "purpose", "reviewer_key_sha256", "signature"] by decide) ?_
  simp only [ReviewDecision.entries, List.cons_append, List.nil_append, List.forall_mem_cons, List.not_mem_nil,
    false_implies, implies_true, and_true, plain_str, true_and]
  exact ⟨plain_int hexpires, plain_int hissued⟩

theorem plain_stage (samples : List FeedbackSample) (holdout : List HeldoutCase) {evaluation : Json}
    (h : Plain evaluation) : Plain (Payload.stage samples holdout evaluation).document := by
  refine plain_obj (show List.Pairwise _ ["evaluation", "holdout", "samples"] by decide) ?_
  simp only [List.forall_mem_cons, List.not_mem_nil, false_implies, implies_true, and_true]
  exact ⟨h, plain_map plain_case, plain_map plain_sample⟩

theorem plain_reviewed {review : ReviewDecision} (h : Plain review.document) :
    Plain (Payload.review review).document := by
  refine plain_obj (show List.Pairwise _ ["review"] by decide) ?_
  simpa only [List.forall_mem_cons, List.not_mem_nil, false_implies, implies_true, and_true] using h

theorem mapM_map {α β : Type} (f : α → β) (g : β → Option α) (h : ∀ a, g (f a) = some a) (as : List α) :
    (as.map f).mapM g = some as := by
  induction as with
  | nil => rfl
  | cons a as ih => simp [h, ih]

theorem readPayload_stage (samples : List FeedbackSample) (holdout : List HeldoutCase) (evaluation : Json) :
    readPayload "STAGE" (Payload.stage samples holdout evaluation).document =
      .ok (.stage samples holdout evaluation) := by
  simp only [readPayload, Payload.document, if_true, mapM_map FeedbackSample.document sampleOfRow fun _ => rfl,
    mapM_map HeldoutCase.document caseOfRow fun _ => rfl]

theorem readPayload_review {kind : String} (hkind : kind ≠ "STAGE") (review : ReviewDecision) :
    readPayload kind (Payload.review review).document = .ok (.review review) := by
  simp only [readPayload, Payload.document, if_neg hkind]
  rfl

/-! ## Events -/

def eventDocument (prior kind : String) (payload : Json) : Json :=
  .obj [("domain", .str (purpose ++ ".event")), ("kind", .str kind), ("payload", payload), ("prior", .str prior)]

def genesisDocument (journalId : String) : Json :=
  .obj [("domain", .str (purpose ++ ".genesis")), ("journal_id", .str journalId)]

theorem plain_event (prior kind : String) {payload : Json} (h : Plain payload) :
    Plain (eventDocument prior kind payload) := by
  refine plain_obj (show List.Pairwise _ ["domain", "kind", "payload", "prior"] by decide) ?_
  simpa only [List.forall_mem_cons, List.not_mem_nil, false_implies, implies_true, and_true, plain_str, true_and]
    using h

theorem plain_genesis (journalId : String) : Plain (genesisDocument journalId) := by
  refine plain_obj (show List.Pairwise _ ["domain", "journal_id"] by decide) ?_
  simp only [List.forall_mem_cons, List.not_mem_nil, false_implies, implies_true, and_true, plain_str]

theorem hash_injective (hsha : Function.Injective rt.sha256) {j k : Json} (hj : Plain j) (hk : Plain k)
    (h : hash rt j = hash rt k) : j = k :=
  canonical_injective hj hk (hsha h)

theorem eventHash_injective (hsha : Function.Injective rt.sha256) {prior prior' kind kind' : String}
    {payload payload' : Json} (h : Plain payload) (h' : Plain payload')
    (heq : eventHash rt prior kind payload = eventHash rt prior' kind' payload') :
    prior = prior' ∧ kind = kind' ∧ payload = payload' := by
  have hdocument := hash_injective hsha (plain_event prior kind h) (plain_event prior' kind' h') heq
  simp only [eventDocument, Json.obj.injEq, List.cons.injEq, Prod.mk.injEq, Json.str.injEq, and_true, true_and]
    at hdocument
  exact ⟨hdocument.2.2, hdocument.1, hdocument.2.1⟩

theorem eventHash_ne_genesisHead (hsha : Function.Injective rt.sha256) {prior kind journalId : String}
    {payload : Json} (h : Plain payload) :
    eventHash rt prior kind payload ≠ genesisHead rt journalId := fun heq => by
  have hdocument := hash_injective hsha (plain_event prior kind h) (plain_genesis journalId) heq
  simp only [eventDocument, genesisDocument, Json.obj.injEq, List.cons.injEq, reduceCtorEq, and_false] at hdocument

end Feedback

end VeraMono
