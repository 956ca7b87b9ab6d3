import VeraMono.Model.GuardedReplay
import VeraMono.Proof.TaskCommands

/-!
# The verdict of the guards and the vote

Every guard rejects by what a candidate is, and the independence guard by what the other candidates
are, never by where they stand. So a run over the same candidates in another order rejects the same
ones, and the vote of what is left has the same winner.
-/

namespace VeraMono.GuardedReplay

open Framework
open TaskLedger (mem_sortedSet)

variable {casefold : String → String} {guards : GuardConfig} {input : StrategyInput} {g g' : Governance}
variable {c d : ReplayCandidate} {id : String}

/-! ## One guard -/

theorem check_fold (guard : GuardName) (fails : ReplayCandidate → Bool) (cs : List ReplayCandidate) :
    ∀ g : Governance,
      (cs.foldl (Governance.check guard fails) g).rejected = g.rejected ++ (cs.filter fails).map (·.candidateId) ∧
      (cs.foldl (Governance.check guard fails) g).violations =
        (if cs.any fails then (g.violate guard).violations else g.violations) ∧
      (cs.foldl (Governance.check guard fails) g).failureBlock = g.failureBlock := by
  induction cs with
  | nil => simp
  | cons c cs ih =>
    intro g
    rw [List.foldl_cons]
    obtain ⟨hrejected, hviolations, hblock⟩ := ih (g.check guard fails c)
    rw [hrejected, hviolations, hblock]
    cases hc : fails c
    · simp [Governance.check, hc, Governance.violate]
    · simp only [Governance.check, Governance.reject, Governance.violate, List.any_cons, hc, Bool.true_or]
      refine ⟨by simp [hc], ?_, rfl⟩
      split_ifs <;> simp_all

theorem failure_fold (cs : List ReplayCandidate) : ∀ g : Governance,
    (cs.foldl Governance.observeFailure g).rejected =
      g.rejected ++ (cs.filter (·.failure.isSome)).map (·.candidateId) ∧
    (cs.foldl Governance.observeFailure g).violations =
      (if cs.any (·.failure.isSome) then (g.violate .failureVisibility).violations else g.violations) ∧
    (cs.foldl Governance.observeFailure g).failureBlock = (g.failureBlock || cs.any (·.failure.isSome)) := by
  induction cs with
  | nil => simp
  | cons c cs ih =>
    intro g
    rw [List.foldl_cons]
    obtain ⟨hrejected, hviolations, hblock⟩ := ih (g.observeFailure c)
    rw [hrejected, hviolations, hblock]
    cases hc : c.failure with
    | none => simp [Governance.observeFailure, hc, Governance.violate]
    | some failure =>
      simp only [Governance.observeFailure, Governance.reject, Governance.violate, List.any_cons, hc, Option.isSome_some,
        Bool.true_or, Bool.or_true]
      refine ⟨by simp [hc], ?_, trivial⟩
      split_ifs <;> simp_all

/-- Whether a candidate fails a guard, given which candidates answered. -/
def fails (input : StrategyInput) (guard : GuardName) (c : ReplayCandidate) : Bool :=
  match guard with
  | .propositionFidelity => solvedOther input c
  | .provenanceCurrentness => notExplicitlyCurrent input c
  | .admissionIntegrity => invalidRef input c
  | .independenceContamination => c.candidateId ∈ correlatedCandidates (answering input)
  | .failureVisibility => c.failure.isSome
  | .authorityEffectBoundary => overreach c

/-! ## Correlation -/

theorem sameLineage_comm (a b : Option String) : sameLineage a b = sameLineage b a := by
  cases a <;> cases b <;> simp [sameLineage, eq_comm]

theorem correlatedPair_comm (c d : ReplayCandidate) : correlatedPair c d = correlatedPair d c := by
  have hshared : c.commonEvidenceRefs.any (· ∈ d.commonEvidenceRefs) =
      d.commonEvidenceRefs.any (· ∈ c.commonEvidenceRefs) := by
    rw [Bool.eq_iff_iff]
    simp only [List.any_eq_true, decide_eq_true_eq]
    exact ⟨fun ⟨e, h, h'⟩ => ⟨e, h', h⟩, fun ⟨e, h, h'⟩ => ⟨e, h', h⟩⟩
  simp only [correlatedPair, hshared, sameLineage_comm c.modelId, sameLineage_comm c.providerId,
    sameLineage_comm c.promptLineage, sameLineage_comm c.contextLineage]

theorem mem_correlatedPairs {cs : List ReplayCandidate} (h : cs.Nodup) : id ∈ correlatedPairs cs ↔
    ∃ c ∈ cs, ∃ d ∈ cs, c ≠ d ∧ correlatedPair c d = true ∧ c.candidateId = id := by
  induction cs with
  | nil => simp [correlatedPairs]
  | cons left rest ih =>
    obtain ⟨hleft, hrest⟩ := List.nodup_cons.1 h
    rw [correlatedPairs, List.mem_append, ih hrest]
    have hne : ∀ d ∈ rest, left ≠ d := fun d hd heq => hleft (heq ▸ hd)
    constructor
    · rintro (hfirst | ⟨c, hc, d, hd, hcd, hpair, rfl⟩)
      · obtain ⟨right, hright, hid⟩ := List.mem_flatMap.1 hfirst
        cases hpair : correlatedPair left right with
        | false => simp [hpair] at hid
        | true =>
          obtain rfl | rfl : id = left.candidateId ∨ id = right.candidateId := by simpa [hpair] using hid
          · exact ⟨left, List.mem_cons_self, right, List.mem_cons_of_mem _ hright, hne right hright, hpair, rfl⟩
          · exact ⟨right, List.mem_cons_of_mem _ hright, left, List.mem_cons_self, (hne right hright).symm,
              (correlatedPair_comm right left).trans hpair, rfl⟩
      · exact ⟨c, List.mem_cons_of_mem _ hc, d, List.mem_cons_of_mem _ hd, hcd, hpair, rfl⟩
    · rintro ⟨c, hc, d, hd, hcd, hpair, rfl⟩
      obtain rfl | hc' := List.mem_cons.1 hc
      · obtain rfl | hd' := List.mem_cons.1 hd
        · exact absurd rfl hcd
        · exact .inl (List.mem_flatMap.2 ⟨d, hd', by simp [hpair]⟩)
      · obtain rfl | hd' := List.mem_cons.1 hd
        · exact .inl (List.mem_flatMap.2 ⟨c, hc', by simp [correlatedPair_comm d c, hpair]⟩)
        · exact .inr ⟨c, hc', d, hd', hcd, hpair, rfl⟩

theorem mem_correlatedCandidates {cs : List ReplayCandidate} (h : cs.Nodup) : id ∈ correlatedCandidates cs ↔
    ∃ c ∈ cs, c.candidateId = id ∧
      (c.sawOtherAnswer = some true ∨ ∃ d ∈ cs, c ≠ d ∧ correlatedPair c d = true) := by
  rw [correlatedCandidates, List.mem_append, mem_correlatedPairs h]
  constructor
  · rintro (hsaw | ⟨c, hc, d, hd, hcd, hpair, rfl⟩)
    · obtain ⟨c, hc, rfl⟩ := List.mem_map.1 hsaw
      obtain ⟨hc, hsaw⟩ := List.mem_filter.1 hc
      exact ⟨c, hc, rfl, .inl (by simpa using hsaw)⟩
    · exact ⟨c, hc, rfl, .inr ⟨d, hd, hcd, hpair⟩⟩
  · rintro ⟨c, hc, rfl, hsaw | ⟨d, hd, hcd, hpair⟩⟩
    · exact .inl (List.mem_map_of_mem (List.mem_filter.2 ⟨hc, by simpa using hsaw⟩))
    · exact .inr ⟨c, hc, d, hd, hcd, hpair, rfl⟩

/-! ## What the guards reject -/

/-- The candidates that a guard looks at. -/
def subjects (input : StrategyInput) (guard : GuardName) : List ReplayCandidate :=
  if guard = .failureVisibility then input.candidates else answering input

/-- An identifier is rejected by one of some guards. -/
def RejectedBy (guards : GuardConfig) (input : StrategyInput) (names : List GuardName) (id : String) : Prop :=
  ∃ guard ∈ names, guards.contains guard = true ∧
    ∃ c ∈ subjects input guard, fails input guard c = true ∧ c.candidateId = id

theorem mem_filter_ids {cs : List ReplayCandidate} {p : ReplayCandidate → Bool} :
    id ∈ (cs.filter p).map (·.candidateId) ↔ ∃ c ∈ cs, p c = true ∧ c.candidateId = id := by
  simp [List.mem_map, List.mem_filter, and_assoc]

theorem guardEach_rejected (guard : GuardName) (test : ReplayCandidate → Bool) (g : Governance) :
    id ∈ (guardEach guards input guard test g).rejected ↔
      id ∈ g.rejected ∨ (guards.contains guard = true ∧ ∃ c ∈ answering input, test c = true ∧ c.candidateId = id) := by
  unfold guardEach
  split_ifs with hguard
  · rw [(check_fold guard test (answering input) g).1, List.mem_append, mem_filter_ids]
    simp [hguard]
  · simp [hguard]

theorem guardFailures_rejected (g : Governance) : id ∈ (guardFailures guards input g).rejected ↔
    id ∈ g.rejected ∨ (guards.contains .failureVisibility = true ∧
      ∃ c ∈ input.candidates, c.failure.isSome = true ∧ c.candidateId = id) := by
  unfold guardFailures
  split_ifs with hguard
  · rw [(failure_fold input.candidates g).1, List.mem_append, mem_filter_ids]
    simp [hguard]
  · simp [hguard]

theorem guardIndependence_rejected (g : Governance) : id ∈ (guardIndependence guards input g).rejected ↔
    id ∈ g.rejected ∨ (guards.contains .independenceContamination = true ∧
      id ∈ correlatedCandidates (answering input)) := by
  unfold guardIndependence
  split_ifs with hguard
  · dsimp only
    split_ifs with hnone
    · simp [hnone]
    · simp [hguard]
  · simp [hguard]

def allGuards : List GuardName :=
  [.propositionFidelity, .provenanceCurrentness, .admissionIntegrity, .independenceContamination, .failureVisibility,
    .authorityEffectBoundary]

theorem mem_allGuards (guard : GuardName) : guard ∈ allGuards := by
  cases guard <;> decide

theorem answering_nodup (h : (input.candidates.map (·.candidateId)).Nodup) : (answering input).Nodup :=
  (h.of_map _).filter _

theorem mem_correlated_iff (h : (input.candidates.map (·.candidateId)).Nodup) :
    id ∈ correlatedCandidates (answering input) ↔
      ∃ c ∈ answering input, fails input .independenceContamination c = true ∧ c.candidateId = id := by
  constructor
  · intro hid
    obtain ⟨c, hc, rfl, -⟩ := (mem_correlatedCandidates (answering_nodup h)).1 hid
    exact ⟨c, hc, by simpa [fails] using hid, rfl⟩
  · rintro ⟨c, -, hfails, rfl⟩
    simpa [fails] using hfails

theorem govern_rejected (h : (input.candidates.map (·.candidateId)).Nodup) :
    id ∈ (govern guards input).rejected ↔ RejectedBy guards input allGuards id := by
  have hsubjects : ∀ guard, guard ≠ .failureVisibility → subjects input guard = answering input := fun guard hne =>
    if_neg hne
  have hfailures : subjects input .failureVisibility = input.candidates := if_pos rfl
  simp only [govern, guardEach_rejected, guardFailures_rejected, guardIndependence_rejected, mem_correlated_iff h,
    List.not_mem_nil, false_or]
  simp only [RejectedBy, allGuards, List.mem_cons, List.not_mem_nil, or_false, or_and_right, exists_or, exists_eq_left,
    hfailures, hsubjects _ (by decide : GuardName.propositionFidelity ≠ _),
    hsubjects _ (by decide : GuardName.provenanceCurrentness ≠ _),
    hsubjects _ (by decide : GuardName.admissionIntegrity ≠ _),
    hsubjects _ (by decide : GuardName.independenceContamination ≠ _),
    hsubjects _ (by decide : GuardName.authorityEffectBoundary ≠ _), or_assoc]
  rfl

/-! ## Another order -/

/-- Two runs of the guards with the same findings. -/
structure Alike (g g' : Governance) : Prop where
  rejected : ∀ id, id ∈ g.rejected ↔ id ∈ g'.rejected
  violations : g.violations = g'.violations
  failureBlock : g.failureBlock = g'.failureBlock

/-- The input with its candidates in another order. -/
def StrategyInput.reorder (input : StrategyInput) (candidates : List ReplayCandidate) : StrategyInput :=
  { input with candidates }

section

variable {cs : List ReplayCandidate}

theorem answering_perm (hp : cs.Perm input.candidates) : (answering (input.reorder cs)).Perm (answering input) :=
  hp.filter _

theorem Alike.guardEach (h : Alike g g') (hp : cs.Perm input.candidates) (guard : GuardName)
    (test : ReplayCandidate → Bool) :
    Alike (guardEach guards (input.reorder cs) guard test g) (guardEach guards input guard test g') := by
  have hperm := answering_perm hp
  have hany : (answering (input.reorder cs)).any test = (answering input).any test := hperm.any_eq
  refine ⟨fun id => ?_, ?_, ?_⟩
  · simp only [guardEach_rejected, h.rejected, hperm.mem_iff]
  · unfold GuardedReplay.guardEach
    split_ifs
    · simp only [check_fold, hany, Governance.violate, h.violations]
    · exact h.violations
  · unfold GuardedReplay.guardEach
    split_ifs
    · simp only [check_fold, h.failureBlock]
    · exact h.failureBlock

theorem Alike.guardFailures (h : Alike g g') (hp : cs.Perm input.candidates) :
    Alike (guardFailures guards (input.reorder cs) g) (guardFailures guards input g') := by
  have hany : cs.any (·.failure.isSome) = input.candidates.any (·.failure.isSome) := hp.any_eq
  have hcs : (input.reorder cs).candidates = cs := rfl
  refine ⟨fun id => ?_, ?_, ?_⟩
  · simp only [guardFailures_rejected, h.rejected, hcs, hp.mem_iff]
  · unfold GuardedReplay.guardFailures
    split_ifs
    · simp only [failure_fold, hcs, hany, Governance.violate, h.violations]
    · exact h.violations
  · unfold GuardedReplay.guardFailures
    split_ifs
    · simp only [failure_fold, hcs, hany, h.failureBlock]
    · exact h.failureBlock

theorem correlated_perm (hnodup : (input.candidates.map (·.candidateId)).Nodup) (hp : cs.Perm input.candidates) :
    id ∈ correlatedCandidates (answering (input.reorder cs)) ↔ id ∈ correlatedCandidates (answering input) := by
  have hperm := answering_perm hp
  have hnodup' := answering_nodup hnodup
  simp only [mem_correlatedCandidates hnodup', mem_correlatedCandidates (hperm.nodup_iff.2 hnodup'), hperm.mem_iff]

theorem Alike.guardIndependence (h : Alike g g') (hnodup : (input.candidates.map (·.candidateId)).Nodup)
    (hp : cs.Perm input.candidates) :
    Alike (guardIndependence guards (input.reorder cs) g) (guardIndependence guards input g') := by
  have hnil : correlatedCandidates (answering (input.reorder cs)) = [] ↔ correlatedCandidates (answering input) = [] := by
    simp only [List.eq_nil_iff_forall_not_mem, correlated_perm hnodup hp]
  refine ⟨fun id => ?_, ?_, ?_⟩
  · simp only [guardIndependence_rejected, h.rejected, correlated_perm hnodup hp]
  · unfold GuardedReplay.guardIndependence
    simp only [hnil]
    split_ifs <;> simp [h.violations]
  · unfold GuardedReplay.guardIndependence
    simp only [hnil]
    split_ifs <;> exact h.failureBlock

theorem Alike.govern (guards : GuardConfig) (hnodup : (input.candidates.map (·.candidateId)).Nodup) (hp : cs.Perm input.candidates) :
    Alike (govern guards (input.reorder cs)) (govern guards input) := by
  have hstart : Alike {} {} := ⟨fun _ => Iff.rfl, rfl, rfl⟩
  exact ((((((hstart.guardEach hp _ _).guardEach hp _ _).guardEach hp _ _).guardIndependence hnodup hp).guardFailures
    hp).guardEach hp _ _)

theorem Alike.eligible_perm (h : Alike g g') (hp : cs.Perm input.candidates) :
    (eligible (input.reorder cs) g).Perm (eligible input g') := by
  have hsame : (fun c : ReplayCandidate => decide (c.candidateId ∉ g.rejected)) =
      fun c => decide (c.candidateId ∉ g'.rejected) := by
    funext c
    simp only [h.rejected]
  unfold eligible
  rw [hsame]
  exact (answering_perm hp).filter _

/-! ## The vote -/

/-- What does not depend on the order of the candidates. -/
structure SameVerdict (casefold : String → String) (o o' : ReplayStrategyOutcome) : Prop where
  disposition : o.disposition = o'.disposition
  accepted : ∀ id, id ∈ o.acceptedCandidateIds ↔ id ∈ o'.acceptedCandidateIds
  rejected : ∀ id, id ∈ o.rejectedCandidateIds ↔ id ∈ o'.rejectedCandidateIds
  violations : o.violationsDetected = o'.violationsDetected
  answer : o.answer.map (normalizeAnswer casefold) = o'.answer.map (normalizeAnswer casefold)

theorem mem_rejectedIds {rejected : List String} : id ∈ rejectedIds input rejected ↔
    id ∈ input.candidates.map (·.candidateId) ∧ id ∈ rejected := by
  simp [rejectedIds, List.mem_filter]

theorem rejectedIds_perm (hp : cs.Perm input.candidates) {rejected rejected' : List String}
    (h : ∀ id, id ∈ rejected ↔ id ∈ rejected') :
    id ∈ rejectedIds (input.reorder cs) rejected ↔ id ∈ rejectedIds input rejected' := by
  have hids : id ∈ (input.reorder cs).candidates.map (·.candidateId) ↔ id ∈ input.candidates.map (·.candidateId) :=
    (hp.map _).mem_iff
  rw [mem_rejectedIds, mem_rejectedIds, hids, h]

theorem Alike.abstain (h : Alike g g') (hp : cs.Perm input.candidates) :
    SameVerdict casefold (abstain (input.reorder cs) g) (abstain input g') :=
  ⟨rfl, fun _ => Iff.rfl, fun _ => rejectedIds_perm hp h.rejected, h.violations, rfl⟩

theorem accepted_head {ds : List ReplayCandidate} {winning : String} (hanswered : ∀ c ∈ ds, c.answer.isSome = true)
    (hmem : winning ∈ ds.map (normalized casefold)) :
    ((ds.filter fun c => normalized casefold c = winning).head?.bind (·.answer)).map (normalizeAnswer casefold) =
      some winning := by
  obtain ⟨c, hc, hwin⟩ := List.mem_map.1 hmem
  have hne : (ds.filter fun c => normalized casefold c = winning) ≠ [] :=
    List.ne_nil_of_mem (List.mem_filter.2 ⟨hc, by simpa using hwin⟩)
  obtain ⟨first, rest, hfirst⟩ := List.exists_cons_of_ne_nil hne
  have hin : first ∈ ds.filter fun c => normalized casefold c = winning := hfirst ▸ List.mem_cons_self
  obtain ⟨hfirst_mem, hfirst_win⟩ := List.mem_filter.1 hin
  obtain ⟨answer, hanswer⟩ := Option.isSome_iff_exists.1 (hanswered first hfirst_mem)
  have hnormal : normalizeAnswer casefold answer = winning := by
    simpa [normalized, hanswer] using hfirst_win
  rw [hfirst, List.head?_cons, Option.bind_some, hanswer, Option.map_some, hnormal]

theorem eligible_answered (h : c ∈ eligible input g) : c.answer.isSome = true ∧ c.failure = none := by
  have := (List.mem_filter.1 (List.mem_filter.1 h).1).2
  simpa using this

theorem Alike.integrate (h : Alike g g') (hp : cs.Perm input.candidates) :
    SameVerdict casefold (integrate casefold (input.reorder cs) g) (integrate casefold input g') := by
  have hperm := h.eligible_perm hp
  have hvotes := hperm.map (normalized casefold)
  unfold GuardedReplay.integrate
  simp only [winners_perm hvotes]
  split
  next winning hwin =>
    have hmem : winning ∈ (eligible input g').map (normalized casefold) := (mem_winners.1 (hwin ▸ List.mem_cons_self)).1
    refine ⟨rfl, fun id => ((hperm.filter _).map _).mem_iff, fun id => ?_, h.violations, ?_⟩
    · refine rejectedIds_perm hp fun id => ?_
      rw [List.mem_append, List.mem_append, h.rejected, ((hperm.filter _).map _).mem_iff]
    · rw [accepted_head (fun c hc => (eligible_answered hc).1) (hvotes.mem_iff.2 hmem),
        accepted_head (fun c hc => (eligible_answered hc).1) hmem]
  next => exact ⟨rfl, fun _ => Iff.rfl, fun _ => rejectedIds_perm hp h.rejected, h.violations, rfl⟩

end

/-! ## Validation -/

theorem validate_ok : input.validate = .ok () ↔ input.missing = [] ∧
    (∀ c ∈ input.candidates, c.validate = .ok ()) ∧ (∀ source ∈ input.sources, source.validate = .ok ()) ∧
    (input.candidates.map (·.candidateId)).Nodup ∧ input.primaryCandidateId ∈ input.candidates.map (·.candidateId) ∧
    (input.sources.map (·.sourceId)).Nodup := by
  unfold StrategyInput.validate
  by_cases hmissing : input.missing = []
  · rw [if_neg (not_not.2 hmissing)]
    have hrest : (if ¬ (input.candidates.map (·.candidateId)).Nodup then
          (throw (replayError "candidate IDs must be unique within a strategy input") : Except Failure Unit)
        else if input.primaryCandidateId ∉ input.candidates.map (·.candidateId) then
          throw (replayError "primary_candidate_id must name a candidate")
        else if ¬ (input.sources.map (·.sourceId)).Nodup then
          throw (replayError "source IDs must be unique within a strategy input")
        else pure ()) = .ok () ↔ (input.candidates.map (·.candidateId)).Nodup ∧
          input.primaryCandidateId ∈ input.candidates.map (·.candidateId) ∧ (input.sources.map (·.sourceId)).Nodup := by
      simp only [ite_throw_ok, not_not, pure_ok, and_true]
    rw [← hrest, ← forM_ok, ← forM_ok]
    simp only [bind_eq_ok, hmissing, true_and]
    constructor
    · rintro ⟨⟨⟩, hcandidates, ⟨⟩, hsources, h⟩
      refine ⟨hcandidates, hsources, ?_⟩
      split_ifs at h ⊢ <;> first | exact h | cases h
    · rintro ⟨hcandidates, hsources, h⟩
      refine ⟨(), hcandidates, (), hsources, ?_⟩
      split_ifs at h ⊢
      exact h
  · rw [if_pos hmissing]
    simp [hmissing, throw_bind]

theorem validate_reorder {cs : List ReplayCandidate} (hp : cs.Perm input.candidates) (h : input.validate = .ok ()) :
    (input.reorder cs).validate = .ok () := by
  obtain ⟨hmissing, hcandidates, hsources, hids, hprimary, hsourceIds⟩ := validate_ok.1 h
  have hcs : (input.reorder cs).candidates = cs := rfl
  refine validate_ok.2 ⟨hmissing, fun c hc => hcandidates c (hp.mem_iff.1 hc), hsources, ?_, ?_, hsourceIds⟩
  · rw [hcs]
    exact (hp.map _).nodup_iff.2 hids
  · rw [hcs]
    exact (hp.map _).mem_iff.2 hprimary

theorem rezonGuarded_eq (h : input.validate = .ok ()) :
    rezonGuarded casefold guards input = .ok (
      if (govern guards input).failureBlock then abstain input (govern guards input)
      else if eligible input (govern guards input) = [] then abstain input (govern guards input)
      else integrate casefold input (govern guards input)) := by
  simp only [rezonGuarded, h, ok_bind]
  split_ifs <;> rfl

/-! ## Soundness -/

/-- The candidates that answered and pass every guard that is enabled. -/
def passing (guards : GuardConfig) (input : StrategyInput) : List ReplayCandidate :=
  (answering input).filter fun c => guards.enabled.all fun guard => !fails input guard c

structure SoundAnswer (casefold : String → String) (guards : GuardConfig) (input : StrategyInput)
    (o : ReplayStrategyOutcome) : Prop where
  accepted : ∀ id ∈ o.acceptedCandidateIds, ∃ c ∈ input.candidates, c.candidateId = id ∧ c.answer.isSome = true ∧
    c.failure = none ∧ ∀ guard ∈ guards.enabled, fails input guard c = false
  independent : guards.contains .independenceContamination = true → ∀ c ∈ input.candidates, ∀ d ∈ input.candidates,
    c.candidateId ∈ o.acceptedCandidateIds → d.candidateId ∈ o.acceptedCandidateIds → c ≠ d →
      correlatedPair c d = false
  plurality : ∃ winning, o.answer.map (normalizeAnswer casefold) = some winning ∧
    (∀ c ∈ passing guards input, c.candidateId ∈ o.acceptedCandidateIds ↔ normalized casefold c = winning) ∧
    ∀ other ∈ (passing guards input).map (normalized casefold), other ≠ winning →
      ((passing guards input).map (normalized casefold)).count other <
        ((passing guards input).map (normalized casefold)).count winning
  partition : ∀ c ∈ input.candidates, c.answer.isSome = true → c.failure = none →
    Xor (c.candidateId ∈ o.acceptedCandidateIds) (c.candidateId ∈ o.rejectedCandidateIds)

theorem mem_answering : c ∈ answering input ↔ c ∈ input.candidates ∧ c.answer.isSome = true ∧ c.failure = none := by
  simp [answering, List.mem_filter]

/-- A candidate that answered is rejected by the guards that it fails itself. -/
theorem rejected_iff (hids : (input.candidates.map (·.candidateId)).Nodup) (hc : c ∈ answering input) :
    c.candidateId ∈ (govern guards input).rejected ↔ ∃ guard ∈ guards.enabled, fails input guard c = true := by
  have hmem := (mem_answering.1 hc).1
  rw [govern_rejected hids]
  constructor
  · rintro ⟨guard, -, hguard, d, hd, hfails, hid⟩
    have hd' : d ∈ input.candidates := by
      unfold subjects at hd
      split_ifs at hd
      · exact hd
      · exact (mem_answering.1 hd).1
    rw [List.inj_on_of_nodup_map hids hd' hmem hid] at hfails
    exact ⟨guard, by simpa [GuardConfig.contains] using hguard, hfails⟩
  · rintro ⟨guard, hguard, hfails⟩
    refine ⟨guard, mem_allGuards guard, by simpa [GuardConfig.contains] using hguard, c, ?_, hfails, rfl⟩
    unfold subjects
    split_ifs
    · exact hmem
    · exact hc

theorem eligible_eq (hids : (input.candidates.map (·.candidateId)).Nodup) :
    eligible input (govern guards input) = passing guards input := by
  refine List.filter_congr fun c hc => ?_
  rw [Bool.eq_iff_iff, decide_eq_true_iff, rejected_iff hids hc]
  simp

theorem mem_passing : c ∈ passing guards input ↔
    c ∈ answering input ∧ ∀ guard ∈ guards.enabled, fails input guard c = false := by
  simp [passing, List.mem_filter]

theorem integrate_answer (hids : (input.candidates.map (·.candidateId)).Nodup)
    (h : (integrate casefold input (govern guards input)).disposition = .answer) :
    SoundAnswer casefold guards input (integrate casefold input (govern guards input)) := by
  unfold integrate at h ⊢
  rw [eligible_eq hids] at h ⊢
  dsimp only at h ⊢
  split at h
  next winning hwin =>
    have hmem : winning ∈ (passing guards input).map (normalized casefold) := (mem_winners.1 (hwin ▸ List.mem_cons_self)).1
    have hinput : ∀ d ∈ passing guards input, d ∈ input.candidates := fun d hd => (mem_answering.1 (mem_passing.1 hd).1).1
    have haccepted : ∀ d ∈ input.candidates,
        d.candidateId ∈ ((passing guards input).filter fun c => normalized casefold c = winning).map (·.candidateId) ↔
          d ∈ passing guards input ∧ normalized casefold d = winning := by
      intro d hd
      rw [mem_filter_ids]
      constructor
      · rintro ⟨e, he, hnormal, hid⟩
        rw [← List.inj_on_of_nodup_map hids (hinput e he) hd hid]
        exact ⟨he, by simpa using hnormal⟩
      · exact fun ⟨hd, hnormal⟩ => ⟨d, hd, by simpa using hnormal, rfl⟩
    refine ⟨fun id hid => ?_, fun hguard c hc d hd hca hda hne => ?_, ⟨winning, ?_, fun c hc => ?_, ?_⟩,
      fun c hc hanswer hfailure => ?_⟩
    · obtain ⟨c, hc, -, rfl⟩ := mem_filter_ids.1 hid
      obtain ⟨hanswering, hpasses⟩ := mem_passing.1 hc
      obtain ⟨hin, hanswer, hfailure⟩ := mem_answering.1 hanswering
      exact ⟨c, hin, rfl, hanswer, hfailure, hpasses⟩
    · obtain ⟨hc, hpasses⟩ := mem_passing.1 ((haccepted c hc).1 hca).1
      have hd := (mem_passing.1 ((haccepted d hd).1 hda).1).1
      have huncorrelated := hpasses .independenceContamination (by simpa [GuardConfig.contains] using hguard)
      simp only [fails, decide_eq_false_iff_not, mem_correlatedCandidates (answering_nodup hids)] at huncorrelated
      by_contra hpair
      exact huncorrelated ⟨c, hc, rfl, .inr ⟨d, hd, hne, by simpa using hpair⟩⟩
    · exact accepted_head (fun c hc => (mem_answering.1 (mem_passing.1 hc).1).2.1) hmem
    · rw [haccepted c (hinput c hc)]
      exact and_iff_right hc
    · exact fun other hother hne => count_lt_of_winner hwin hother hne
    · have hc' : c ∈ answering input := mem_answering.2 ⟨hc, hanswer, hfailure⟩
      have hstopped : (∃ guard ∈ guards.enabled, fails input guard c = true) ↔ c ∉ passing guards input := by
        rw [mem_passing, and_iff_right hc']
        push Not
        simp only [Bool.not_eq_false]
      have houtvoted : (∃ d ∈ passing guards input, decide (normalized casefold d ≠ winning) = true ∧
          d.candidateId = c.candidateId) ↔ c ∈ passing guards input ∧ normalized casefold c ≠ winning := by
        constructor
        · rintro ⟨d, hd, hnormal, hid⟩
          rw [← List.inj_on_of_nodup_map hids (hinput d hd) hc hid]
          exact ⟨hd, by simpa using hnormal⟩
        · exact fun ⟨hd, hnormal⟩ => ⟨c, hd, by simpa using hnormal, rfl⟩
      rw [haccepted c hc, mem_rejectedIds, List.mem_append, rejected_iff hids hc', mem_filter_ids, hstopped, houtvoted,
        and_iff_right (List.mem_map_of_mem hc)]
      by_cases hpasses : c ∈ passing guards input <;> by_cases hnormal : normalized casefold c = winning <;>
        simp [hpasses, hnormal, Xor]
  next => cases h

/-- The guarded strategy answers for candidates that validate, in every order alike, and soundly. -/
theorem rezonGuarded_sound (casefold : String → String) (guards : GuardConfig) (input : StrategyInput)
    (hvalid : input.validate = .ok ()) : ∃ o, rezonGuarded casefold guards input = .ok o ∧
      (∀ cs, cs.Perm input.candidates → ∃ o', rezonGuarded casefold guards (input.reorder cs) = .ok o' ∧
        SameVerdict casefold o' o) ∧
      (o.disposition = .answer → SoundAnswer casefold guards input o) := by
  obtain ⟨-, -, -, hids, -, -⟩ := validate_ok.1 hvalid
  refine ⟨_, rezonGuarded_eq hvalid, fun cs hp => ⟨_, rezonGuarded_eq (validate_reorder hp hvalid), ?_⟩, fun ho => ?_⟩
  · have halike := Alike.govern guards hids hp
    have hnil : eligible (input.reorder cs) (govern guards (input.reorder cs)) = [] ↔
        eligible input (govern guards input) = [] := by
      simp only [List.eq_nil_iff_forall_not_mem, (halike.eligible_perm hp).mem_iff]
    rw [halike.failureBlock]
    simp only [hnil]
    split_ifs
    · exact halike.abstain hp
    · exact halike.abstain hp
    · exact halike.integrate hp
  · split_ifs at ho ⊢
    · cases ho
    · cases ho
    · exact integrate_answer hids ho

/-! ## Three candidates -/

/-- A candidate that answers and claims nothing. -/
def sampleCandidate (candidateId answer : String) : ReplayCandidate where
  candidateId := candidateId
  workerId := "w"
  executionId := "e"
  answer := some answer
  solvedRequest := none
  sourceRefs := []
  evidenceRefs := []
  modelId := none
  providerId := none
  promptLineage := none
  contextLineage := none
  sawOtherAnswer := none
  commonEvidenceRefs := []
  failure := none
  receiptClaims := []
  effectStateClaim := none
  authorityClaims := []
  advisorySignals := []

/-- Two candidates against one. -/
def sampleInput : StrategyInput where
  caseId := "case"
  fixtureVersion := "1"
  literalRequest := "request"
  primaryCandidateId := "a"
  candidates := [sampleCandidate "a" "yes", sampleCandidate "b" "no", sampleCandidate "c" "yes"]
  sources := []

theorem rezonGuarded_three : ∃ o, rezonGuarded String.toLower ⟨allGuards⟩ sampleInput = .ok o ∧
    (∀ cs, cs.Perm sampleInput.candidates →
      ∃ o', rezonGuarded String.toLower ⟨allGuards⟩ (sampleInput.reorder cs) = .ok o' ∧
      SameVerdict String.toLower o' o) ∧
    (o.disposition = .answer → SoundAnswer String.toLower ⟨allGuards⟩ sampleInput o) :=
  rezonGuarded_sound String.toLower ⟨allGuards⟩ sampleInput (by decide)

end VeraMono.GuardedReplay
