import Mathlib.Data.List.DropRight
import VeraMono.Model.Reconciliation
import VeraMono.Proof.TaskCommands

/-!
# What the observations say together

`verdict` is the cascade of `reconcile_exact` as tests on the members of the list. One test is on
the length: a single observation is unresolved. It stands for the wish that two providers agree,
and is not the same: the observation twice, or two of one provider, pass it. `verdict_congr` says
where the length is looked at, `OneSided.gamed` what follows, and `reconcileExact_ungamed_iff` that
nothing else can be gamed.
-/

namespace VeraMono.Reconciliation

open Framework
open TaskLedger (mem_sortedSet)

variable {py : Stdlib}

/-! ## Constructed observations -/

theorem strip_strip (cs : List Char) : strip (strip cs) = strip cs := by
  have hstrip : ∀ xs, strip xs = (xs.dropWhile isWhitespace).rdropWhile isWhitespace := fun _ => rfl
  rw [hstrip (strip cs), hstrip cs]
  set trimmed := cs.dropWhile isWhitespace with htrimmed
  have hhead : (trimmed.rdropWhile isWhitespace).dropWhile isWhitespace = trimmed.rdropWhile isWhitespace := by
    rw [List.dropWhile_eq_self_iff]
    intro hpos
    have hpre : trimmed.rdropWhile isWhitespace <+: trimmed := List.rdropWhile_prefix _ _
    have hlen : 0 < trimmed.length := lt_of_lt_of_le hpos hpre.length_le
    have hself : trimmed.dropWhile isWhitespace = trimmed := List.dropWhile_idempotent _ _
    rw [hpre.getElem hpos]
    exact List.dropWhile_eq_self_iff.1 hself hlen
  rw [hhead, List.rdropWhile_idempotent]

theorem mem_dropWhile {c : Char} {cs : List Char} (hmem : c ∈ cs) (hc : isWhitespace c = false) :
    c ∈ cs.dropWhile isWhitespace := by
  rw [← List.takeWhile_append_dropWhile (p := isWhitespace) (l := cs)] at hmem
  rcases List.mem_append.1 hmem with htaken | hdropped
  · exact absurd (List.mem_takeWhile_imp htaken) (by simp [hc])
  · exact hdropped

theorem mem_strip {c : Char} {cs : List Char} (hmem : c ∈ cs) (hc : isWhitespace c = false) : c ∈ strip cs := by
  unfold strip
  rw [List.mem_reverse]
  exact mem_dropWhile (List.mem_reverse.2 (mem_dropWhile hmem hc)) hc

theorem nonblank_strip {value : String} (h : nonblank value = true) :
    nonblank (.ofList (strip value.toList)) = true := by
  simp only [nonblank, List.any_eq_true, String.toList_ofList] at h ⊢
  obtain ⟨c, hmem, hc⟩ := h
  exact ⟨c, mem_strip hmem (by simpa using hc), hc⟩

theorem requiredText_ok {name value text : String} :
    requiredText name value = .ok text ↔ nonblank value = true ∧ text = .ofList (strip value.toList) := by
  unfold requiredText
  split
  · simp [*, eq_comm]
  · simp [*]

theorem requiredText_again {name other value text : String} (h : requiredText name value = .ok text) :
    requiredText other text = .ok text := by
  obtain ⟨hnonblank, rfl⟩ := requiredText_ok.1 h
  exact requiredText_ok.2 ⟨nonblank_strip hnonblank, by rw [String.toList_ofList, strip_strip]⟩

theorem awareTimestamp_ok {value text : String} :
    awareTimestamp py value = .ok text ↔
      requiredText "observed_at" value = .ok text ∧
        py.parseTimestamp text ≠ .invalid ∧ py.parseTimestamp text ≠ .naive := by
  simp only [awareTimestamp, bind_eq_ok]
  constructor
  · rintro ⟨stripped, hstripped, h⟩
    cases hparse : py.parseTimestamp stripped <;> rw [hparse] at h <;> simp only [throw_ok, pure_ok] at h
    all_goals subst h; exact ⟨hstripped, by simp [hparse], by simp [hparse]⟩
  · rintro ⟨hstripped, hinvalid, hnaive⟩
    refine ⟨text, hstripped, ?_⟩
    cases hparse : py.parseTimestamp text <;> simp_all [pure_ok]

theorem awareTimestamp_again {value text : String} (h : awareTimestamp py value = .ok text) :
    awareTimestamp py text = .ok text := by
  obtain ⟨hstripped, hparse⟩ := awareTimestamp_ok.1 h
  exact awareTimestamp_ok.2 ⟨requiredText_again hstripped, hparse⟩

theorem postInit_observedAt {args : EnvelopeArguments} {e : ProviderEvidenceEnvelope}
    (h : ProviderEvidenceEnvelope.postInit py args = .ok e) :
    awareTimestamp py args.observedAt = .ok e.observedAt := by
  simp only [ProviderEvidenceEnvelope.postInit, bind_eq_ok] at h
  obtain ⟨provider, -, locator, -, revision, -, evidenceClass, -, referent, -, scope, -, privacyClass, -,
    currentnessBasis, -, observedAt, htime, h⟩ := h
  cases hs : SupersessionState.ofText? args.supersessionState with
  | none => simp [hs] at h
  | some supersession =>
    cases hc : ConflictState.ofText? args.conflictState with
    | none => simp [hs, hc] at h
    | some state =>
      simp only [hs, hc, bind_eq_ok] at h
      obtain ⟨digest, -, receipt, -, h⟩ := h
      split at h
      · cases h
      split at h
      · cases h
      obtain rfl := pure_ok.1 h
      exact htime

theorem validateEnvelope_ok (o : Observation py) : validateEnvelope py o.envelope = .ok () := by
  obtain ⟨e, args, hargs⟩ := o
  have htime := awareTimestamp_again (postInit_observedAt hargs)
  simp [validateEnvelope, htime]

/-! ## The verdict -/

/-- The content digests that the observations carry agree with each other, or with an expected one. -/
def DigestsAgree (items : List ProviderEvidenceEnvelope) : Option String → Prop
  | some expected => ∀ d ∈ digestsOf items, d = expected
  | none => ∀ d ∈ digestsOf items, ∀ d' ∈ digestsOf items, d = d'

/-- The provider's route was unavailable. -/
def ProviderEvidenceEnvelope.Unavailable (e : ProviderEvidenceEnvelope) : Prop :=
  metadataIs "availability" "UNAVAILABLE" e = true

def ProviderEvidenceEnvelope.IsTarget (e : ProviderEvidenceEnvelope) : Prop :=
  metadataIs "projection_role" "TARGET" e = true

def ProviderEvidenceEnvelope.Conflicting (e : ProviderEvidenceEnvelope) : Prop :=
  e.conflictState = .conflict ∨ e.conflictState = .mismatch

/-- The observations get as far as the comparison of their revisions. -/
structure Comparable (items : List ProviderEvidenceEnvelope) (expectedDigest : Option String) : Prop where
  nonempty : items ≠ []
  available : ∃ e ∈ items, ¬ e.Unavailable
  settled : ∀ e ∈ items, ¬ e.Conflicting ∧ e.conflictState ≠ .unknown
  digests : DigestsAgree items expectedDigest

def SameRevision (items : List ProviderEvidenceEnvelope) : Prop := ∀ a ∈ items, ∀ b ∈ items, a.revision = b.revision

def SameProvider (items : List ProviderEvidenceEnvelope) : Prop := ∀ a ∈ items, ∀ b ∈ items, a.provider = b.provider

open Classical in
/-- The status of observations that are comparable. -/
noncomputable def revisionVerdict (items : List ProviderEvidenceEnvelope) : Option String → ReconciliationStatus
  | some expected =>
    if ∀ e ∈ items, e.revision = expected then .verifiedExact
    else if (∃ e ∈ items, e.revision = expected) ∧ ∀ e ∈ items, e.revision ≠ expected → e.IsTarget then
      .staleProjection
    else .conflict
  | none =>
    if items.length = 1 then .unresolved
    else if SameRevision items then .verifiedExact
    else .conflict

open Classical in
/-- The status that the tests come to. -/
noncomputable def verdict (items : List ProviderEvidenceEnvelope) (expectedRevision expectedDigest : Option String) :
    ReconciliationStatus :=
  if items = [] then .absent
  else if ∀ e ∈ items, e.Unavailable then .unavailable
  else if ∃ e ∈ items, e.Conflicting then .conflict
  else if ∃ e ∈ items, e.conflictState = .unknown then .unresolved
  else if ¬ DigestsAgree items expectedDigest then .conflict
  else revisionVerdict items expectedRevision

/-! ## Sets of texts -/

theorem sortedSet_eq_nil {xs : List String} : sortedSet xs = [] ↔ ∀ x, x ∉ xs := by
  rw [List.eq_nil_iff_forall_not_mem]
  exact forall_congr' fun x => by rw [mem_sortedSet]

theorem eraseDups_nodup (xs : List String) : xs.eraseDups.Nodup := by
  induction h : xs.length using Nat.strong_induction_on generalizing xs with
  | _ n ih =>
    cases xs with
    | nil => exact List.nodup_nil
    | cons x xs =>
      rw [List.eraseDups_cons, List.nodup_cons, List.mem_eraseDups]
      have hlen : (xs.filter fun y => !y == x).length < n := by
        rw [← h, List.length_cons]
        exact Nat.lt_succ_of_le (List.length_filter_le _ _)
      exact ⟨by simp, ih _ hlen _ rfl⟩

theorem sortedSet_nodup (xs : List String) : (sortedSet xs).Nodup :=
  (List.perm_insertionSort _ _).nodup_iff.2 (eraseDups_nodup xs)

theorem sortedSet_length_le_one {xs : List String} :
    (sortedSet xs).length ≤ 1 ↔ ∀ x ∈ xs, ∀ y ∈ xs, x = y := by
  constructor
  · intro h x hx y hy
    rw [← mem_sortedSet] at hx hy
    obtain ⟨z, hz⟩ | hnil := Nat.le_one_iff_eq_zero_or_eq_one.1 h |>.symm.imp List.length_eq_one_iff.1 List.length_eq_zero_iff.1
    · rw [hz, List.mem_singleton] at hx hy
      rw [hx, hy]
    · rw [hnil] at hx
      exact absurd hx List.not_mem_nil
  · intro h
    by_contra hlen
    have h0 : 0 < (sortedSet xs).length := by omega
    have h1 : 1 < (sortedSet xs).length := by omega
    have heq := h _ (mem_sortedSet.1 (List.getElem_mem h0)) _ (mem_sortedSet.1 (List.getElem_mem h1))
    have := (sortedSet_nodup xs).getElem_inj_iff.1 heq
    omega

theorem digestConflict_isSome {items : List ProviderEvidenceEnvelope} {expected : Option String} :
    (digestConflict py items expected).isSome ↔ ¬ DigestsAgree items expected := by
  cases expected with
  | some d =>
    simp only [digestConflict, DigestsAgree]
    split <;> rename_i h <;> simp only [sortedSet_eq_nil, List.mem_filter] at h <;> simpa using h
  | none =>
    simp only [digestConflict, DigestsAgree, ← sortedSet_length_le_one]
    split <;> simp_all

theorem revisionsOf_length_le_one {items : List ProviderEvidenceEnvelope} :
    (revisionsOf items).length ≤ 1 ↔ SameRevision items := by
  simp [revisionsOf, sortedSet_length_le_one, SameRevision]

/-! ## What is reported -/

def statusOf (py : Stdlib) (key : String) (items : List (Observation py))
    (expectedRevision expectedDigest : Option String) : Except Failure ReconciliationStatus :=
  (reconcileExact py key (items.map (·.envelope)) expectedRevision expectedDigest).map (·.status)

section

variable {key : String} {items : List ProviderEvidenceEnvelope}

theorem result_status {status : ReconciliationStatus} {reason : String} (h : key ≠ "") :
    (result status key items reason).map (·.status) = .ok status := by
  simp [result, h, Except.map]

theorem reconcileExpected_status {expected : String} (h : key ≠ "") :
    (reconcileExpected py key items expected).map (·.status) = .ok (revisionVerdict items (some expected)) := by
  have hall : items.filter (·.revision ≠ expected) = [] ↔ ∀ e ∈ items, e.revision = expected := by
    simp
  have hsome : items.filter (·.revision = expected) ≠ [] ↔ ∃ e ∈ items, e.revision = expected := by
    simp
  have htargets : ((items.filter (·.revision ≠ expected)).filter (metadataIs "projection_role" "TARGET")).length =
      (items.filter (·.revision ≠ expected)).length ↔ ∀ e ∈ items, e.revision ≠ expected → e.IsTarget := by
    rw [List.length_filter_eq_length_iff]
    simp [ProviderEvidenceEnvelope.IsTarget]
  simp only [reconcileExpected, revisionVerdict]
  by_cases hsame : ∀ e ∈ items, e.revision = expected
  · rw [if_pos (hall.2 hsame), if_pos hsame]
    exact result_status h
  rw [if_neg (mt hall.1 hsame), if_neg hsame]
  by_cases hstale : (∃ e ∈ items, e.revision = expected) ∧ ∀ e ∈ items, e.revision ≠ expected → e.IsTarget
  · rw [if_pos ((and_congr hsome htargets).2 hstale), if_pos hstale]
    exact result_status h
  · rw [if_neg (mt (and_congr hsome htargets).1 hstale), if_neg hstale]
    exact result_status h

theorem reconcilePeers_status (h : key ≠ "") (hitems : items ≠ []) :
    (reconcilePeers py key items).map (·.status) = .ok (revisionVerdict items none) := by
  have hnonempty : revisionsOf items ≠ [] := by
    obtain ⟨e, rest, rfl⟩ := List.exists_cons_of_ne_nil hitems
    exact List.ne_nil_of_mem (mem_sortedSet.2 (List.mem_map.2 ⟨e, List.mem_cons_self, rfl⟩))
  simp only [reconcilePeers, revisionVerdict, ← revisionsOf_length_le_one]
  split_ifs with hone hsame
  · exact result_status h
  · obtain ⟨revision, hrevision⟩ : ∃ r, revisionsOf items = [r] :=
      List.length_eq_one_iff.1 (le_antisymm hsame (List.length_pos_iff.2 hnonempty))
    simp only [hrevision]
    exact result_status h
  · split
    · simp_all
    · exact result_status h

end

theorem stripped_ne {key : String} (h : nonblank key = true) : String.ofList (strip key.toList) ≠ "" := by
  intro hempty
  have := nonblank_strip h
  rw [hempty] at this
  exact absurd this (by decide)

theorem statusOf_blank {key : String} (h : nonblank key = false) (items : List (Observation py))
    (er ed : Option String) :
    statusOf py key items er ed = .error (valueFailure "subject_key must be non-empty") := by
  simp only [statusOf, reconcileExact, h]
  rfl

theorem statusOf_eq {key : String} (h : nonblank key = true) (items : List (Observation py))
    (er ed : Option String) :
    statusOf py key items er ed = .ok (verdict (items.map (·.envelope)) er ed) := by
  have hkey := stripped_ne h
  have hvalid : (items.map (·.envelope)).forM (validateEnvelope py) = .ok () := by
    rw [forM_ok]
    intro e he
    obtain ⟨o, -, rfl⟩ := List.mem_map.1 he
    exact validateEnvelope_ok o
  have hunavailable : (items.map (·.envelope)).all (metadataIs "availability" "UNAVAILABLE") = true ↔
      ∀ e ∈ items.map (·.envelope), e.Unavailable := List.all_eq_true
  have hconflict : (items.map (·.envelope)).any (fun e => e.conflictState = .conflict ∨ e.conflictState = .mismatch) =
      true ↔ ∃ e ∈ items.map (·.envelope), e.Conflicting := by
    simp [ProviderEvidenceEnvelope.Conflicting]
  have hunknown : (items.map (·.envelope)).any (·.conflictState = .unknown) = true ↔
      ∃ e ∈ items.map (·.envelope), e.conflictState = .unknown := by
    simp
  unfold statusOf reconcileExact verdict
  generalize items.map (·.envelope) = envelopes at *
  simp only [h, if_true]
  by_cases hnil : envelopes = []
  · simp only [hnil, if_true]
    exact result_status hkey
  simp only [hnil, if_false, hvalid, ok_bind]
  by_cases hall : ∀ e ∈ envelopes, e.Unavailable
  · rw [if_pos hall]
    simp only [hunavailable.2 hall, if_true]
    exact result_status hkey
  rw [if_neg hall]
  simp only [mt hunavailable.1 hall, Bool.false_eq_true, if_false]
  by_cases hc : ∃ e ∈ envelopes, e.Conflicting
  · rw [if_pos hc]
    simp only [hconflict.2 hc, if_true]
    exact result_status hkey
  rw [if_neg hc]
  simp only [mt hconflict.1 hc, Bool.false_eq_true, if_false]
  by_cases hu : ∃ e ∈ envelopes, e.conflictState = .unknown
  · rw [if_pos hu]
    simp only [hunknown.2 hu, if_true]
    exact result_status hkey
  rw [if_neg hu]
  simp only [mt hunknown.1 hu, Bool.false_eq_true, if_false]
  by_cases hd : DigestsAgree envelopes ed
  · have hnone : digestConflict py envelopes ed = none := by
      rwa [← Option.not_isSome_iff_eq_none, digestConflict_isSome, not_not]
    rw [if_neg (not_not.2 hd), hnone]
    cases er with
    | some expected => exact reconcileExpected_status hkey
    | none => exact reconcilePeers_status hkey hnil
  · have hsome : (digestConflict py envelopes ed).isSome := digestConflict_isSome.2 hd
    obtain ⟨reason, hreason⟩ := Option.isSome_iff_exists.1 hsome
    rw [if_pos hd, hreason]
    exact result_status hkey

/-! ## Sets of observations -/

/-- Two lists of the same observations. -/
def SameMembers {α : Type} (xs ys : List α) : Prop := ∀ x, x ∈ xs ↔ x ∈ ys

theorem SameMembers.map {α β : Type} {xs ys : List α} (h : SameMembers xs ys) (f : α → β) :
    SameMembers (xs.map f) (ys.map f) := fun b => by
  simp only [List.mem_map, h _]

section

variable {xs ys : List ProviderEvidenceEnvelope} {er ed : Option String}

theorem SameMembers.nil_iff (h : SameMembers xs ys) : xs = [] ↔ ys = [] := by
  simp only [List.eq_nil_iff_forall_not_mem, h _]

theorem DigestsAgree.congr (h : SameMembers xs ys) : DigestsAgree xs ed ↔ DigestsAgree ys ed := by
  cases ed <;> simp only [DigestsAgree, digestsOf, List.mem_filterMap, h _]

theorem SameRevision.congr (h : SameMembers xs ys) : SameRevision xs ↔ SameRevision ys := by
  simp only [SameRevision, h _]

theorem sameRevision_of_length (h : xs.length = 1) : SameRevision xs := by
  obtain ⟨e, rfl⟩ := List.length_eq_one_iff.1 h
  simp [SameRevision]

theorem verdict_comparable (h : Comparable xs ed) : verdict xs er ed = revisionVerdict xs er := by
  have hall : ¬ ∀ e ∈ xs, e.Unavailable := fun hall =>
    let ⟨e, he, ha⟩ := h.available
    ha (hall e he)
  have hconflict : ¬ ∃ e ∈ xs, e.Conflicting := fun ⟨e, he, hc⟩ => (h.settled e he).1 hc
  have hunknown : ¬ ∃ e ∈ xs, e.conflictState = .unknown := fun ⟨e, he, hu⟩ => (h.settled e he).2 hu
  rw [verdict, if_neg h.nonempty, if_neg hall, if_neg hconflict, if_neg hunknown, if_neg (not_not.2 h.digests)]

theorem comparable_of_verified (h : verdict xs er ed = .verifiedExact) : Comparable xs ed := by
  unfold verdict at h
  by_contra hnot
  have hcases : xs = [] ∨ (∀ e ∈ xs, e.Unavailable) ∨ (∃ e ∈ xs, e.Conflicting) ∨
      (∃ e ∈ xs, e.conflictState = .unknown) ∨ ¬ DigestsAgree xs ed := by
    by_contra hall
    push Not at hall
    exact hnot ⟨hall.1, hall.2.1, fun e he => ⟨hall.2.2.1 e he, hall.2.2.2.1 e he⟩, hall.2.2.2.2⟩
  split_ifs at h with h1 h2 h3 h4 h5
  exact hcases.elim h1 (·.elim h2 (·.elim h3 (·.elim h4 (not_not.2 h5))))

theorem Comparable.congr (h : SameMembers xs ys) (hcomp : Comparable xs ed) : Comparable ys ed :=
  ⟨mt h.nil_iff.2 hcomp.nonempty, by simpa only [h _] using hcomp.available,
    by simpa only [h _] using hcomp.settled, (DigestsAgree.congr h).1 hcomp.digests⟩

open Classical in
theorem revisionVerdict_congr (h : SameMembers xs ys)
    (hlen : er = none → SameRevision xs → (xs.length = 1 ↔ ys.length = 1)) :
    revisionVerdict xs er = revisionVerdict ys er := by
  cases er with
  | some expected =>
    have hsame : (∀ e ∈ xs, e.revision = expected) ↔ ∀ e ∈ ys, e.revision = expected := by simp only [h _]
    have hstale : ((∃ e ∈ xs, e.revision = expected) ∧ ∀ e ∈ xs, e.revision ≠ expected → e.IsTarget) ↔
        (∃ e ∈ ys, e.revision = expected) ∧ ∀ e ∈ ys, e.revision ≠ expected → e.IsTarget := by
      simp only [h _]
    exact if_congr hsame rfl (if_congr hstale rfl rfl)
  | none =>
    have hlen' : xs.length = 1 ↔ ys.length = 1 := by
      by_cases hs : SameRevision xs
      · exact hlen rfl hs
      · have hx : xs.length ≠ 1 := fun hone => hs (sameRevision_of_length hone)
        have hy : ys.length ≠ 1 := fun hone => hs ((SameRevision.congr h).2 (sameRevision_of_length hone))
        simp only [hx, hy]
    exact if_congr hlen' rfl (if_congr (SameRevision.congr h) rfl rfl)

open Classical in
/-- The length of the list is looked at only where the observations are comparable and of one revision,
and no revision is expected. -/
theorem verdict_congr (h : SameMembers xs ys)
    (hlen : Comparable xs ed → er = none → SameRevision xs → (xs.length = 1 ↔ ys.length = 1)) :
    verdict xs er ed = verdict ys er ed := by
  have hall : (∀ e ∈ xs, e.Unavailable) ↔ ∀ e ∈ ys, e.Unavailable := by simp only [h _]
  have hconflict : (∃ e ∈ xs, e.Conflicting) ↔ ∃ e ∈ ys, e.Conflicting := by simp only [h _]
  have hunknown : (∃ e ∈ xs, e.conflictState = .unknown) ↔ ∃ e ∈ ys, e.conflictState = .unknown := by
    simp only [h _]
  refine ite_congr (propext h.nil_iff) (fun _ => rfl) fun h1 => ?_
  refine ite_congr (propext hall) (fun _ => rfl) fun h2 => ?_
  refine ite_congr (propext hconflict) (fun _ => rfl) fun h3 => ?_
  refine ite_congr (propext hunknown) (fun _ => rfl) fun h4 => ?_
  refine ite_congr (propext (not_congr (DigestsAgree.congr h))) (fun _ => rfl) fun h5 => ?_
  have hcomp : Comparable xs ed := by
    rw [← hall] at h2
    push Not at h2
    exact ⟨mt h.nil_iff.1 h1, h2,
      fun e he => ⟨fun hc => h3 (hconflict.1 ⟨e, he, hc⟩), fun hu => h4 (hunknown.1 ⟨e, he, hu⟩)⟩,
      (DigestsAgree.congr h).2 (not_not.1 h5)⟩
  exact revisionVerdict_congr h (hlen hcomp)

theorem mem_digestsOf {e : ProviderEvidenceEnvelope} {d : String} (he : e ∈ xs) (hd : d ∈ e.contentDigest) :
    d ∈ digestsOf xs := List.mem_filterMap.2 ⟨e, he, hd⟩

theorem DigestsAgree.same (h : DigestsAgree xs ed) {d d' : String} (hd : d ∈ digestsOf xs) (hd' : d' ∈ digestsOf xs) :
    d = d' := by
  cases ed with
  | some expected => rw [h d hd, h d' hd']
  | none => exact h d hd d' hd'

theorem DigestsAgree.subset (h : xs ⊆ ys) (hys : DigestsAgree ys ed) : DigestsAgree xs ed := by
  have hmem : ∀ d ∈ digestsOf xs, d ∈ digestsOf ys := fun d hd =>
    let ⟨e, he, hed⟩ := List.mem_filterMap.1 hd
    List.mem_filterMap.2 ⟨e, h he, hed⟩
  cases ed with
  | some expected => exact fun d hd => hys d (hmem d hd)
  | none => exact fun d hd d' hd' => hys d (hmem d hd) d' (hmem d' hd')

/-- What is verified is verified of fewer observations, unless they are none or unavailable or a single one. -/
theorem verdict_subset (h : xs ⊆ ys) (hverified : verdict ys er ed = .verifiedExact) :
    verdict xs er ed ≠ .conflict := by
  have hcomp := comparable_of_verified hverified
  rw [verdict_comparable hcomp] at hverified
  intro hconflict
  have hnil : xs ≠ [] := by
    rintro rfl
    simp [verdict] at hconflict
  have havailable : ∃ e ∈ xs, ¬ e.Unavailable := by
    by_contra hall
    push Not at hall
    rw [verdict, if_neg hnil, if_pos hall] at hconflict
    cases hconflict
  have hxs : Comparable xs ed :=
    ⟨hnil, havailable, fun e he => hcomp.settled e (h he), hcomp.digests.subset h⟩
  rw [verdict_comparable hxs] at hconflict
  cases er with
  | some expected =>
    simp only [revisionVerdict] at hverified hconflict
    split_ifs at hverified with hsame
    rw [if_pos fun e he => hsame e (h he)] at hconflict
    cases hconflict
  | none =>
    simp only [revisionVerdict] at hverified hconflict
    split_ifs at hverified with hone hsame
    have hsame' : SameRevision xs := fun a ha b hb => hsame a (h ha) b (h hb)
    split_ifs at hconflict

end

/-! ## Repetition and order -/

/-- The observations are comparable without an expected revision, and they are all of one revision and of
one provider: a single observation, or the observations of one provider. -/
structure OneSided (key : String) (items : List (Observation py)) (expectedRevision expectedDigest : Option String) :
    Prop where
  key : nonblank key = true
  unanchored : expectedRevision = none
  comparable : Comparable (items.map (·.envelope)) expectedDigest
  revision : SameRevision (items.map (·.envelope))
  provider : SameProvider (items.map (·.envelope))

/-- The status is one of the set of observations, agreement is that of two providers, and a conflict is not
verified by observing more. -/
structure Ungamed (key : String) (items : List (Observation py)) (expectedRevision expectedDigest : Option String) :
    Prop where
  same_members : ∀ items', SameMembers items' items →
    statusOf py key items' expectedRevision expectedDigest = statusOf py key items expectedRevision expectedDigest
  verified : expectedRevision = none → statusOf py key items expectedRevision expectedDigest = .ok .verifiedExact →
    (∃ a ∈ items, ∃ b ∈ items, a.envelope.provider ≠ b.envelope.provider) ∧
      (∀ a ∈ items, ∀ b ∈ items, a.envelope.revision = b.envelope.revision) ∧
      ∀ a ∈ items, ∀ b ∈ items, ∀ d ∈ a.envelope.contentDigest, ∀ d' ∈ b.envelope.contentDigest, d = d'
  conflict : statusOf py key items expectedRevision expectedDigest = .ok .conflict →
    ∀ o items', (∀ x, x ∈ items' ↔ x = o ∨ x ∈ items) →
      statusOf py key items' expectedRevision expectedDigest ≠ .ok .verifiedExact

theorem SameMembers.envelopes {items items' : List (Observation py)} (h : SameMembers items' items) :
    SameMembers (items'.map (·.envelope)) (items.map (·.envelope)) := h.map _

theorem not_single {items : List (Observation py)} {a b : Observation py} (ha : a ∈ items) (hb : b ∈ items)
    (h : a.envelope.provider ≠ b.envelope.provider) : ¬ items.length = 1 := by
  intro hone
  obtain ⟨x, rfl⟩ := List.length_eq_one_iff.1 hone
  rw [List.mem_singleton.1 ha, List.mem_singleton.1 hb] at h
  exact h rfl

/-- A list of one provider's observations that agree is verified if it is not a single one. -/
theorem OneSided.status {key : String} {items : List (Observation py)} {er ed : Option String}
    (h : OneSided key items er ed) :
    statusOf py key items er ed = .ok (if items.length = 1 then .unresolved else .verifiedExact) := by
  obtain rfl := h.unanchored
  rw [statusOf_eq h.key, verdict_comparable h.comparable, revisionVerdict, if_pos h.revision, List.length_map]

theorem OneSided.of_sameMembers {key : String} {items items' : List (Observation py)} {er ed : Option String}
    (hs : SameMembers items' items) (h : OneSided key items er ed) : OneSided key items' er ed := by
  have hvalues := hs.envelopes
  refine ⟨h.key, h.unanchored, h.comparable.congr fun e => (hvalues e).symm, (SameRevision.congr hvalues).2 h.revision, ?_⟩
  simpa only [SameProvider, hvalues _] using h.provider

/-- Observing the same again verifies a single observation, and the observations of one provider are verified by
each other. -/
theorem OneSided.gamed {key : String} {items : List (Observation py)} {er ed : Option String}
    (h : OneSided key items er ed) : ¬ Ungamed key items er ed := by
  intro hu
  by_cases hone : items.length = 1
  · have htwice : SameMembers (items ++ items) items := fun x => by simp
    have heq := hu.same_members _ htwice
    rw [(h.of_sameMembers htwice).status, h.status, if_pos hone, if_neg (by simp [hone])] at heq
    cases heq
  · obtain ⟨⟨a, ha, b, hb, hab⟩, -, -⟩ := hu.verified h.unanchored (by rw [h.status, if_neg hone])
    exact hab (h.provider _ (List.mem_map_of_mem ha) _ (List.mem_map_of_mem hb))

theorem ungamed_blank {key : String} (hkey : nonblank key = false) (items : List (Observation py))
    (er ed : Option String) : Ungamed key items er ed where
  same_members _ _ := by rw [statusOf_blank hkey, statusOf_blank hkey]
  verified _ h := by rw [statusOf_blank hkey] at h; cases h
  conflict h := by rw [statusOf_blank hkey] at h; cases h

/-- The status of a list cannot be gamed, except where one provider's observations agree and no revision is
expected. -/
theorem reconcileExact_ungamed_iff (key : String) (items : List (Observation py)) (er ed : Option String) :
    Ungamed key items er ed ↔ ¬ OneSided key items er ed := by
  refine ⟨fun hu h => h.gamed hu, fun hnot => ?_⟩
  cases hkey : nonblank key with
  | false => exact ungamed_blank hkey items er ed
  | true =>
    have hpeers : Comparable (items.map (·.envelope)) ed → er = none → SameRevision (items.map (·.envelope)) →
        ∃ a ∈ items, ∃ b ∈ items, a.envelope.provider ≠ b.envelope.provider := by
      intro hcomp hnone hrev
      by_contra hall
      push Not at hall
      refine hnot ⟨hkey, hnone, hcomp, hrev, ?_⟩
      simpa [SameProvider] using hall
    constructor
    case same_members =>
      intro items' hs
      rw [statusOf_eq hkey, statusOf_eq hkey]
      refine congrArg _ (verdict_congr hs.envelopes fun hcomp hnone hrev => ?_)
      have hcomp' := hcomp.congr hs.envelopes
      obtain ⟨a, ha, b, hb, hab⟩ := hpeers hcomp' hnone ((SameRevision.congr hs.envelopes).1 hrev)
      simp only [List.length_map]
      exact iff_of_false (not_single ((hs a).2 ha) ((hs b).2 hb) hab) (not_single ha hb hab)
    case verified =>
      intro hnone hverified
      rw [statusOf_eq hkey, Except.ok.injEq] at hverified
      have hcomp := comparable_of_verified hverified
      subst hnone
      rw [verdict_comparable hcomp, revisionVerdict] at hverified
      split_ifs at hverified with hone hrev
      refine ⟨hpeers hcomp rfl hrev, fun a ha b hb => hrev _ (List.mem_map_of_mem ha) _ (List.mem_map_of_mem hb),
        fun a ha b hb d hd d' hd' => ?_⟩
      exact hcomp.digests.same (mem_digestsOf (List.mem_map_of_mem ha) hd) (mem_digestsOf (List.mem_map_of_mem hb) hd')
    case conflict =>
      intro hconflict o items' hmem hverified
      rw [statusOf_eq hkey, Except.ok.injEq] at hconflict hverified
      refine verdict_subset (fun e he => ?_) hverified hconflict
      obtain ⟨x, hx, rfl⟩ := List.mem_map.1 he
      exact List.mem_map_of_mem ((hmem x).2 (.inr hx))

/-! ## One observation, twice -/

/-- A standard library for which every time is aware. -/
def sampleClock : Stdlib := ⟨fun _ => "", fun _ => .aware 0, fun _ _ => "", fun _ => ""⟩

/-- An observation of one file by one provider. -/
def sampleArguments : EnvelopeArguments where
  provider := "github"
  locator := "file"
  revision := "r1"
  observedAt := "now"
  evidenceClass := "source_provenance"
  referent := "file"
  scope := "repository"
  privacyClass := "public"
  currentnessBasis := "head"
  supersessionState := "CURRENT_OBSERVATION"
  conflictState := "NONE"
  contentDigest := none
  receiptRef := none
  metadata := []

def sampleEnvelope : ProviderEvidenceEnvelope where
  provider := "github"
  locator := "file"
  revision := "r1"
  observedAt := "now"
  evidenceClass := "source_provenance"
  referent := "file"
  scope := "repository"
  privacyClass := "public"
  currentnessBasis := "head"
  supersessionState := .currentObservation
  conflictState := .none
  contentDigest := none
  receiptRef := none
  metadata := []

def sampleObservation : Observation sampleClock := ⟨sampleEnvelope, sampleArguments, rfl⟩

/-- The same observation twice verifies itself. -/
theorem reconcileExact_repeated :
    statusOf sampleClock "subject" [sampleObservation] none none = .ok .unresolved ∧
      statusOf sampleClock "subject" [sampleObservation, sampleObservation] none none = .ok .verifiedExact ∧
      ¬ ∀ (key : String) (items : List (Observation sampleClock)) (er ed : Option String), Ungamed key items er ed := by
  have hone : statusOf sampleClock "subject" [sampleObservation] none none = .ok .unresolved := rfl
  have htwo : statusOf sampleClock "subject" [sampleObservation, sampleObservation] none none = .ok .verifiedExact :=
    rfl
  refine ⟨hone, htwo, fun h => ?_⟩
  have heq := (h "subject" [sampleObservation] none none).same_members [sampleObservation, sampleObservation]
    fun x => by simp
  rw [hone, htwo] at heq
  cases heq

end VeraMono.Reconciliation
