import VeraMono.Framework.Checks
import VeraMono.Model.LearnedInfluence

/-!
# Learned influence, over any run

`Accounts` relates the tables to what the calls so far committed: the latest review of every
association with the evidence it bound, and the receipts, each a row of its own. Only a review
that binds evidence which a use has consumed breaks the split; `learned_influence` is about that.
-/

namespace VeraMono

open Framework

namespace LearnedInfluence

/-! ## What a call commits -/

theorem insertRow_ok {V : Type} [DecidableEq V] {fault : InfluenceError} {t t' : Table (id : V → V)} {v : V}
    (h : insertRow fault t v = .ok t') : t'.rows = t.rows ++ [v] := by
  rw [insertRow] at h
  split at h
  · rename_i hnone
    cases h
    exact Table.rows_insert hnone
  · cases h

theorem insertRows_ok {V : Type} [DecidableEq V] {fault : InfluenceError} {vs : List V} {t t' : Table (id : V → V)}
    (h : vs.foldlM (insertRow fault) t = .ok t') : t'.rows = t.rows ++ vs := by
  induction vs generalizing t with
  | nil =>
    cases h
    rw [List.append_nil]
  | cons v vs ih =>
    rw [List.foldlM_cons] at h
    obtain ⟨t₁, hv, h⟩ := bind_eq_ok.1 h
    rw [ih h, insertRow_ok hv, List.append_assoc, List.singleton_append]

theorem bindEvidence_ok {r : InfluenceReview} {c : InfluenceEvidence} {ids : List Text} {bs : List EvidenceBinding}
    (h : bindEvidence r c ids = .ok bs) : ∀ b ∈ bs, b.associationId = r.associationId ∧
      b.memoryRevisionId = r.memoryRevisionId ∧ b.evidenceClass = c ∧ .valid b.evidenceId ∈ ids := by
  induction ids generalizing bs with
  | nil =>
    cases h
    simp
  | cons t ids ih =>
    simp only [bindEvidence, List.mapM_cons, bind_eq_ok, pure_ok] at h
    obtain ⟨b, hb, bs, hbs, rfl⟩ := h
    obtain ⟨i, hi, rfl⟩ := map_eq_ok.1 hb
    have hvalid : t = .valid i := by
      cases t with
      | valid s =>
        cases hi
        rfl
      | surrogates cs => cases hi
    intro b' hb'
    rcases List.mem_cons.1 hb' with rfl | hb'
    · exact ⟨rfl, rfl, rfl, by simp [hvalid]⟩
    · obtain ⟨h₁, h₂, h₃, h₄⟩ := ih hbs b' hb'
      exact ⟨h₁, h₂, h₃, List.mem_cons_of_mem _ h₄⟩

/-- The evidence of a review is about what it reviews, and no identity is of both classes. -/
structure BindsSplit (r : CommittedReview) : Prop where
  about : ∀ b ∈ r.2, b.associationId = r.1.associationId ∧ b.memoryRevisionId = r.1.memoryRevisionId
  split : ∀ b ∈ r.2, ∀ b' ∈ r.2, b.evidenceId = b'.evidenceId → b.evidenceClass = b'.evidenceClass

structure ReviewCommitted (r : CommittedReview) (s s' : GateState) : Prop where
  split : BindsSplit r
  reviews : s'.reviews = s.reviews.upsert r.1
  bindings : s'.bindings.rows = (s.bindings.rows.filter fun b => b.associationId ≠ r.1.associationId) ++ r.2
  consumptions : s'.consumptions = s.consumptions
  useEvidence : s'.useEvidence = s.useEvidence

variable {history : List GateResult} {receipt : LearnedInfluenceReceipt} {s s' : GateState}
  {r : CommittedReview} {c : GateCall} {result : GateResult} {a : ConsumeArgs} {i : String}

theorem review_ok {a : ReviewArgs} (h : review a s = .ok (r, s')) : ReviewCommitted r s s' := by
  simp only [review, bind_eq_ok, pure_ok] at h
  obtain ⟨_, -, row, -, h⟩ := h
  obtain ⟨rfl, rfl⟩ := Prod.mk.inj h
  exact ⟨⟨by simp, by simp⟩, rfl, (List.append_nil _).symm, rfl, rfl⟩

theorem reviewQualified_ok {a : ReviewArgs} {calibrationIds qualificationIds : PyValue}
    (h : reviewQualified a calibrationIds qualificationIds s = .ok (r, s')) :
    ReviewCommitted r s s' := by
  simp only [reviewQualified, bind_eq_ok, ite_error_ok, ↓throw_bind, pure_ok] at h
  obtain ⟨_, -, calibration, -, qualification, -, hdisjoint, row, -, fitting, hfitting, judging, hjudging, bindings,
    hbindings, h⟩ := h
  obtain ⟨rfl, rfl⟩ := Prod.mk.inj h
  have hfit := bindEvidence_ok hfitting
  have hjudge := bindEvidence_ok hjudging
  refine ⟨⟨fun b hb => ?_, fun b hb b' hb' hid => ?_⟩, rfl, insertRows_ok hbindings, rfl, rfl⟩
  · rcases List.mem_append.1 hb with hb | hb
    · exact ⟨(hfit b hb).1, (hfit b hb).2.1⟩
    · exact ⟨(hjudge b hb).1, (hjudge b hb).2.1⟩
  · rcases List.mem_append.1 hb with hb | hb <;> rcases List.mem_append.1 hb' with hb' | hb'
    · exact (hfit b hb).2.2.1.trans (hfit b' hb').2.2.1.symm
    · exact absurd ⟨_, (hfit b hb).2.2.2, hid ▸ (hjudge b' hb').2.2.2⟩ hdisjoint
    · exact absurd ⟨_, (hfit b' hb').2.2.2, hid ▸ (hjudge b hb).2.2.2⟩ hdisjoint
    · exact (hjudge b hb).2.2.1.trans (hjudge b' hb').2.2.1.symm

/-- The row that a receipt leaves of its cue. -/
def LearnedInfluenceReceipt.consumption (receipt : LearnedInfluenceReceipt) : Consumption :=
  ⟨receipt.associationId, receipt.memoryRevisionId, receipt.cueEventId⟩

/-- The row that a receipt leaves of its evidence, if it needed any. -/
def LearnedInfluenceReceipt.use (receipt : LearnedInfluenceReceipt) : Option UseEvidence :=
  receipt.useEvidenceId.map fun i => ⟨receipt.associationId, receipt.memoryRevisionId, i⟩

structure Consumed (a : ConsumeArgs) (receipt : LearnedInfluenceReceipt) (s s' : GateState) : Prop where
  revision : ∃ revision, a.revision = some revision ∧ revision.associationId = .valid receipt.associationId ∧
    revision.memoryRevisionId = .valid receipt.memoryRevisionId
  review : ∃ r, s.reviews.get? receipt.associationId = some r ∧ r.memoryRevisionId = receipt.memoryRevisionId ∧
    r.disposition = .admitted ∧ receipt.reviewEvidenceRef = r.evidenceRef
  qualified : a.requireQualified = true → ∀ c, ∃ b ∈ s.bindings.rows, b.associationId = receipt.associationId ∧
    b.memoryRevisionId = receipt.memoryRevisionId ∧ b.evidenceClass = c
  apart : ∀ u, receipt.use = some u → ∀ b ∈ s.bindings.rows, b.associationId = u.associationId →
    b.memoryRevisionId = u.memoryRevisionId → b.evidenceId ≠ u.evidenceId
  consumptions : s'.consumptions.rows = s.consumptions.rows ++ [receipt.consumption]
  useEvidence : s'.useEvidence.rows = s.useEvidence.rows ++ receipt.use.toList
  reviews : s'.reviews = s.reviews
  bindings : s'.bindings = s.bindings

theorem bindText_ok {t : Text} {s : String} (h : bindText t = .ok s) : t = .valid s := by
  cases t with
  | valid s' =>
    cases h
    rfl
  | surrogates cs => cases h

theorem admittedReview_ok {q : Bool} {t : Text} {s : GateState} {r : InfluenceReview}
    (h : admittedReview q i t s = .ok r) : s.reviews.get? i = some r ∧ t = .valid r.memoryRevisionId ∧
      r.disposition = .admitted := by
  rw [admittedReview] at h
  split at h
  · cases h
  · rename_i r' hr
    simp only [ite_error_ok, not_not] at h
    obtain ⟨-, hrevision, hdisposition, h⟩ := h
    cases h
    refine ⟨hr, hrevision.symm, ?_⟩
    cases hd : r.disposition with
    | admitted => rfl
    | quarantined => exact absurd hd hdisposition

theorem recordUse_ok {r : InfluenceReview} {rows : List EvidenceBinding} {v : PyValue} {s : GateState}
    {i : Option String} {t : Table (id : UseEvidence → UseEvidence)} (h : recordUse r rows v s = .ok (i, t)) :
    (∀ id, i = some id → ∀ b ∈ rows, b.evidenceId ≠ id) ∧
      t.rows = s.useEvidence.rows ++ (i.map fun id => ⟨r.associationId, r.memoryRevisionId, id⟩).toList := by
  unfold recordUse at h
  split at h
  · split at h
    · cases h
      exact ⟨by simp, by simp⟩
    · cases h
  · split at h
    · simp only [bind_eq_ok, ite_error_ok, ↓throw_bind, pure_ok] at h
      obtain ⟨-, hfree, id, hid, t', ht', h⟩ := h
      obtain ⟨rfl, rfl⟩ := Prod.mk.inj h
      refine ⟨?_, insertRow_ok ht'⟩
      rintro _ ⟨⟩ b hb rfl
      refine hfree (List.any_eq_true.2 ⟨b, hb, ?_⟩)
      rw [bindText_ok hid, decide_eq_true_eq]
    · cases h

theorem consume_ok (h : consume a s = .ok (receipt, s')) : Consumed a receipt s s' := by
  simp only [consume, bind_eq_ok, ite_error_ok, ↓throw_bind, pure_ok] at h
  obtain ⟨revision, hrevision, cue, -, i, hi, r, hr, hrows, ⟨used, t⟩, huse, cueId, hcue, consumptions, hconsumed,
    h⟩ := h
  obtain ⟨rfl, rfl⟩ := Prod.mk.inj h
  obtain ⟨hget, hrevisionId, hadmitted⟩ := admittedReview_ok hr
  obtain ⟨hapart, hused⟩ := recordUse_ok huse
  have hkey : r.associationId = i := Table.get?_key hget
  constructor
  · refine ⟨revision, ?_, (bindText_ok hi).trans (by rw [hkey]), hrevisionId⟩
    cases ha : a.revision with
    | none =>
      rw [ha] at hrevision
      cases hrevision
    | some revision' =>
      rw [ha] at hrevision
      cases hrevision
      rfl
  · exact ⟨r, hkey ▸ hget, rfl, hadmitted, rfl⟩
  · intro hqualified c
    have hsplit : (∃ b ∈ evidenceRows r s, b.evidenceClass = .calibration) ∧
        ∃ b ∈ evidenceRows r s, b.evidenceClass = .qualification := by
      by_contra hnot
      exact hrows ⟨hqualified, hnot⟩
    have hclass : ∃ b ∈ evidenceRows r s, b.evidenceClass = c := by
      cases c with
      | calibration => exact hsplit.1
      | qualification => exact hsplit.2
    obtain ⟨b, hb, hc⟩ := hclass
    obtain ⟨hmem, hsame⟩ := List.mem_filter.1 hb
    rw [decide_eq_true_eq] at hsame
    exact ⟨b, hmem, hsame.1, hsame.2, hc⟩
  · intro u hu b hb ha hrev
    obtain ⟨id, hid, rfl⟩ := Option.map_eq_some_iff.1 hu
    exact hapart id hid b (List.mem_filter.2 ⟨hb, by simp only [ha, hrev, and_self, decide_true]⟩)
  · exact insertRow_ok hconsumed
  · exact hused
  · rfl
  · rfl

/-! ## Histories -/

def GateResult.review? : GateResult → Option CommittedReview
  | .reviewed r => some r
  | .influenced _ => none

def GateResult.receipt? : GateResult → Option LearnedInfluenceReceipt
  | .reviewed _ => none
  | .influenced receipt => some receipt

def latestReview (history : List GateResult) (associationId : String) : Option CommittedReview :=
  (history.filterMap GateResult.review?).reverse.find? fun r => r.1.associationId = associationId

def receipts (history : List GateResult) : List LearnedInfluenceReceipt := history.filterMap GateResult.receipt?

theorem latestReview_reviewed :
    latestReview (history ++ [.reviewed r]) i =
      if r.1.associationId = i then some r else latestReview history i := by
  simp only [latestReview, List.filterMap_append, List.filterMap_cons, List.filterMap_nil, GateResult.review?,
    List.reverse_append, List.reverse_cons, List.reverse_nil, List.nil_append, List.singleton_append, List.find?_cons]
  split_ifs with h
  · simp [h]
  · simp [h]

theorem latestReview_influenced :
    latestReview (history ++ [.influenced receipt]) i = latestReview history i := by
  rw [latestReview, latestReview, List.filterMap_append, List.filterMap_cons_none rfl, List.filterMap_nil,
    List.append_nil]

theorem receipts_reviewed : receipts (history ++ [.reviewed r]) = receipts history := by
  simp [receipts, GateResult.receipt?]

theorem receipts_influenced :
    receipts (history ++ [.influenced receipt]) = receipts history ++ [receipt] := by
  simp [receipts, GateResult.receipt?]

/-- The tables hold what the history committed. -/
structure Accounts (history : List GateResult) (s : GateState) : Prop where
  reviews : ∀ i, s.reviews.get? i = (latestReview history i).map Prod.fst
  bindings : ∀ b, b ∈ s.bindings.rows ↔ ∃ r, latestReview history b.associationId = some r ∧ b ∈ r.2
  split : ∀ i r, latestReview history i = some r → BindsSplit r
  consumptions : s.consumptions.rows = (receipts history).map LearnedInfluenceReceipt.consumption
  useEvidence : s.useEvidence.rows = (receipts history).filterMap LearnedInfluenceReceipt.use

theorem accounts_empty : Accounts [] .empty :=
  ⟨fun _ => rfl, by simp [GateState.empty, Table.empty, latestReview], by simp [latestReview], rfl, rfl⟩

theorem Accounts.reviewed
    (h : Accounts history s) (hr : ReviewCommitted r s s') : Accounts (history ++ [.reviewed r]) s' := by
  constructor
  · intro i
    rw [hr.reviews, latestReview_reviewed]
    split_ifs with hi
    · subst hi
      exact Table.get?_upsert_self
    · rw [Table.get?_upsert_other (Ne.symm hi), h.reviews]
  · intro b
    rw [hr.bindings, List.mem_append, List.mem_filter, h.bindings, latestReview_reviewed]
    split_ifs with hi
    · simp [hi]
    · simp only [Ne.symm hi, ne_eq, not_false_eq_true, decide_true, and_true]
      refine ⟨fun hb => hb.resolve_right fun hb => hi (hr.split.about b hb).1.symm, Or.inl⟩
  · intro i x hx
    rw [latestReview_reviewed] at hx
    split_ifs at hx with hi
    · cases hx
      exact hr.split
    · exact h.split i x hx
  · rw [hr.consumptions, receipts_reviewed, h.consumptions]
  · rw [hr.useEvidence, receipts_reviewed, h.useEvidence]

theorem Accounts.consumed (h : Accounts history s) (hc : Consumed a receipt s s') :
    Accounts (history ++ [.influenced receipt]) s' := by
  constructor
  · intro i
    rw [hc.reviews, latestReview_influenced, h.reviews]
  · intro b
    rw [hc.bindings, latestReview_influenced, h.bindings]
  · intro i r hr
    rw [latestReview_influenced] at hr
    exact h.split i r hr
  · rw [hc.consumptions, receipts_influenced, h.consumptions, List.map_append, List.map_singleton]
  · rw [hc.useEvidence, receipts_influenced, h.useEvidence, List.filterMap_append]
    cases huse : receipt.use with
    | none => simp [huse]
    | some u => simp [huse]

theorem perform_ok (h : perform c s = .ok (result, s')) :
    (∃ r, result = .reviewed r ∧ ReviewCommitted r s s') ∨
      ∃ a receipt, c = .consume a ∧ result = .influenced receipt ∧ Consumed a receipt s s' := by
  cases c with
  | review a =>
    obtain ⟨⟨r, s''⟩, hr, h⟩ := map_eq_ok.1 h
    obtain ⟨rfl, rfl⟩ := Prod.mk.inj h
    exact .inl ⟨r, rfl, review_ok hr⟩
  | reviewQualified a calibrationIds qualificationIds =>
    obtain ⟨⟨r, s''⟩, hr, h⟩ := map_eq_ok.1 h
    obtain ⟨rfl, rfl⟩ := Prod.mk.inj h
    exact .inl ⟨r, rfl, reviewQualified_ok hr⟩
  | consume a =>
    obtain ⟨⟨receipt, s''⟩, hr, h⟩ := map_eq_ok.1 h
    obtain ⟨rfl, rfl⟩ := Prod.mk.inj h
    exact .inr ⟨a, receipt, rfl, rfl, consume_ok hr⟩

theorem accounts_step
    (h : Accounts history s) (hc : perform c s = .ok (result, s')) : Accounts (history ++ [result]) s' := by
  rcases perform_ok hc with ⟨r, rfl, hr⟩ | ⟨a, receipt, -, rfl, hconsumed⟩
  · exact h.reviewed hr
  · exact h.consumed hconsumed

/-- What the calls of a run committed. -/
def historyOf (cs : List GateCall) : List GateResult := results perform .empty cs

/-- The tables after a run. -/
def stateAfter (cs : List GateCall) : GateState := runCalls perform .empty cs

theorem accounts_run (cs : List GateCall) : Accounts (historyOf cs) (stateAfter cs) :=
  results_invariant (P := Accounts) accounts_empty fun _ _ _ _ _ h hc => accounts_step h hc

/-! ## Evidence of one class only -/

/-- For each association and revision the evidence that is bound for calibration, that is bound for
qualification and that a use consumed is disjoint. -/
structure EvidenceApart (s : GateState) : Prop where
  bound : ∀ b ∈ s.bindings.rows, ∀ b' ∈ s.bindings.rows, b.associationId = b'.associationId →
    b.memoryRevisionId = b'.memoryRevisionId → b.evidenceId = b'.evidenceId → b.evidenceClass = b'.evidenceClass
  used : ∀ b ∈ s.bindings.rows, ∀ u ∈ s.useEvidence.rows, b.associationId = u.associationId →
    b.memoryRevisionId = u.memoryRevisionId → b.evidenceId ≠ u.evidenceId

/-- No review binds evidence that a use of its association and revision has consumed. -/
def FreshEvidence (s : GateState) (c : GateCall) : Prop :=
  ∀ r s', perform c s = .ok (.reviewed r, s') → ∀ b ∈ r.2, ∀ u ∈ s.useEvidence.rows,
    b.associationId = u.associationId → b.memoryRevisionId = u.memoryRevisionId → b.evidenceId ≠ u.evidenceId

theorem Accounts.bound_apart {s : GateState} (h : Accounts history s) :
    ∀ b ∈ s.bindings.rows, ∀ b' ∈ s.bindings.rows, b.associationId = b'.associationId →
      b.memoryRevisionId = b'.memoryRevisionId → b.evidenceId = b'.evidenceId →
      b.evidenceClass = b'.evidenceClass := by
  intro b hb b' hb' ha _ hid
  obtain ⟨r, hr, hmem⟩ := (h.bindings b).1 hb
  obtain ⟨r', hr', hmem'⟩ := (h.bindings b').1 hb'
  rw [← ha, hr, Option.some.injEq] at hr'
  subst hr'
  exact (h.split _ _ hr).split b hmem b' hmem' hid

/-- Evidence stays apart through a call that binds none that was used. -/
theorem EvidenceApart.step
    (hacc : Accounts history s) (h : EvidenceApart s) (hfresh : FreshEvidence s c)
    (hc : perform c s = .ok (result, s')) : EvidenceApart s' := by
  refine ⟨(accounts_step hacc hc).bound_apart, ?_⟩
  rcases perform_ok hc with ⟨r, rfl, hr⟩ | ⟨a, receipt, -, rfl, hconsumed⟩
  · intro b hb u hu
    rw [hr.bindings] at hb
    rw [hr.useEvidence] at hu
    rcases List.mem_append.1 hb with hb | hb
    · exact h.used b (List.mem_filter.1 hb).1 u hu
    · exact hfresh r s' hc b hb u hu
  · intro b hb u hu ha hrev
    rw [hconsumed.bindings] at hb
    rw [hconsumed.useEvidence] at hu
    rcases List.mem_append.1 hu with hu | hu
    · exact h.used b hb u hu ha hrev
    · exact hconsumed.apart u (Option.mem_toList.1 hu) b hb ha hrev

/-- A review that binds used evidence leaves it in two classes. -/
theorem freshEvidence_of_apart {s : GateState}
    (h : ∀ r s', perform c s = .ok (r, s') → EvidenceApart s') : FreshEvidence s c := by
  intro r s' hc b hb u hu ha hrev
  have happart := h (.reviewed r) s' hc
  rcases perform_ok hc with ⟨r', hr', hreview⟩ | ⟨_, _, _, hinfluenced, _⟩
  · cases hr'
    refine happart.used b ?_ u (by rw [hreview.useEvidence]; exact hu) ha hrev
    rw [hreview.bindings]
    exact List.mem_append_right _ hb
  · cases hinfluenced

/-! ## Runs -/

/-- What a `consume` that succeeds after a run relies on. -/
structure Reviewed (cs : List GateCall) (a : ConsumeArgs) (receipt : LearnedInfluenceReceipt) : Prop where
  revision : ∃ revision, a.revision = some revision ∧ revision.associationId = .valid receipt.associationId ∧
    revision.memoryRevisionId = .valid receipt.memoryRevisionId
  latest : ∃ r, latestReview (historyOf cs) receipt.associationId = some r ∧
    r.1.memoryRevisionId = receipt.memoryRevisionId ∧ r.1.disposition = .admitted ∧
    (a.requireQualified = true → ∀ c, ∃ b ∈ r.2, b.evidenceClass = c)

/-- Learned influence is reviewed, used once, and not confirmed by its own evidence. -/
structure Governed (cs : List GateCall) : Prop where
  reviewed : ∀ before after a receipt s', cs = before ++ .consume a :: after →
    consume a (stateAfter before) = .ok (receipt, s') → Reviewed before a receipt
  cues : ((receipts (historyOf cs)).map LearnedInfluenceReceipt.consumption).Nodup
  uses : ((receipts (historyOf cs)).filterMap LearnedInfluenceReceipt.use).Nodup
  raised : ∀ before after a e, cs = before ++ .consume a :: after → consume a (stateAfter before) = .error e →
    stateAfter (before ++ [.consume a]) = stateAfter before
  apart : ∀ before after, cs = before ++ after → EvidenceApart (stateAfter before)

theorem consume_reviewed {cs : List GateCall} {s' : GateState}
    (h : consume a (stateAfter cs) = .ok (receipt, s')) : Reviewed cs a receipt := by
  have hacc := accounts_run cs
  have hconsumed := consume_ok h
  obtain ⟨row, hrow, hrevision, hadmitted, -⟩ := hconsumed.review
  rw [hacc.reviews] at hrow
  obtain ⟨r, hr, rfl⟩ := Option.map_eq_some_iff.1 hrow
  refine ⟨hconsumed.revision, r, hr, hrevision, hadmitted, fun hqualified c => ?_⟩
  obtain ⟨b, hb, ha, -, hc⟩ := hconsumed.qualified hqualified c
  obtain ⟨r', hr', hmem⟩ := (hacc.bindings b).1 hb
  rw [ha, hr, Option.some.injEq] at hr'
  exact ⟨b, hr' ▸ hmem, hc⟩

theorem stateAfter_append (before after : List GateCall) :
    stateAfter (before ++ after) = runCalls perform (stateAfter before) after := runCalls_append

theorem apart_of_fresh {cs : List GateCall}
    (h : ∀ before c after, cs = before ++ c :: after → FreshEvidence (stateAfter before) c) :
    EvidenceApart (stateAfter cs) := by
  have hempty : Accounts [] .empty ∧ EvidenceApart .empty := ⟨accounts_empty, ⟨nofun, nofun⟩⟩
  have hrun : Accounts ([] ++ historyOf cs) (stateAfter cs) ∧ EvidenceApart (stateAfter cs) :=
    results_invariant_of (P := fun history s => Accounts history s ∧ EvidenceApart s) (G := FreshEvidence) hempty
      (fun history s c result s' hP hG hc => ⟨accounts_step hP.1 hc, hP.2.step hP.1 hG hc⟩) h
  exact hrun.2

/-- Learned influence is governed in a run just when no review of it binds evidence that a use of
the same association and revision has consumed. -/
theorem learned_influence (cs : List GateCall) :
    Governed cs ↔ ∀ before c after, cs = before ++ c :: after → FreshEvidence (stateAfter before) c := by
  constructor
  · intro h before c after hcs
    refine freshEvidence_of_apart fun r s' hc => ?_
    have hafter := h.apart (before ++ [c]) after (by rw [hcs, List.append_assoc, List.singleton_append])
    rwa [stateAfter_append, runCalls, List.foldl_cons, List.foldl_nil, commit_ok hc] at hafter
  · intro h
    have hacc := accounts_run cs
    constructor
    · intro before after a receipt s' _ hok
      exact consume_reviewed hok
    · rw [← hacc.consumptions, ← List.map_id (stateAfter cs).consumptions.rows]
      exact (stateAfter cs).consumptions.nodup
    · rw [← hacc.useEvidence, ← List.map_id (stateAfter cs).useEvidence.rows]
      exact (stateAfter cs).useEvidence.nodup
    · intro before after a e _ herror
      rw [stateAfter_append, runCalls, List.foldl_cons, List.foldl_nil]
      refine commit_error (e := e) ?_
      rw [perform, herror]
      rfl
    · rintro before after rfl
      refine apart_of_fresh fun before' c after' hsplit => ?_
      exact h before' c (after' ++ after) (by rw [hsplit, List.append_assoc, List.cons_append])

/-! ### Evidence that a use consumed -/

def text (s : String) : PyValue := .str (.valid s)

def admitting : ReviewArgs := ⟨text "a", text "r", some .admitted, text "e"⟩

/-- Evidence of a use that a second review binds for calibration. -/
def confirmedByItself : List GateCall :=
  [.reviewQualified admitting (.tuple [text "c"]) (.tuple [text "q"]),
    .consume ⟨some ⟨.valid "a", .valid "r", by decide, by decide⟩, text "cue", text "u", true⟩,
    .reviewQualified admitting (.tuple [text "u"]) (.tuple [text "q"])]

theorem confirmedByItself_rows :
    (⟨"a", "r", .calibration, "u"⟩ : EvidenceBinding) ∈ (stateAfter confirmedByItself).bindings.rows ∧
      (⟨"a", "r", "u"⟩ : UseEvidence) ∈ (stateAfter confirmedByItself).useEvidence.rows := by
  decide +kernel

/-- Not every run is governed. -/
theorem used_evidence_rebound : ¬ ∀ cs, Governed cs := by
  intro h
  have happart := (h confirmedByItself).apart confirmedByItself [] (by rw [List.append_nil])
  exact happart.used _ confirmedByItself_rows.1 _ confirmedByItself_rows.2 rfl rfl rfl

end LearnedInfluence

end VeraMono
